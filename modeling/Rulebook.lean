import Rulebook.Extract.Query
import Rulebook.Main
import Rulebook.Proofs.Accounting
import Rulebook.Proofs.Addresses
import Rulebook.Proofs.Aftermath
import Rulebook.Proofs.Ages
import Rulebook.Proofs.Alphabet
import Rulebook.Proofs.Banning
import Rulebook.Proofs.Batches
import Rulebook.Proofs.Brackets
import Rulebook.Proofs.Calls
import Rulebook.Proofs.Checking
import Rulebook.Proofs.Closing
import Rulebook.Proofs.Countdown
import Rulebook.Proofs.Counters
import Rulebook.Proofs.Curation
import Rulebook.Proofs.Days
import Rulebook.Proofs.Documents
import Rulebook.Proofs.Entries
import Rulebook.Proofs.Fetching
import Rulebook.Proofs.Findings
import Rulebook.Proofs.Growth
import Rulebook.Proofs.Headers
import Rulebook.Proofs.Holding
import Rulebook.Proofs.Interleaving
import Rulebook.Proofs.Joining
import Rulebook.Proofs.Keys
import Rulebook.Proofs.Landing
import Rulebook.Proofs.Layers
import Rulebook.Proofs.Letters
import Rulebook.Proofs.Limits
import Rulebook.Proofs.Links
import Rulebook.Proofs.Locality
import Rulebook.Proofs.Lowering
import Rulebook.Proofs.Merging
import Rulebook.Proofs.Moments
import Rulebook.Proofs.Notes
import Rulebook.Proofs.Numbers
import Rulebook.Proofs.Numerals
import Rulebook.Proofs.Operations
import Rulebook.Proofs.Outcomes
import Rulebook.Proofs.Overviews
import Rulebook.Proofs.Places
import Rulebook.Proofs.Previews
import Rulebook.Proofs.Printing
import Rulebook.Proofs.Readings
import Rulebook.Proofs.Record
import Rulebook.Proofs.Redaction
import Rulebook.Proofs.Refusals
import Rulebook.Proofs.Registration
import Rulebook.Proofs.Reordering
import Rulebook.Proofs.Replies
import Rulebook.Proofs.Reports
import Rulebook.Proofs.Representatives
import Rulebook.Proofs.Requests
import Rulebook.Proofs.Rereading
import Rulebook.Proofs.Roster
import Rulebook.Proofs.Rounding
import Rulebook.Proofs.Rows
import Rulebook.Proofs.RuleMap
import Rulebook.Proofs.Schedules
import Rulebook.Proofs.Searches
import Rulebook.Proofs.Separators
import Rulebook.Proofs.Skipping
import Rulebook.Proofs.Spacing
import Rulebook.Proofs.Spellings
import Rulebook.Proofs.Stamps
import Rulebook.Proofs.Statuses
import Rulebook.Proofs.Steps
import Rulebook.Proofs.Storable
import Rulebook.Proofs.Store
import Rulebook.Proofs.Strictness
import Rulebook.Proofs.Sync
import Rulebook.Proofs.Tagging
import Rulebook.Proofs.Terms
import Rulebook.Proofs.Trouble
import Rulebook.Proofs.Units
import Rulebook.Proofs.Upkeep
import Rulebook.Proofs.Verdicts
import Rulebook.Proofs.Violations
import Rulebook.Proofs.Warnings
import Rulebook.Proofs.Window
