import Rulebook.Rules.Printer
import Rulebook.Rules.Reader
import Rulebook.Store.Basic

/-!
# Stored rules

One document per community. Writing replaces the document as a whole; reading applies the
corrections it holds.
-/

namespace Rulebook.Database

/-- The stored document of a community, if there is one. -/
def ruleDocument? (db : Database) (key : String) : Result (Option Json) := do
  db.session
  let rows ← orFail (.ruleRead key) db.rules.read?
  match Table.rowAt? RuleRow.community key rows with
  | some row => return if row.document.isNull then none else some row.document
  | none => return none

/-- The rules of a community, none if it was never synced. -/
def getRules (db : Database) (name : String) : Result (Option RuleSpec) := do
  match ← db.ruleDocument? (Community.key name) with
  | some document => return some (← Failure.ofChecked (RuleSpec.read document))
  | none => return none

/-- Puts a document under a key. -/
def putDocument? (db : Database) (key : String) (document : Json) : Option Database :=
  (db.rules.write? (Table.putRow RuleRow.community ⟨key, document⟩ db.rules.rows)).map
    fun rules => { db with rules }

/-- Stores the rules of a community. -/
def putRules (db : Database) (name : String) (spec : RuleSpec) : Result Database := do
  let key := Community.key name
  db.session
  if spec.document.isStorable then orFail (.ruleWrite key) (db.putDocument? key spec.document)
  else .error (.store (.ruleWrite key))

end Rulebook.Database
