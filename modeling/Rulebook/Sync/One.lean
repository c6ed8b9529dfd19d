import Rulebook.Engine
import Rulebook.Rules.Compile
import Rulebook.Rules.Overview

/-!
# Syncing a community

A sync fetches both pages, compiles the rules, merges the corrections on file and stores
the result with its source. Then it leaves the overview with the community, if that is
registered.

Trouble with the source never fails a sync: a page that cannot be had counts as empty.
Trouble with the database does. The fetches come first and touch only the traffic; all
work on the database follows in one step, so the fetches of several communities may come
before that step of the first.
-/

namespace Rulebook

open Calendar (Moment)

/-- What the two pages of a community yielded. -/
structure Gathered where
  rules : List Json
  wiki : Json

namespace Gathered

/-- The content of the wiki page as far as it is text. -/
def wikiText (gathered : Gathered) : String := gathered.wiki.text?.getD ""

/-- The automated rules that the pages amount to. -/
def compile (gathered : Gathered) : Except Fault Rules := do
  let statements ← gathered.rules.mapM Statement.ofJson
  return Rules.compile statements gathered.wikiText

end Gathered

/-- The value of a fetch, or the given one when it failed. -/
def fetchedOr {α : Type} (value : α) : Except Failure α → α
  | .ok fetched => fetched
  | .error _ => value

/-- Fetches both pages of a community, the page of rules first. -/
def Traffic.gather (t : Traffic) (settings : SyncSettings) (key : String) : Gathered × Traffic :=
  let (rules, t) := t.fetchRules settings key
  let (wiki, t) := t.fetchWiki settings key
  (⟨fetchedOr [] rules, fetchedOr (.str "") wiki⟩, t)

/-- The specification that a sync stores. -/
def syncedSpec (automated : Rules) (overrides : Option Override) (fetchedAt : Moment)
    (aboutUrl wikiUrl : String) : RuleSpec :=
  { RuleSpec.merge automated (some (overrides.getD {})) with
    source := some ⟨some fetchedAt, some aboutUrl, some wikiUrl, automated⟩ }

namespace Engine

/-- The specification that a sync is going to store, from what was gathered and what is on
file. -/
def prepare (engine : Engine) (key : String) (gathered : Gathered) : Except Failure RuleSpec := do
  let automated ← Failure.ofFault gathered.compile
  let existing ← engine.db.getRules key
  let aboutUrl ← Failure.ofFault (engine.sync.url .aboutRules key)
  let wikiUrl ← Failure.ofFault (engine.sync.url .wiki key)
  return syncedSpec automated (existing.bind (·.overrides)) engine.now aboutUrl wikiUrl

/-- Leaves the overview of a specification with its community, unless no list of
communities is kept. -/
def leaveOverview (engine : Engine) (key : String) (spec : RuleSpec) : Outcome Unit :=
  if engine.knowsCommunities then
    match engine.db.updateCommunity key spec.overview.document (some engine.now) with
    | .ok (db, _) => (.ok (), { engine with db })
    | .error failure => (.error failure, engine)
  else (.ok (), engine)

/-- Stores what was gathered for a community, without counting. -/
def store (engine : Engine) (key : String) (gathered : Gathered) : Outcome RuleSpec :=
  match engine.prepare key gathered with
  | .error failure => (.error failure, engine)
  | .ok spec =>
    match engine.db.putRules key spec with
    | .error failure => (.error failure, engine)
    | .ok db =>
      match ({ engine with db } : Engine).leaveOverview key spec with
      | (.error failure, engine) => (.error failure, engine)
      | (.ok _, engine) => (.ok spec, engine)

/-- Stores what was gathered for a community and counts the outcome. -/
def finish (engine : Engine) (key : String) (gathered : Gathered) : Outcome RuleSpec :=
  match engine.store key gathered with
  | (.ok spec, engine) => (.ok spec, engine.record (.synced true))
  | (.error failure, engine) => (.error failure, engine.record (.synced false))

/-- The key under which a community is synced; an empty one is refused. -/
def syncKey (name : String) : Except Failure String :=
  let key := Community.key name
  if key == "" then .error (.invalidName (Text.quoted name)) else .ok key

/-- Fetches the pages of a community. -/
def gather (engine : Engine) (key : String) : Gathered × Engine :=
  let (gathered, traffic) := engine.traffic.gather engine.sync key
  (gathered, { engine with traffic })

/-- Syncs one community and gives the stored specification. -/
def syncOne (engine : Engine) (name : String) : Outcome RuleSpec :=
  match syncKey name with
  | .error failure => (.error failure, engine)
  | .ok key =>
    let (gathered, engine) := engine.gather key
    engine.finish key gathered

end Engine

end Rulebook
