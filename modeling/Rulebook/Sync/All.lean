import Rulebook.Sync.One

/-!
# Syncing many communities

Communities are synced in batches with a pause between batches and none after the last.
Within a batch all pages are fetched before anything is stored. A community whose sync
fails is reported with the reason and does not stop the others.
-/

namespace Rulebook

/-- The report of a run. -/
structure SyncReport where
  total : Nat
  succeeded : List String := []
  failed : List (String × String) := []
  pauses : List Json := []

namespace SyncReport

/-- True when no community failed. -/
def ok (report : SyncReport) : Bool := report.failed.isEmpty

/-- Notes the outcome of one community. Of several failures under one name the last reason
stays. -/
def note (report : SyncReport) (name : String) (failure : Option String) : SyncReport :=
  match failure with
  | none => { report with succeeded := report.succeeded ++ [name] }
  | some reason => { report with failed := putReason reason report.failed }
where
  putReason (reason : String) : List (String × String) → List (String × String)
    | [] => [(name, reason)]
    | entry :: rest =>
      if entry.1 == name then (name, reason) :: rest else entry :: putReason reason rest

/-- The report as a document, without the pauses. -/
def document (report : SyncReport) : Json :=
  .obj [("total", .int report.total), ("succeeded", Json.strings report.succeeded),
    ("failed", .obj (report.failed.map fun failure => (failure.1, .str failure.2)))]

end SyncReport

namespace Engine

/-- A community of a batch after its fetches: what was gathered under its key, or why its
name is refused. -/
abbrev BatchItem := Except Failure (String × Gathered)

/-- Fetches the pages of all communities of a batch. -/
def gatherBatch (engine : Engine) : List String → List (String × BatchItem) × Engine
  | [] => ([], engine)
  | name :: rest =>
    match syncKey name with
    | .error failure =>
      let (items, engine) := engine.gatherBatch rest
      ((name, .error failure) :: items, engine)
    | .ok key =>
      let (gathered, engine) := engine.gather key
      let (items, engine) := engine.gatherBatch rest
      ((name, .ok (key, gathered)) :: items, engine)

/-- Stores what was gathered for one community of a batch; the result is the reason of a
failure. -/
def finishItem (engine : Engine) (item : BatchItem) : Option String × Engine :=
  match item with
  | .error failure => (some failure.message, engine)
  | .ok (key, gathered) =>
    match engine.finish key gathered with
    | (.ok _, engine) => (none, engine)
    | (.error failure, engine) => (some failure.message, engine)

/-- Stores what was gathered for a batch and notes the outcomes. -/
def finishBatch (engine : Engine) (report : SyncReport) :
    List (String × BatchItem) → SyncReport × Engine
  | [] => (report, engine)
  | (name, item) :: rest =>
    let (failure, engine) := engine.finishItem item
    engine.finishBatch (report.note name failure) rest

/-- Syncs the communities of one batch. -/
def syncBatch (engine : Engine) (report : SyncReport) (batch : List String) :
    SyncReport × Engine :=
  let (items, engine) := engine.gatherBatch batch
  engine.finishBatch report items

/-- Cuts a list into batches of a positive size. -/
def batches (size : Nat) (names : List String) : List (List String) :=
  match names with
  | [] => []
  | name :: rest =>
    (name :: rest.take (size - 1)) :: batches size (rest.drop (size - 1))
termination_by names.length
decreasing_by simp only [List.length_drop, List.length_cons]; omega

/-- Syncs batch after batch, with the pause between them. -/
def syncBatches (engine : Engine) (pause : Json) (report : SyncReport) :
    List (List String) → SyncReport × Engine
  | [] => (report, engine)
  | [batch] => engine.syncBatch report batch
  | batch :: rest =>
    let (report, engine) := engine.syncBatch report batch
    engine.syncBatches pause { report with pauses := report.pauses ++ [pause] } rest

/-- The size of a batch: at least one, and an integer. -/
def batchSize (settings : SyncSettings) : Except Fault Nat := do
  match ← settings.batchSize.number with
  | .int size => return (max 1 size).toNat
  | .float size => if Number.less (.int 1) (.float size) then throw .wrongType else return 1

/-- Syncs the given communities. -/
def syncNames (engine : Engine) (names : List String) : Outcome SyncReport :=
  match batchSize engine.sync with
  | .error fault => (.error (.fault fault), engine)
  | .ok size =>
    let (report, engine) :=
      engine.syncBatches engine.sync.batchDelay { total := names.length } (batches size names)
    (.ok report, engine)

/-- Syncs the given communities, or all registered ones. -/
def syncAll (engine : Engine) (names : Option (List String)) : Outcome SyncReport :=
  match names with
  | some names => engine.syncNames names
  | none =>
    if engine.knowsCommunities then
      match engine.db.communityNames with
      | .ok names => engine.syncNames names
      | .error failure => (.error failure, engine)
    else (.error (.missing .communities), engine)

end Engine

end Rulebook
