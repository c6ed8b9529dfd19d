import Rulebook.CommandLine.Execution
import Rulebook.Proofs.Reports

/-!
# Runs of the engine

An engine is asked for one operation after another. Between two operations other things happen:
the clock goes on, replies arrive, settings change, tables vanish or refuse changes, and somebody
writes into the tables by hand. A run has them all, in any order.

The operations are those that the commands of the program are made of, and those that a program
with an engine of its own may use besides.

Syncs, of one community or of many, differ in how much they fetch and store. They have in common
what they leave alone: the log of events, the clock and the settings.
-/

namespace Rulebook

open Calendar (Moment)

/-- What an engine can be asked to do. Questions that are answered from the database alone have no
engine in their result, so they are no operations here. -/
inductive Operation where
  | syncOne (name : String)
  | syncAll (names : Option (List String))
  | lint (request userId : Json)
  | checkGate (userId : Int)
  | fetchRules (name : String)
  | fetchWiki (name : String)
  | putRules (name : String) (spec : RuleSpec)
  | insertEvent (event : PreviewEvent)
  | addCommunity (name : String) (displayName : Option String)
  | updateCommunity (name : String) (overview : Json) (syncedAt : Option Moment)
  | createSchema

/-- A request as a document. -/
def Lint.Request.document (request : Lint.Request) : Json :=
  .obj [("subreddit", .str request.community), ("title", .str request.title),
    ("body", .str request.body), ("hasLink", .bool request.hasLink)]

/-- Of a request that is given as a document only the name of the community is in question. -/
theorem Lint.Request.validate_document (request : Lint.Request) :
    validate request.document = request.named := rfl

/-- What happens to an engine: an operation, a change to anything but the events on record, or the
loss of the log. -/
inductive Happening where
  | operation (operation : Operation)
  | meanwhile (world : Engine)
  | logLost

namespace Engine

/-- The engine after an operation, whatever has come of it. -/
def after (engine : Engine) : Operation → Engine
  | .syncOne name => (engine.syncOne name).2
  | .syncAll names => (engine.syncAll names).2
  | .lint request userId => (engine.lint request userId).2
  | .checkGate userId => (engine.checkGate userId).2
  | .fetchRules name => { engine with traffic := (engine.traffic.fetchRules engine.sync name).2 }
  | .fetchWiki name => { engine with traffic := (engine.traffic.fetchWiki engine.sync name).2 }
  | .putRules name spec => (engine.onDatabase ((engine.db.putRules name spec).map (·, ()))).2
  | .insertEvent event => (engine.onDatabase (engine.db.insertEvent event)).2
  | .addCommunity name displayName =>
    (engine.onDatabase (engine.db.addCommunity name displayName)).2
  | .updateCommunity name overview syncedAt =>
    (engine.onDatabase (engine.db.updateCommunity name overview syncedAt)).2
  | .createSchema => (engine.onDatabase (engine.db.createSchema.map (·, ()))).2

/-- Every command of the program leaves the engine as it is or is one operation. -/
theorem execute_eq_after (engine : Engine) (command : CommandLine.Command) :
    (command.execute engine).2 = engine ∨
      ∃ operation, (command.execute engine).2 = engine.after operation := by
  cases command with
  | sync community =>
    right
    cases community with
    | none =>
      refine ⟨.syncAll none, ?_⟩
      rw [after]
      simp only [CommandLine.Command.execute, CommandLine.executeSyncAll]
      split <;> next outcome => rw [outcome]
    | some name =>
      refine ⟨.syncOne name, ?_⟩
      rw [after]
      simp only [CommandLine.Command.execute, CommandLine.executeSyncOne]
      split <;> next outcome => rw [outcome]
  | lint community title body hasLink userId =>
    simp only [CommandLine.Command.execute, CommandLine.executeLint]
    cases named : Lint.Request.named ⟨community, title, body, hasLink⟩ with
    | error rejection => exact Or.inl rfl
    | ok request =>
      right
      refine ⟨.lint (Lint.Request.document ⟨community, title, body, hasLink⟩)
        (Json.ofOption .int userId), ?_⟩
      rw [after, lint, Lint.Request.validate_document, named]
      dsimp only
      split <;> next outcome => rw [outcome]
  | gate userId => exact Or.inl rfl
  | addCommunity name displayName =>
    right
    refine ⟨.addCommunity name displayName, ?_⟩
    rw [after]
    simp only [CommandLine.Command.execute, CommandLine.executeAdd]
    split <;> next outcome => rw [outcome]
  | showCommunity name => exact Or.inl rfl
  | initDb =>
    right
    refine ⟨.createSchema, ?_⟩
    rw [after]
    simp only [CommandLine.Command.execute, CommandLine.executeInit]
    cases engine.db.createSchema <;> rfl

/-- Another engine in the place of this one, with the events that are on record here. -/
def meanwhile (engine world : Engine) : Engine :=
  { world with db := { world.db with events := { engine.db.events with
      writable := world.db.events.writable } } }

/-- The engine after something has happened. -/
def happen (engine : Engine) : Happening → Engine
  | .operation operation => engine.after operation
  | .meanwhile world => engine.meanwhile world
  | .logLost => { engine with db := { engine.db with events := .missing } }

/-- The engine after a run. -/
def run (engine : Engine) (happenings : List Happening) : Engine := happenings.foldl happen engine

/-- A run goes on from what happens first. -/
theorem run_cons (engine : Engine) (first : Happening) (rest : List Happening) :
    engine.run (first :: rest) = (engine.happen first).run rest := rfl

/-- What syncing can lead to: another traffic, other rules on file and other communities. -/
def SyncedTo (before after : Engine) : Prop :=
  ∃ traffic rules communities, after =
    { before with traffic, db := { before.db with rules, communities } }

namespace SyncedTo

variable {before between after : Engine}

theorem refl : SyncedTo before before := ⟨_, _, _, rfl⟩

theorem trans (first : SyncedTo before between) (second : SyncedTo between after) :
    SyncedTo before after := by
  obtain ⟨_, _, _, rfl⟩ := first
  obtain ⟨traffic, rules, communities, rfl⟩ := second
  exact ⟨traffic, rules, communities, rfl⟩

/-- Syncing leaves the log of events alone. -/
theorem events (synced : SyncedTo before after) : after.db.events = before.db.events := by
  obtain ⟨traffic, rules, communities, rfl⟩ := synced
  rfl

end SyncedTo

variable (engine : Engine)

/-- Fetching the pages of a community. -/
theorem syncedTo_gather (key : String) : SyncedTo engine (engine.gather key).2 :=
  ⟨_, engine.db.rules, engine.db.communities, rfl⟩

/-- Storing what was gathered. -/
theorem syncedTo_finish (key : String) (gathered : Gathered) :
    SyncedTo engine (engine.finish key gathered).2 := by
  obtain ⟨traffic, counted⟩ := engine.finish_frame key gathered
  obtain ⟨communities, stored⟩ := engine.store_frame key gathered
  rw [stored] at counted
  exact ⟨traffic, _, communities, counted⟩

/-- Any course of a sync leads to what syncing can lead to. -/
theorem syncInvariant_syncedTo :
    SyncInvariant (fun _ after => SyncedTo engine after) fun _ _ => True where
  gather _ after key synced := ⟨synced.trans (after.syncedTo_gather key), trivial⟩
  refuse _ _ _ _ _ synced := synced
  finish _ after _ key gathered _ _ synced := synced.trans (after.syncedTo_finish key gathered)

/-- A sync of one community. -/
theorem syncedTo_syncOne (name : String) : SyncedTo engine (engine.syncOne name).2 :=
  engine.syncInvariant_syncedTo.syncOne [] engine name .refl

/-- A sync of many communities. -/
theorem syncedTo_syncAll (names : Option (List String)) :
    SyncedTo engine (engine.syncAll names).2 :=
  engine.syncInvariant_syncedTo.syncAll [] engine names .refl

end Engine

end Rulebook
