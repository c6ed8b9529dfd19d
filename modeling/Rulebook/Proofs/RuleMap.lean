import Rulebook.Proofs.Rows

/-!
# Rules on file as a map

Whatever is put on file and asked for under names of any spelling, the stored rules are a finite
map from keys to documents: what is read under a name is the document of the last specification
that was put under a name with the same key, and a put that fails leaves the map alone.

A run has puts and reads in any order. Between them the tables may vanish, come back and refuse
changes, and everything but the rows of rules may change. Sessions stay; without them nothing can
be put or read at all.

The map is the history and not a state of its own: the puts that came to something, in order. The
invariant says what is found under each key in terms of that history.
-/

namespace Rulebook.Database

/-- What happens to the rules on file: a specification is put, the rules are asked for, or
something else changes. -/
inductive RuleCall where
  | put (name : String) (spec : RuleSpec)
  | get (name : String)
  | meanwhile (world : Database)

/-- Another database in the place of this one, with the sessions and the rows of rules that are
here. -/
def besides (db world : Database) : Database :=
  { world with connected := db.connected, rules := { world.rules with rows := db.rules.rows } }

/-- The database after a call, whatever has come of it. -/
def served (db : Database) : RuleCall → Database
  | .put name spec =>
    match db.putRules name spec with
    | .ok after => after
    | .error _ => db
  | .get _ => db
  | .meanwhile world => db.besides world

/-- What a call has put on file, and under which name. -/
def filed (db : Database) : RuleCall → List (String × RuleSpec)
  | .put name spec =>
    match db.putRules name spec with
    | .ok _ => [(name, spec)]
    | .error _ => []
  | .get _ => []
  | .meanwhile _ => []

/-- The database after a run. -/
def serve (db : Database) (calls : List RuleCall) : Database := calls.foldl served db

/-- What a run has put on file, in order. -/
def history (db : Database) : List RuleCall → List (String × RuleSpec)
  | [] => []
  | call :: rest => db.filed call ++ (db.served call).history rest

/-- The specification that was put last under a name with the key. -/
def lastUnder (key : String) (history : List (String × RuleSpec)) : Option RuleSpec :=
  (history.reverse.find? fun entry => Community.key entry.1 == key).map (·.2)

/-- The last entry is the last under its own key and leaves the others alone. -/
theorem lastUnder_append_singleton (key name : String) (spec : RuleSpec)
    (history : List (String × RuleSpec)) :
    lastUnder key (history ++ [(name, spec)]) =
      if key = Community.key name then some spec else lastUnder key history := by
  rw [lastUnder, List.reverse_append, List.reverse_singleton, List.singleton_append,
    List.find?_cons]
  split
  · next here => rw [if_pos (beq_iff_eq.mp here).symm, Option.map_some]
  · next elsewhere => rw [if_neg fun same => ne_of_beq_false elsewhere same.symm, lastUnder]

/-- A put that fails is reported as one, under the key of the name. -/
theorem putRules_error (db : Database) (name : String) (spec : RuleSpec) (failure : Failure)
    (connected : db.connected = true) (failed : db.putRules name spec = .error failure) :
    failure = .store (.ruleWrite (Community.key name)) := by
  simp only [putRules, bind_eq_error_iff, session_eq_error_iff] at failed
  rcases failed with ⟨closed, -⟩ | ⟨-, -, refused⟩
  · rw [connected] at closed
    cases closed
  · split at refused
    · exact ((orFail_eq_error_iff _ _ _).mp refused).2
    · exact (Except.error.inj refused).symm

/-- Without the table nothing is read. -/
theorem getRules_of_missing (db : Database) (name : String) (connected : db.connected = true)
    (missing : db.rules.present = false) :
    db.getRules name = .error (.store (.ruleRead (Community.key name))) := by
  have opened : db.session = .ok () := (session_eq_ok_iff db ()).mpr connected
  simp only [getRules, ruleDocument?, opened, Table.read?, missing, orFail, bind, Except.bind,
    Bool.false_eq_true, if_false]

/-- A database whose rules are those of a history: one row for each key, in order, with what was put
there last. -/
structure Reflects (db : Database) (history : List (String × RuleSpec)) : Prop where
  connected : db.connected = true
  ordered : Table.Ordered RuleRow.community db.rules.rows
  found : ∀ key, Table.rowAt? RuleRow.community key db.rules.rows =
    (lastUnder key history).map fun spec => ⟨key, spec.document⟩

namespace Reflects

variable {db : Database} {history : List (String × RuleSpec)}

/-- A call leaves the rules of the history with what it has put on file. -/
theorem served (reflects : db.Reflects history) (call : RuleCall) :
    (db.served call).Reflects (history ++ db.filed call) := by
  cases call with
  | put name spec =>
    cases put : db.putRules name spec with
    | error failure =>
      simp only [Database.served, filed, put, List.append_nil]
      exact reflects
    | ok after =>
      simp only [Database.served, filed, put]
      obtain ⟨-, -, -, -, rfl⟩ := (putRules_eq_ok_iff _ _ _ _).mp put
      refine ⟨reflects.connected, reflects.ordered.putRow _, fun key => ?_⟩
      rw [rowAt?_put, lastUnder_append_singleton]
      split
      · next here => rw [here, Option.map_some]
      · exact reflects.found key
  | get name =>
    rw [filed, List.append_nil]
    exact reflects
  | meanwhile world =>
    rw [filed, List.append_nil]
    exact ⟨reflects.connected, reflects.ordered, reflects.found⟩

/-- So does a run. -/
theorem serve (reflects : db.Reflects history) (calls : List RuleCall) :
    (db.serve calls).Reflects (history ++ db.history calls) := by
  induction calls generalizing db history with
  | nil =>
    rw [Database.history, List.append_nil]
    exact reflects
  | cons call rest inductionHypothesis =>
    rw [Database.history, ← List.append_assoc]
    exact inductionHypothesis (reflects.served call)

/-- What is read under a name is what was put last under its key. -/
theorem getRules_eq (reflects : db.Reflects history) (name : String) :
    db.getRules name =
      if db.rules.present then
        match lastUnder (Community.key name) history with
        | some spec => (Failure.ofChecked (RuleSpec.read spec.document)).map some
        | none => .ok none
      else .error (.store (.ruleRead (Community.key name))) := by
  cases present : db.rules.present with
  | false => exact db.getRules_of_missing name reflects.connected present
  | true =>
    rw [Database.getRules_eq db name reflects.connected present, reflects.found]
    cases lastUnder (Community.key name) history with
    | none => rfl
    | some spec => rfl

end Reflects

/-- The stored rules are a map from keys to what was put there last.

After any run from an empty table no key has two rows, and the row under a key holds the document
of the last specification that was put under a name with that key. So every read of a table that is
there comes to that document, read back, or to nothing if there was no such put. A put comes to
something exactly when the table is there and takes changes and the document can be written.
Otherwise it is reported as a failed write and changes nothing.

Proof: each call extends the history by what it puts on file and keeps the rows in step with it. -/
theorem stored_rules_are_a_map (db : Database) (calls : List RuleCall)
    (connected : db.connected = true) (empty : db.rules.rows = []) :
    let after := db.serve calls
    let history := db.history calls
    (after.rules.rows.map RuleRow.community).Nodup ∧
      (∀ key, Table.rowAt? RuleRow.community key after.rules.rows =
        (lastUnder key history).map fun spec => ⟨key, spec.document⟩) ∧
      (∀ name, after.getRules name =
        if after.rules.present then
          match lastUnder (Community.key name) history with
          | some spec => (Failure.ofChecked (RuleSpec.read spec.document)).map some
          | none => .ok none
        else .error (.store (.ruleRead (Community.key name)))) ∧
      (∀ name spec, (∃ next, after.putRules name spec = .ok next) ↔
        after.rules.present = true ∧ after.rules.writable = true ∧
          spec.document.isStorable = true) ∧
      (∀ name spec failure, after.putRules name spec = .error failure →
        failure = .store (.ruleWrite (Community.key name)) ∧
          after.served (.put name spec) = after) := by
  have start : db.Reflects [] := by
    refine ⟨connected, ?_, fun key => ?_⟩
    · rw [empty]
      exact List.Pairwise.nil
    · rw [empty]
      rfl
  have reflects := start.serve calls
  rw [List.nil_append] at reflects
  refine ⟨reflects.ordered.nodup, reflects.found, reflects.getRules_eq, fun name spec => ?_,
    fun name spec failure failed => ⟨?_, ?_⟩⟩
  · constructor
    · rintro ⟨next, put⟩
      obtain ⟨-, storable, present, writable, -⟩ := (putRules_eq_ok_iff _ _ _ _).mp put
      exact ⟨present, writable, storable⟩
    · rintro ⟨present, writable, storable⟩
      exact ⟨_, (putRules_eq_ok_iff _ _ _ _).mpr
        ⟨reflects.connected, storable, present, writable, rfl⟩⟩
  · exact putRules_error _ name spec failure reflects.connected failed
  · simp only [Database.served, failed]

/-- Rules that ban a word. -/
def wordRules (word : String) : RuleSpec := { rules := { bannedWords := [word] } }

/-- A run that puts rules for one community twice under different names. The second put comes when
the table refuses changes. -/
def refusedRun : List RuleCall :=
  [.put "r/Cats" (wordRules "dog"), .meanwhile { rules := { writable := false } },
    .put "/r/CATS/" (wordRules "bird"), .get "cats"]

/-- The rules that are read are those of the first put. -/
theorem first_put_is_read :
    (({} : Database).serve refusedRun).getRules "CATS" = .ok (some (wordRules "dog")) := by
  have history : ({} : Database).history refusedRun = [("r/Cats", wordRules "dog")] := by
    decide +kernel
  have key : Community.key "r/Cats" = Community.key "CATS" := by decide +kernel
  obtain ⟨-, -, read, -⟩ := ({} : Database).stored_rules_are_a_map refusedRun rfl rfl
  have last : lastUnder (Community.key "CATS") [("r/Cats", wordRules "dog")] =
      some (wordRules "dog") := by
    rw [lastUnder, List.reverse_singleton, List.find?_cons, key, beq_self_eq_true]
    rfl
  have present : (({} : Database).serve refusedRun).rules.present = true := rfl
  rw [read, present, history, last]
  rfl

end Rulebook.Database
