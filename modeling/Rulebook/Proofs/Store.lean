import Rulebook.Store.Communities
import Rulebook.Store.Events
import Rulebook.Store.Rules

/-!
# What the database operations change

A write either fails or changes one table in one place. The laws say which table and which
place, and when it succeeds: the tables must be there and take changes, and the document
must be one that can be written.
-/

namespace Rulebook

open Calendar (Moment)

/-- A sequence of two steps succeeds exactly when both do. -/
theorem bind_eq_ok_iff {ε α β : Type} (first : Except ε α) (next : α → Except ε β) (result : β) :
    (first >>= next) = .ok result ↔ ∃ value, first = .ok value ∧ next value = .ok result := by
  cases first <;> simp [bind, Except.bind]

/-- What is there when failures are dropped is a success. -/
theorem eq_ok_of_toOption {ε α : Type} (outcome : Except ε α) (value : α)
    (shown : outcome.toOption = some value) : outcome = .ok value := by
  cases outcome with
  | error failure => cases shown
  | ok other => rw [Option.some.inj shown]

/-- A sequence of two steps fails exactly when the first does, or the second after it. -/
theorem bind_eq_error_iff {ε α β : Type} (first : Except ε α) (next : α → Except ε β)
    (failure : ε) :
    (first >>= next) = .error failure ↔
      first = .error failure ∨ ∃ value, first = .ok value ∧ next value = .error failure := by
  cases first <;> simp [bind, Except.bind]

namespace Database

/-- A result that may be missing succeeds exactly when it is there. -/
theorem orFail_eq_ok_iff {α : Type} (failure : StoreFailure) (found : Option α) (value : α) :
    orFail failure found = .ok value ↔ found = some value := by
  cases found <;> simp [orFail]

/-- A part that is not there is reported as the given failure. -/
theorem orFail_eq_error_iff {α : Type} (broken : StoreFailure) (found : Option α)
    (failure : Failure) :
    orFail broken found = .error failure ↔ found = none ∧ failure = .store broken := by
  cases found <;> simp [orFail, eq_comm]

/-- There are sessions exactly when the database is connected. -/
theorem session_eq_ok_iff (db : Database) (result : Unit) :
    db.session = .ok result ↔ db.connected = true := by
  unfold session
  split <;> simp_all

/-- Without sessions it is the sessions that are reported. -/
theorem session_eq_error_iff (db : Database) (failure : Failure) :
    db.session = .error failure ↔ db.connected = false ∧ failure = .missing .sessions := by
  unfold session
  cases db.connected <;> simp [eq_comm]

/-- A table is read exactly when it is there. -/
theorem read?_eq_some_iff {α : Type} (table : Table α) (rows : List α) :
    table.read? = some rows ↔ table.present = true ∧ rows = table.rows := by
  unfold Table.read?
  split
  · next present => simp [present, eq_comm]
  · next missing => simp [missing]

/-- A table is written exactly when it is there and takes changes; only its rows differ. -/
theorem write?_eq_some_iff {α : Type} (table after : Table α) (rows : List α) :
    table.write? rows = some after ↔
      table.present = true ∧ table.writable = true ∧ after = { table with rows } := by
  have flags : (table.present && table.writable) = true ↔
      table.present = true ∧ table.writable = true := Bool.and_eq_true_iff
  unfold Table.write?
  split
  · next opened =>
    obtain ⟨present, writable⟩ := flags.mp opened
    simp [present, writable, eq_comm]
  · next closed =>
    simp only [reduceCtorEq, false_iff]
    rintro ⟨present, writable, -⟩
    exact closed (flags.mpr ⟨present, writable⟩)

/-- A stored document is found under its key, and nothing else is found differently. -/
theorem rowAt?_put (key other : String) (document : Json) (rows : List RuleRow) :
    Table.rowAt? RuleRow.community other
        (Table.putRow RuleRow.community ⟨key, document⟩ rows) =
      if other = key then some ⟨key, document⟩
      else Table.rowAt? RuleRow.community other rows := by
  split
  · next same =>
    rw [same]
    exact Table.rowAt?_putRow_self RuleRow.community ⟨key, document⟩ rows
  · next different =>
    exact Table.rowAt?_putRow_of_ne RuleRow.community ⟨key, document⟩ rows other different

/-- An event that is inserted is appended with the next number and with its time on a clock of
universal time. The log was there, and nothing else changes. -/
theorem insertEvent_appended (db after : Database) (event recorded : PreviewEvent)
    (inserted : db.insertEvent event = .ok (after, recorded)) :
    ∃ createdAt, event.createdAt.inUtc? = some createdAt ∧ db.events.present = true ∧
      after = { db with events := { db.events with
        rows := db.events.rows ++
          [{ event with id := some (db.events.rows.length + 1), createdAt }] } } := by
  simp only [insertEvent, bind_eq_ok_iff, orFail_eq_ok_iff, read?_eq_some_iff,
    write?_eq_some_iff] at inserted
  obtain ⟨createdAt, onClock, -, -, rows, ⟨present, rfl⟩, -, -, events, ⟨-, -, rfl⟩, stored⟩ :=
    inserted
  obtain ⟨rfl, -⟩ := Prod.mk.inj (Except.ok.inj stored)
  refine ⟨createdAt, ?_, present, rfl⟩
  unfold universal at onClock
  split at onClock
  · next moment shown =>
    obtain rfl := Except.ok.inj onClock
    exact shown
  · cases onClock

/-- An event that is appended keeps everything but its number and the offset of its time. -/
theorem insertEvent_rows (db after : Database) (event recorded : PreviewEvent)
    (inserted : db.insertEvent event = .ok (after, recorded)) :
    ∃ id createdAt, after.events.rows = db.events.rows ++ [{ event with id, createdAt }] := by
  obtain ⟨createdAt, -, -, rfl⟩ := db.insertEvent_appended after event recorded inserted
  exact ⟨_, createdAt, rfl⟩

/-- A document is stored exactly when there are sessions, it can be written, and the table is
there and takes changes. The row under its key is replaced. -/
theorem putRules_eq_ok_iff (db after : Database) (name : String) (spec : RuleSpec) :
    db.putRules name spec = .ok after ↔
      db.connected = true ∧ spec.document.isStorable = true ∧ db.rules.present = true ∧
        db.rules.writable = true ∧
        after = { db with rules := { db.rules with
          rows := Table.putRow RuleRow.community ⟨Community.key name, spec.document⟩
            db.rules.rows } } := by
  simp only [putRules, bind_eq_ok_iff, session_eq_ok_iff]
  cases storable : spec.document.isStorable with
  | false => simp
  | true =>
    simp only [if_true, orFail_eq_ok_iff, putDocument?, Option.map_eq_some_iff, write?_eq_some_iff,
      true_and]
    constructor
    · rintro ⟨-, connected, rules, ⟨present, writable, rfl⟩, rfl⟩
      exact ⟨connected, present, writable, rfl⟩
    · rintro ⟨connected, present, writable, rfl⟩
      exact ⟨(), connected, _, ⟨present, writable, rfl⟩, rfl⟩

/-- An overview is left in the table of communities only. -/
theorem updateCommunity_frame (db after : Database) (name : String) (overview : Json)
    (syncedAt : Option Moment) (known : Bool)
    (updated : db.updateCommunity name overview syncedAt = .ok (after, known)) :
    ∃ communities, after = { db with communities } := by
  simp only [updateCommunity, bind_eq_ok_iff] at updated
  obtain ⟨-, -, rows, -, stored⟩ := updated
  split at stored
  · cases stored
  · split at stored
    · obtain ⟨rfl, -⟩ := Prod.mk.inj (Except.ok.inj stored)
      exact ⟨db.communities, rfl⟩
    · obtain ⟨communities, -, written⟩ := (bind_eq_ok_iff _ _ _).mp stored
      obtain ⟨rfl, -⟩ := Prod.mk.inj (Except.ok.inj written)
      exact ⟨communities, rfl⟩

/-- A community is registered in the table of communities only. -/
theorem addCommunity_frame (db after : Database) (name : String) (displayName : Option String)
    (fresh : Bool) (added : db.addCommunity name displayName = .ok (after, fresh)) :
    ∃ communities, after = { db with communities } := by
  simp only [addCommunity, bind_eq_ok_iff] at added
  obtain ⟨-, -, rows, -, stored⟩ := added
  split at stored
  · obtain ⟨rfl, -⟩ := Prod.mk.inj (Except.ok.inj stored)
    exact ⟨db.communities, rfl⟩
  · obtain ⟨communities, -, written⟩ := (bind_eq_ok_iff _ _ _).mp stored
    obtain ⟨rfl, -⟩ := Prod.mk.inj (Except.ok.inj written)
    exact ⟨communities, rfl⟩

/-- What is read back is the row under the key of the name. -/
theorem getRules_eq (db : Database) (name : String) (connected : db.connected = true)
    (present : db.rules.present = true) :
    db.getRules name =
      match Table.rowAt? RuleRow.community (Community.key name) db.rules.rows with
      | some row =>
        if row.document.isNull then .ok none
        else (Failure.ofChecked (RuleSpec.read row.document)).map some
      | none => .ok none := by
  have opened : db.session = .ok () := (session_eq_ok_iff db ()).mpr connected
  have rows : db.rules.read? = some db.rules.rows := (read?_eq_some_iff _ _).mpr ⟨present, rfl⟩
  simp only [getRules, ruleDocument?, opened, rows, orFail, bind, Except.bind]
  cases Table.rowAt? RuleRow.community (Community.key name) db.rules.rows with
  | none => rfl
  | some row =>
    cases null : row.document.isNull with
    | true => simp [null, pure, Except.pure]
    | false =>
      cases checked : RuleSpec.read row.document <;>
        simp [null, checked, Failure.ofChecked, Except.map, pure, Except.pure]

/-- Nothing is read without sessions or without the table. -/
theorem open_of_getRules (db : Database) (name : String) (found : Option RuleSpec)
    (read : db.getRules name = .ok found) : db.connected = true ∧ db.rules.present = true := by
  simp only [getRules, ruleDocument?, bind_eq_ok_iff, orFail_eq_ok_iff, session_eq_ok_iff,
    read?_eq_some_iff] at read
  obtain ⟨-, ⟨-, connected, -, ⟨present, -⟩, -⟩, -⟩ := read
  exact ⟨connected, present⟩

/-- Two spellings of a community have the same rules. -/
theorem getRules_of_key_eq (db : Database) (name other : String)
    (same : Community.key name = Community.key other) : db.getRules name = db.getRules other := by
  rw [getRules, getRules, same]

/-- A specification that was put on file is read back under its key. -/
theorem getRules_of_put (db : Database) (name : String) (spec : RuleSpec) (rows : List RuleRow)
    (connected : db.connected = true) (present : db.rules.present = true)
    (stored : db.rules.rows =
      Table.putRow RuleRow.community ⟨Community.key name, spec.document⟩ rows) :
    db.getRules name = (Failure.ofChecked (RuleSpec.read spec.document)).map some := by
  rw [getRules_eq db name connected present, stored, rowAt?_put, if_pos rfl]
  rfl

/-- The rules of other communities are read as before. -/
theorem getRules_of_put_ne (before after : Database) (name key : String) (document : Json)
    (found : Option RuleSpec) (connected : after.connected = before.connected)
    (stored : after.rules = { before.rules with
      rows := Table.putRow RuleRow.community ⟨key, document⟩ before.rules.rows })
    (different : Community.key name ≠ key) (read : before.getRules name = .ok found) :
    after.getRules name = .ok found := by
  obtain ⟨opened, present⟩ := open_of_getRules before name found read
  rw [getRules_eq before name opened present] at read
  rw [getRules_eq after name (connected.trans opened) (by rw [stored]; exact present), stored,
    rowAt?_put, if_neg different]
  exact read

/-- A document that cannot be written is refused. -/
theorem putRules_eq_error (db : Database) (name : String) (spec : RuleSpec)
    (connected : db.connected = true) (unstorable : spec.document.isStorable = false) :
    db.putRules name spec = .error (.store (.ruleWrite (Community.key name))) := by
  have opened : db.session = .ok () := (session_eq_ok_iff db ()).mpr connected
  simp [putRules, opened, unstorable, bind, Except.bind]

/-- A healthy table of communities takes every overview that can be written. -/
theorem exists_updateCommunity (db : Database) (name : String) (overview : Json)
    (syncedAt : Option Moment) (connected : db.connected = true)
    (present : db.communities.present = true) (writable : db.communities.writable = true)
    (storable : overview.isStorable = true) :
    ∃ result, db.updateCommunity name overview syncedAt = .ok result := by
  have opened : db.session = .ok () := (session_eq_ok_iff db ()).mpr connected
  have rows : db.communities.read? = some db.communities.rows :=
    (read?_eq_some_iff _ _).mpr ⟨present, rfl⟩
  have written (rows : List CommunityRow) :
      db.communities.write? rows = some { db.communities with rows } :=
    (write?_eq_some_iff _ _ _).mpr ⟨present, writable, rfl⟩
  simp only [updateCommunity, opened, rows, storable, written, orFail, bind, Except.bind,
    Bool.not_true, Bool.false_eq_true, if_false]
  split <;> exact ⟨_, rfl⟩

end Database

end Rulebook
