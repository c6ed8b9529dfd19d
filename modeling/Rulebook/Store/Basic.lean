import Rulebook.Calendar.Printer
import Rulebook.Failure
import Rulebook.Preview.Event
import Rulebook.Store.Table

/-!
# The database

Three tables: one rule document per community, the log of preview events, and the
registered communities with the overview of their rules. Rows are found by the key of a
community, however its name is spelled.

An operation either returns the changed database or fails and leaves it alone. Documents
with an integer beyond the digit limit cannot be written.
-/

namespace Rulebook

open Calendar (Moment)

/-- The stored rules of a community. -/
structure RuleRow where
  community : String
  document : Json

/-- A registered community. -/
structure CommunityRow where
  name : String
  displayName : String
  overview : Json := .null
  syncedAt : Option Moment := none

/-- Where the tables of a database live. -/
inductive Home where
  /-- The database belongs to somebody else; only sessions were handed over. -/
  | borrowed
  | file
  /-- A file that holds something else than a database. -/
  | damaged
deriving Repr, DecidableEq

/-- The database. Without sessions nothing can be accessed. -/
structure Database where
  home : Home := .borrowed
  connected : Bool := true
  rules : Table RuleRow := {}
  events : Table PreviewEvent := {}
  communities : Table CommunityRow := {}

mutual

/-- True when every integer in a value can be written. -/
def Json.isStorable : Json → Bool
  | .int value => Decimal.isShort value
  | .arr items => Json.areStorable items
  | .obj fields => Json.fieldsStorable fields
  | _ => true

/-- True when every integer in a list of values can be written. -/
def Json.areStorable : List Json → Bool
  | [] => true
  | item :: rest => item.isStorable && Json.areStorable rest

/-- True when every integer in the fields of an object can be written. -/
def Json.fieldsStorable : List (String × Json) → Bool
  | [] => true
  | (_, value) :: rest => value.isStorable && Json.fieldsStorable rest

end

namespace Database

/-- Results of database operations. -/
abbrev Result (α : Type) := Except Failure α

/-- Turns a missing result into a failure. -/
def orFail {α : Type} (failure : StoreFailure) : Option α → Result α
  | some value => .ok value
  | none => .error (.store failure)

/-- Fails when there are no sessions. -/
def session (db : Database) : Result Unit :=
  if db.connected then .ok () else .error (.missing .sessions)

/-- A database file without tables. -/
def bare : Database :=
  { home := .file, rules := .missing, events := .missing, communities := .missing }

/-- Creates the tables that are not there. Only a database of one's own takes them. -/
def createSchema (db : Database) : Result Database :=
  match db.home with
  | .borrowed => .error (.missing .engine)
  | .damaged => .error (.store .schema)
  | .file =>
    .ok { db with
      rules := db.rules.create
      events := db.events.create
      communities := db.communities.create }

end Database

end Rulebook
