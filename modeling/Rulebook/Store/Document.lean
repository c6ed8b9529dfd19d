import Rulebook.Calendar.Reader
import Rulebook.Json.Printer
import Rulebook.Json.Reader
import Rulebook.Store.Basic

/-!
# Database files

A database file is a document with one list per table; a table that is not there is null.
A text that is no such document is a damaged file: it can be opened, but holds no tables
and takes none.
-/

namespace Rulebook

open Calendar Document

/-- A table as a document. -/
def Table.document {α : Type} (encode : α → Json) (table : Table α) : Json :=
  if table.present then .arr (table.rows.map encode) else .null

/-- Reads a table. -/
def Table.read {α : Type} (read : Reader α) : Reader (Table α)
  | _, .null => .ok .missing
  | path, value => (readList read path value).map fun rows => { rows }

/-- A row as a document. -/
def RuleRow.entry (row : RuleRow) : Json :=
  .obj [("community", .str row.community), ("document", row.document)]

/-- Reads a row. -/
def RuleRow.read : Reader RuleRow
  | path, .obj fields =>
    RuleRow.mk
      <$> required path fields (.single "community") readText
      <*> required path fields (.single "document") fun _ value => .ok value
  | path, _ => problem path .mapping

/-- A row as a document. -/
def CommunityRow.entry (row : CommunityRow) : Json :=
  .obj [("name", .str row.name), ("displayName", .str row.displayName),
    ("overview", row.overview),
    ("syncedAt", Json.ofOption (fun m => .str (Moment.text m)) row.syncedAt)]

/-- Reads a row. -/
def CommunityRow.read : Reader CommunityRow
  | path, .obj fields =>
    CommunityRow.mk
      <$> required path fields (.single "name") readText
      <*> required path fields (.single "displayName") readText
      <*> required path fields (.single "overview") (fun _ value => .ok value)
      <*> optional path fields (.single "syncedAt") readMoment
  | path, _ => problem path .mapping

namespace Database

/-- The tables as a document. -/
def document (db : Database) : Json :=
  .obj [("rules", db.rules.document RuleRow.entry),
    ("events", db.events.document PreviewEvent.document),
    ("communities", db.communities.document CommunityRow.entry)]

/-- Reads the tables of a database file. -/
def read : Reader Database
  | path, .obj fields =>
    Database.mk .file true
      <$> required path fields (.single "rules") (Table.read RuleRow.read)
      <*> required path fields (.single "events") (Table.read PreviewEvent.read)
      <*> required path fields (.single "communities") (Table.read CommunityRow.read)
  | path, _ => problem path .mapping

/-- A file that holds something else than a database. -/
def damaged : Database := { bare with home := .damaged }

/-- Opens the text of a database file. -/
def ofText (text : String) : Database :=
  match (Json.parse? text).map (read []) with
  | some (.ok db) => db
  | _ => damaged

end Database

end Rulebook
