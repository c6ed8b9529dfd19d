import Rulebook.Json.Basic

/-!
# Addresses of databases

An address names a database that lives in memory, and then vanishes with its user, or one
in a file. All other databases are out of reach.
-/

namespace Rulebook

/-- Where a database is found. -/
inductive Address where
  | memory
  | file (path : String)
deriving Repr, DecidableEq

namespace Address

/-- The schemes of addresses within reach. -/
def schemes : List String := ["sqlite://", "sqlite+pysqlite://"]

/-- The text after one of the schemes, without options. -/
def afterScheme? (text : String) : Option (List Char) :=
  (schemes.find? fun scheme => scheme.toList.isPrefixOf text.toList).map fun scheme =>
    (text.toList.drop scheme.length).takeWhile (· != '?')

/-- Reads an address. -/
def read? (text : String) : Option Address :=
  match afterScheme? text with
  | some [] => some .memory
  | some ('/' :: path) =>
    let path := String.ofList path
    some (if path == "" || path == ":memory:" then .memory else .file path)
  | _ => none

/-- Reads an address among the settings. -/
def ofSetting? : Json → Option Address
  | .str text => read? text
  | _ => none

end Address

end Rulebook
