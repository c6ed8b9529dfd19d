import Rulebook.Store.Basic

/-!
# Registered communities

Communities are registered once under their key. A sync of all communities goes through
them in the order of their keys and leaves the overview of the rules with each.
-/

namespace Rulebook.Database

open Calendar (Moment)

/-- The keys of the registered communities, in order. -/
def communityNames (db : Database) : Result (List String) := do
  db.session
  let rows ← orFail .communityList db.communities.read?
  return rows.map (·.name)

/-- Registers a community; the flag tells whether it was new. -/
def addCommunity (db : Database) (name : String) (displayName : Option String) :
    Result (Database × Bool) := do
  let key := Community.key name
  db.session
  let rows ← orFail (.communityWrite key) db.communities.read?
  if (Table.rowAt? CommunityRow.name key rows).isSome then return (db, false)
  else
    let shown := match displayName with
      | some shown => if shown == "" then name else shown
      | none => name
    let row : CommunityRow := { name := key, displayName := shown }
    let communities ← orFail (.communityWrite key)
      (db.communities.write? (Table.putRow CommunityRow.name row rows))
    return ({ db with communities }, true)

/-- Leaves an overview with a community; the flag tells whether it is registered. -/
def updateCommunity (db : Database) (name : String) (overview : Json)
    (syncedAt : Option Moment) : Result (Database × Bool) := do
  let key := Community.key name
  db.session
  let rows ← orFail (.communityWrite key) db.communities.read?
  if !overview.isStorable then .error (.store (.communityWrite key))
  else
    match Table.rowAt? CommunityRow.name key rows with
    | none => return (db, false)
    | some row =>
      let communities ← orFail (.communityWrite key)
        (db.communities.write? (Table.putRow CommunityRow.name { row with overview, syncedAt } rows))
      return ({ db with communities }, true)

/-- The overview left with a community, null if there is none. -/
def getCommunity (db : Database) (name : String) : Result Json := do
  let key := Community.key name
  db.session
  let rows ← orFail (.communityRead key) db.communities.read?
  return ((Table.rowAt? CommunityRow.name key rows).map (·.overview)).getD .null

end Rulebook.Database
