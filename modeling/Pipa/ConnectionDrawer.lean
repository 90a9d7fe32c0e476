import Mathlib.Logic.Function.Basic
import Pipa.QuerySession
import Pipa.Text

/-! The table list of a connection's drawer. Effects read the props and the session as they
were rendered, start list queries through the session, and hand finished lists to the
window, which files them under a schema. -/

namespace Pipa.ConnectionDrawer
open QuerySession

/-- The list query of the session, with the schema it was asked for and the rows delivered so far. -/
structure Listing (Row : Type) where
  schema : String
  rows : List Row
deriving DecidableEq, Repr

/-- What the effects of one commit see. -/
structure Rendered (Row : Type) where
  activeDatabase : Option String
  discoverTables : Bool
  tableCatalogRefreshVersion : Nat
  state : QuerySessionState Row
deriving DecidableEq, Repr

/-- `listing`, `results` and `handed` record what the session is asked and delivers, and what the
window is handed; no effect reads them. -/
structure Drawer (Row : Type) where
  tables : UseQuerySession Row
  activeDatabase : Option String
  discoverTables : Bool
  tableCatalogRefreshVersion : Nat
  tableCatalogRefreshVersionRef : Nat
  loadedDatabaseRef : Option String
  rendered : Option (Rendered Row)
  tableCatalog : String → Option (List String)
  listing : Option (Listing Row)
  results : List (String × List Row)
  handed : List (String × List String)

/-- A drawer that has just been mounted. -/
def mounted {Row : Type} (activeDatabase : Option String) : Drawer Row where
  tables := .initial
  activeDatabase
  discoverTables := false
  tableCatalogRefreshVersion := 0
  tableCatalogRefreshVersionRef := 0
  loadedDatabaseRef := none
  rendered := none
  tableCatalog _ := none
  listing := none
  results := []
  handed := []

def buildShowTablesStatement (database : String) : String := "SHOW FULL TABLES FROM " ++ quoteIdentifier database ++ ";"

/-- The empty name is no schema. -/
def chosen (database : Option String) : Option String := database.filter (· ≠ "")

namespace Drawer

variable {Row : Type} (profileId : Uuid) (cellText : Row → String)

/-- The names in the first cells of a list. -/
def tableNames (rows : List Row) : List String := (rows.map cellText).filter (· ≠ "")

def handleTablesLoaded (drawer : Drawer Row) (database : String) (tableNames : List String) : Drawer Row :=
  { drawer with
    tableCatalog :=
      if (drawer.tableCatalog database).getD [] = tableNames then drawer.tableCatalog
      else Function.update drawer.tableCatalog database (some tableNames)
    handed := drawer.handed ++ [(database, tableNames)] }

/-- `tables.run`, which does nothing while a query is active. -/
def run (queryId : Uuid) (database : String) (drawer : Drawer Row) : Drawer Row :=
  let tables := hookStep profileId drawer.tables (.run queryId (buildShowTablesStatement database))
  { drawer with
    tables
    listing :=
      if drawer.tables.activeQueryId = none ∧ tables.activeQueryId = some queryId then some { schema := database, rows := [] }
      else drawer.listing }

/-! ### Effects -/

/-- A finished list is handed on under the schema that is selected now. -/
def handsTables (seen : Rendered Row) (drawer : Drawer Row) : Drawer Row :=
  match chosen seen.activeDatabase with
  | none => drawer
  | some database =>
    if seen.state.queryId = none ∨ seen.state.running = true ∨ seen.state.error ≠ none then drawer
    else drawer.handleTablesLoaded database (tableNames cellText seen.state.rows)

def discoversTables (queryId : Uuid) (seen : Rendered Row) (drawer : Drawer Row) : Drawer Row :=
  match chosen seen.activeDatabase with
  | none => drawer
  | some database =>
    if seen.discoverTables = true ∧ seen.state.queryId = none ∧ seen.state.running = false then
      drawer.run profileId queryId database
    else drawer

def refreshesTables (queryId : Uuid) (seen : Rendered Row) (drawer : Drawer Row) : Drawer Row :=
  match chosen seen.activeDatabase with
  | none => drawer
  | some database =>
    if seen.tableCatalogRefreshVersion = 0 ∨ drawer.tableCatalogRefreshVersionRef = seen.tableCatalogRefreshVersion ∨
        seen.state.running = true then
      drawer
    else { drawer with tableCatalogRefreshVersionRef := seen.tableCatalogRefreshVersion }.run profileId queryId database

def switchesTables (queryId : Uuid) (seen : Rendered Row) (drawer : Drawer Row) : Drawer Row :=
  match chosen seen.activeDatabase with
  | none => drawer
  | some database =>
    if seen.state.running = true ∨ drawer.loadedDatabaseRef = some database then drawer
    else { drawer with loadedDatabaseRef := some database }.run profileId queryId database

/-- The effects of a commit, in order. An effect whose dependencies have not changed would do
nothing new. -/
def effects (queryId : Uuid) (seen : Rendered Row) (drawer : Drawer Row) : Drawer Row :=
  { ((drawer.handsTables cellText seen).discoversTables profileId queryId seen |>.refreshesTables profileId queryId seen
      |>.switchesTables profileId queryId seen) with
    rendered := none }

end Drawer

/-! ### Runs -/

/-- Props change, the drawer renders, its effects run, and the session's query goes on. The
identifier of a query that an effect may start comes with the event. -/
inductive Event (Row : Type) where
  | remount (activeDatabase : Option String)
  | select (activeDatabase : Option String)
  | discover (discoverTables : Bool)
  | refresh
  | render
  | effects (queryId : Uuid)
  | message (event : QueryEvent Row)
  | frame
  | rejected (error : AppError)

namespace Drawer

variable {Row : Type} (profileId : Uuid) (cellText : Row → String)

def isCanceled : QueryEvent Row → Bool
  | .canceled _ => true
  | _ => false

/-- A message of the active query. -/
def receives (drawer : Drawer Row) (event : QueryEvent Row) : Drawer Row :=
  { drawer with
    tables := hookStep profileId drawer.tables (.message event)
    listing :=
      match event with
      | .batch _ rows => drawer.listing.map fun listing => { listing with rows := listing.rows ++ rows }
      | _ => drawer.listing
    results :=
      match event with
      | .completed .. => drawer.results ++ drawer.listing.toList.map fun listing => (listing.schema, listing.rows)
      | _ => drawer.results }

/-- Channels speak only for the active query, which the drawer never cancels. A new drawer knows
nothing of the old one's session. Effects run before the next render. -/
def step (drawer : Drawer Row) : Event Row → Drawer Row
  | .remount activeDatabase =>
    { mounted activeDatabase with
      discoverTables := drawer.discoverTables
      tableCatalogRefreshVersion := drawer.tableCatalogRefreshVersion
      tableCatalog := drawer.tableCatalog
      results := drawer.results
      handed := drawer.handed }
  | .select activeDatabase => { drawer with activeDatabase }
  | .discover discoverTables => { drawer with discoverTables }
  | .refresh => { drawer with tableCatalogRefreshVersion := drawer.tableCatalogRefreshVersion + 1 }
  | .render =>
    if drawer.rendered.isSome then drawer
    else
      { drawer with
        rendered := some
          { activeDatabase := drawer.activeDatabase
            discoverTables := drawer.discoverTables
            tableCatalogRefreshVersion := drawer.tableCatalogRefreshVersion
            state := drawer.tables.session.state } }
  | .effects queryId => drawer.rendered.elim drawer fun seen => drawer.effects profileId cellText queryId seen
  | .message event =>
    if drawer.tables.activeQueryId = some event.queryId ∧ isCanceled event = false then drawer.receives profileId event
    else drawer
  | .frame => { drawer with tables := hookStep profileId drawer.tables .frame }
  | .rejected error =>
    drawer.tables.activeQueryId.elim drawer fun queryId =>
      { drawer with tables := hookStep profileId drawer.tables (.rejected queryId error) }

end Drawer

end Pipa.ConnectionDrawer
