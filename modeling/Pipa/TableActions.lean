import Mathlib.Data.Finset.Insert
import Mathlib.Data.Finset.Filter
import Mathlib.Data.Finset.Erase
import Pipa.Connection
import Pipa.Library.Runs
import Pipa.Text

/-! Shortcuts on whole tables: a request, its confirmation, the statements it runs, and
the tabs, catalog entries and pins that it updates afterwards. -/

namespace Pipa.TableActions
open Text

/-! ### Names and statements -/

/-- One table of one schema on one connection. -/
structure TableTarget where
  connectionId : Uuid
  database : String
  tableName : String
deriving DecidableEq, Repr

inductive TableQuickAction where
  | copyName | rename | duplicate | truncate | drop | togglePin | openWindow
  | exportCsv | exportJson | exportSql | showCreate | copyCreate
deriving DecidableEq, Repr

inductive TableDestructiveAction where
  | truncate | drop
deriving DecidableEq, Repr

inductive TableNameAction where
  | rename | duplicate
deriving DecidableEq, Repr

/-- The identity of a table among the pins. -/
def tableTargetKey (target : TableTarget) : String :=
  target.connectionId.hyphenated ++ "\x00" ++ target.database ++ "\x00" ++ target.tableName

/-- The identity of the workspace tab of a table. -/
def tableTabId (target : TableTarget) : String :=
  target.connectionId.hyphenated ++ "\x00" ++ target.database ++ "\x00" ++ target.tableName

structure QualifiedTable where
  database : String
  table : String
deriving DecidableEq, Repr

def QualifiedTable.sql (name : QualifiedTable) : String := quoteIdentifier name.database ++ "." ++ quoteIdentifier name.table

inductive TableStatement where
  | truncate (table : QualifiedTable)
  | drop (table : QualifiedTable)
  | rename (source destination : QualifiedTable)
  | createLike (destination source : QualifiedTable)
  | copyRows (destination source : QualifiedTable)
deriving DecidableEq, Repr

/-- The statement as it is executed. -/
def TableStatement.sql : TableStatement → String
  | .truncate table => "TRUNCATE TABLE " ++ table.sql ++ ";"
  | .drop table => "DROP TABLE " ++ table.sql ++ ";"
  | .rename source destination => "RENAME TABLE " ++ source.sql ++ " TO " ++ destination.sql ++ ";"
  | .createLike destination source => "CREATE TABLE " ++ destination.sql ++ " LIKE " ++ source.sql ++ ";"
  | .copyRows destination source => "INSERT INTO " ++ destination.sql ++ " SELECT * FROM " ++ source.sql ++ ";"

def buildDestructiveTableStatement (action : TableDestructiveAction) (database tableName : String) : TableStatement :=
  match action with
  | .drop => .drop ⟨database, tableName⟩
  | .truncate => .truncate ⟨database, tableName⟩

structure TableNameActionStatements where
  primary : TableStatement
  copyRows : Option TableStatement
deriving DecidableEq, Repr

/-- The statements of a rename or a copy, in execution order. -/
def buildTableNameActionStatements (action : TableNameAction) (database tableName nextTableName : String)
    (copyData : Bool) : TableNameActionStatements :=
  let source : QualifiedTable := ⟨database, tableName⟩
  let destination : QualifiedTable := ⟨database, nextTableName⟩
  match action with
  | .rename => { primary := .rename source destination, copyRows := none }
  | .duplicate => {
      primary := .createLike destination source
      copyRows := if copyData then some (.copyRows destination source) else none }

/-- JavaScript's length of a text, in UTF-16 units. -/
def jsLength (text : String) : Nat := text.toList.foldl (fun units c => units + if c.toNat < 65536 then 1 else 2) 0

def tableNameActionValidationError (action : TableNameAction) (tableName nextTableName : String) (hasDirtyWorkspace : Bool) :
    Option String :=
  if nextTableName = "" ∨ jsLength nextTableName > 64 then some "表名不能为空，且不能超过 64 个字符。"
  else if nextTableName = tableName then
    some (if action = .rename then "请输入不同的新表名。" else "复制表不能与原表同名。")
  else if action = .rename ∧ hasDirtyWorkspace = true then some "请先提交或撤销该表的本地修改，再重命名。"
  else none

/-! ### The catalog and the pins -/

/-- Table names per connection, then per schema; nothing where a schema was never read. -/
abbrev TableCatalog := Uuid × String → Option (List String)

def removeTableFromCatalog (catalog : TableCatalog) (target : TableTarget) : TableCatalog :=
  match catalog (target.connectionId, target.database) with
  | none => catalog
  | some cached => Function.update catalog (target.connectionId, target.database) (some (cached.filter (· ≠ target.tableName)))

def renameTableInCatalog (catalog : TableCatalog) (target : TableTarget) (nextTableName : String) : TableCatalog :=
  match catalog (target.connectionId, target.database) with
  | none => catalog
  | some cached =>
    Function.update catalog (target.connectionId, target.database)
      (some (cached.map fun name => if name = target.tableName then nextTableName else name))

def addTableToCatalog (catalog : TableCatalog) (target : TableTarget) (nextTableName : String) : TableCatalog :=
  let cached := (catalog (target.connectionId, target.database)).getD []
  if nextTableName ∈ cached then catalog
  else Function.update catalog (target.connectionId, target.database) (some (cached ++ [nextTableName]))

/-- The next pins, where they change. -/
def removePinnedTableKey (current : Finset String) (key : String) : Option (Finset String) :=
  if key ∈ current then some (current.erase key) else none

def renamePinnedTableKey (current : Finset String) (previousKey nextKey : String) : Option (Finset String) :=
  if previousKey ∈ current then some (insert nextKey (current.erase previousKey)) else none

def togglePinnedTableKey (current : Finset String) (key : String) : Finset String :=
  if key ∈ current then current.erase key else insert key current

/-! ### The application -/

/-- An open tab, with whether the workspace mounted in it has unsaved changes. -/
structure OpenTableTab where
  id : String
  target : TableTarget
  title : String
  unsaved : Bool
deriving DecidableEq, Repr

structure PendingTableDestructiveAction where
  action : TableDestructiveAction
  target : TableTarget
deriving DecidableEq, Repr

structure PendingTableNameAction where
  action : TableNameAction
  target : TableTarget
deriving DecidableEq, Repr

/-- A destructive statement in flight, with the pins of the rendering that confirmed it. -/
structure ExecutingTableAction where
  pending : PendingTableDestructiveAction
  pinnedTableKeys : Finset String
deriving DecidableEq

/-- A rename or a copy in flight; a copy that has its structure may still copy rows. -/
structure ExecutingTableNameAction where
  pending : PendingTableNameAction
  profileName : String
  nextTableName : String
  statements : TableNameActionStatements
  structureCreated : Bool
  pinnedTableKeys : Finset String
deriving DecidableEq

structure App where
  profiles : List ConnectionProfile
  openTableTabs : List OpenTableTab
  dirtyTableTabIds : Finset String
  tableCatalog : TableCatalog
  pinnedTableKeys : Finset String
  pendingTableAction : Option PendingTableDestructiveAction
  tableActionError : Option String
  executingTableAction : Option ExecutingTableAction
  pendingTableNameAction : Option PendingTableNameAction
  tableNameActionError : Option String
  executingTableNameAction : Option ExecutingTableNameAction

namespace App
variable (app : App)

def profile (connectionId : Uuid) : Option ConnectionProfile := app.profiles.find? (·.id = connectionId)

/-- The profile of a connection whose tables can be acted on. -/
def mySqlProfile (target : TableTarget) : Option ConnectionProfile :=
  (app.profile target.connectionId).filter fun profile => profile.engine = .mySql ∧ target.database ≠ ""

/-- The flag that the confirmation of an action on this table is shown with. -/
def hasDirtyWorkspace (target : TableTarget) : Bool :=
  target.connectionId.hyphenated ++ ":" ++ target.tableName ∈ app.dirtyTableTabIds

def pendingTableActionHasDirtyWorkspace : Bool :=
  app.pendingTableAction.any fun pending => app.hasDirtyWorkspace pending.target

def pendingTableNameActionHasDirtyWorkspace : Bool :=
  app.pendingTableNameAction.any fun pending => app.hasDirtyWorkspace pending.target

def togglePinnedTable (target : TableTarget) : App :=
  { app with pinnedTableKeys := togglePinnedTableKey app.pinnedTableKeys (tableTargetKey target) }

/-- Dispatches a shortcut; what it copies, shows or exports changes nothing here. -/
def handleRequestTableAction (target : TableTarget) (action : TableQuickAction) : App :=
  match app.mySqlProfile target with
  | none => app
  | some _ =>
    match action with
    | .rename => { app with tableNameActionError := none, pendingTableNameAction := some ⟨.rename, target⟩ }
    | .duplicate => { app with tableNameActionError := none, pendingTableNameAction := some ⟨.duplicate, target⟩ }
    | .truncate => { app with tableActionError := none, pendingTableAction := some ⟨.truncate, target⟩ }
    | .drop => { app with tableActionError := none, pendingTableAction := some ⟨.drop, target⟩ }
    | .togglePin => app.togglePinnedTable target
    | .copyName | .openWindow | .exportCsv | .exportJson | .exportSql | .showCreate | .copyCreate => app

def handleOpenTable (target : TableTarget) : App :=
  match app.mySqlProfile target with
  | none => app
  | some profile =>
    if app.openTableTabs.any (·.id = tableTabId target) then app
    else { app with
      openTableTabs := app.openTableTabs ++ [{
        id := tableTabId target
        target
        title := s!"{profile.name} · {target.database}.{target.tableName}"
        unsaved := false }]
      -- the workspace reports itself clean when it is mounted
      dirtyTableTabIds := app.dirtyTableTabIds.erase (tableTabId target) }

def closeTableImmediately (tabId : String) : App :=
  { app with
    openTableTabs := app.openTableTabs.filter (·.id ≠ tabId)
    dirtyTableTabIds := app.dirtyTableTabIds.erase tabId }

def handleTableDirtyChange (tabId : String) (dirty : Bool) : App :=
  { app with dirtyTableTabIds := if dirty then insert tabId app.dirtyTableTabIds else app.dirtyTableTabIds.erase tabId }

/-- The workspace of an open tab changes and reports itself. -/
def workspaceChanges (tabId : String) (dirty : Bool) : App :=
  let changed := { app with
    openTableTabs := app.openTableTabs.map fun tab : OpenTableTab => if tab.id = tabId then { tab with unsaved := dirty } else tab }
  if app.openTableTabs.any (·.id = tabId) then changed.handleTableDirtyChange tabId dirty else app

/-! ### Truncating and dropping -/

def handleCancelTableAction : App :=
  if app.executingTableAction.isSome then app else { app with pendingTableAction := none, tableActionError := none }

/-- The statement that a confirmation executes, and on which connection. -/
def confirmedTableAction : Option (Uuid × TableStatement) := do
  let pending ← app.pendingTableAction
  let profile ← app.profile pending.target.connectionId
  let database ← profile.database
  if database = "" ∨ app.executingTableAction.isSome = true then none
  else some (pending.target.connectionId, buildDestructiveTableStatement pending.action database pending.target.tableName)

def handleConfirmTableAction : App :=
  match app.pendingTableAction, app.confirmedTableAction with
  | some pending, some _ =>
    { app with executingTableAction := some ⟨pending, app.pinnedTableKeys⟩, tableActionError := none }
  | _, _ => app

/-- The statement has run, or has failed with a message. -/
def tableActionSettled (error : Option String) : App :=
  match app.executingTableAction with
  | none => app
  | some executing =>
    let target := executing.pending.target
    match error with
    | some message => { app with executingTableAction := none, tableActionError := some message }
    | none =>
      let closed := app.closeTableImmediately (tableTabId target)
      let reconciled := match executing.pending.action with
        | .truncate => closed
        | .drop => { closed with
            tableCatalog := removeTableFromCatalog closed.tableCatalog target
            pinnedTableKeys := (removePinnedTableKey executing.pinnedTableKeys (tableTargetKey target)).getD
              closed.pinnedTableKeys }
      { reconciled with pendingTableAction := none, executingTableAction := none }

/-! ### Renaming and copying -/

structure TableNameActionRequest where
  tableName : String
  copyData : Bool
deriving DecidableEq, Repr

def handleCancelTableNameAction : App :=
  if app.executingTableNameAction.isSome then app else { app with pendingTableNameAction := none, tableNameActionError := none }

/-- What a confirmation starts, or the message that refuses it; nothing where it is ignored. -/
def confirmedTableNameAction (request : TableNameActionRequest) : Option (Except String ExecutingTableNameAction) := do
  let pending ← app.pendingTableNameAction
  let profile ← app.profile pending.target.connectionId
  let database ← profile.database
  let nextTableName := jsTrim request.tableName
  let refusal := tableNameActionValidationError pending.action pending.target.tableName nextTableName
    app.pendingTableNameActionHasDirtyWorkspace
  if database = "" ∨ app.executingTableNameAction.isSome = true then none
  else
    match refusal with
    | some message => some (.error message)
    | none => some (.ok {
        pending
        profileName := profile.name
        nextTableName
        statements := buildTableNameActionStatements pending.action database pending.target.tableName nextTableName request.copyData
        structureCreated := false
        pinnedTableKeys := app.pinnedTableKeys })

def handleConfirmTableNameAction (request : TableNameActionRequest) : App :=
  match app.confirmedTableNameAction request with
  | none => app
  | some (.error message) => { app with tableNameActionError := some message }
  | some (.ok executing) => { app with executingTableNameAction := some executing, tableNameActionError := none }

/-- The tab, the pin and the catalog entry of a renamed table. -/
def renamed (executing : ExecutingTableNameAction) : App :=
  let target := executing.pending.target
  let next : TableTarget := { target with tableName := executing.nextTableName }
  { app with
    openTableTabs := app.openTableTabs.map fun tab =>
      if tab.id = tableTabId target then
        { id := tableTabId next
          target := { tab.target with tableName := executing.nextTableName }
          title := s!"{executing.profileName} · {target.database}.{executing.nextTableName}"
          unsaved := false }
      else tab
    -- the workspace is mounted anew under the new identity and reports itself clean
    dirtyTableTabIds := if app.openTableTabs.any (·.id = tableTabId target) then app.dirtyTableTabIds.erase (tableTabId next)
      else app.dirtyTableTabIds
    pinnedTableKeys := (renamePinnedTableKey executing.pinnedTableKeys (tableTargetKey target) (tableTargetKey next)).getD
      app.pinnedTableKeys
    tableCatalog := renameTableInCatalog app.tableCatalog target executing.nextTableName }

def tableNameActionSettled (error : Option String) : App :=
  match app.executingTableNameAction with
  | none => app
  | some executing =>
    match error with
    | some message =>
      if executing.structureCreated then { app with pendingTableNameAction := none, executingTableNameAction := none }
      else { app with tableNameActionError := some message, executingTableNameAction := none }
    | none =>
      let finished (app : App) : App := { app with pendingTableNameAction := none, executingTableNameAction := none }
      match executing.pending.action with
      | .rename => finished (app.renamed executing)
      | .duplicate =>
        if executing.structureCreated then finished app
        else
          let created := { app with
            tableCatalog := addTableToCatalog app.tableCatalog executing.pending.target executing.nextTableName }
          if executing.statements.copyRows.isSome then
            { created with executingTableNameAction := some { executing with structureCreated := true } }
          else finished created

/-! ### Events -/

inductive Event where
  | profilesChanged (profiles : List ConnectionProfile)
  | connectionDeleted (connectionId : Uuid)
  | databaseDropped (connectionId : Uuid) (database : String)
  | catalogLoaded (connectionId : Uuid) (database : String) (tables : List String)
  | openTable (target : TableTarget)
  | closeTable (tabId : String)
  | workspaceChanges (tabId : String) (dirty : Bool)
  | requestTableAction (target : TableTarget) (action : TableQuickAction)
  | cancelTableAction
  | confirmTableAction
  | tableActionSettled (error : Option String)
  | cancelTableNameAction
  | confirmTableNameAction (request : TableNameActionRequest)
  | tableNameActionSettled (error : Option String)

def connectionDeleted (connectionId : Uuid) : App :=
  { app with
    profiles := app.profiles.filter (·.id ≠ connectionId)
    pinnedTableKeys := app.pinnedTableKeys.filter fun key => !key.startsWith (connectionId.hyphenated ++ "\x00")
    dirtyTableTabIds := app.dirtyTableTabIds.filter fun tabId =>
      !app.openTableTabs.any fun tab => tab.target.connectionId = connectionId ∧ tab.id = tabId
    openTableTabs := app.openTableTabs.filter (·.target.connectionId ≠ connectionId) }

def databaseDropped (connectionId : Uuid) (database : String) : App :=
  let closed := (app.openTableTabs.filter fun tab =>
    tab.target.connectionId = connectionId ∧ tab.target.database = database).foldl (fun app tab => app.closeTableImmediately tab.id) app
  { closed with tableCatalog := Function.update closed.tableCatalog (connectionId, database) none }

def step (app : App) : Event → App
  | .profilesChanged profiles => { app with profiles }
  | .connectionDeleted connectionId => app.connectionDeleted connectionId
  | .databaseDropped connectionId database => app.databaseDropped connectionId database
  | .catalogLoaded connectionId database tables =>
    { app with tableCatalog := Function.update app.tableCatalog (connectionId, database) (some tables) }
  | .openTable target => app.handleOpenTable target
  | .closeTable tabId => app.closeTableImmediately tabId
  | .workspaceChanges tabId dirty => app.workspaceChanges tabId dirty
  | .requestTableAction target action => app.handleRequestTableAction target action
  | .cancelTableAction => app.handleCancelTableAction
  | .confirmTableAction => app.handleConfirmTableAction
  | .tableActionSettled error => app.tableActionSettled error
  | .cancelTableNameAction => app.handleCancelTableNameAction
  | .confirmTableNameAction request => app.handleConfirmTableNameAction request
  | .tableNameActionSettled error => app.tableNameActionSettled error

/-- The statement that an event sends, and to which connection. -/
def executes (app : App) : Event → Option (Uuid × TableStatement)
  | .confirmTableAction => app.confirmedTableAction
  | .confirmTableNameAction request =>
    match app.confirmedTableNameAction request with
    | some (.ok executing) => some (executing.pending.target.connectionId, executing.statements.primary)
    | _ => none
  | .tableNameActionSettled none =>
    match app.executingTableNameAction with
    | some executing =>
      if executing.structureCreated then none
      else executing.statements.copyRows.map fun statement => (executing.pending.target.connectionId, statement)
    | none => none
  | _ => none

/-- The application as it starts: in the window of one table, that table is open. -/
def initial (profiles : List ConnectionProfile) (pinnedTableKeys : Finset String)
    (detachedTableTab : Option (TableTarget × String)) : App where
  profiles
  openTableTabs := detachedTableTab.toList.map fun tab =>
    { id := tableTabId tab.1, target := tab.1, title := tab.2, unsaved := false }
  dirtyTableTabIds := ∅
  tableCatalog := fun _ => none
  pinnedTableKeys
  pendingTableAction := none
  tableActionError := none
  executingTableAction := none
  pendingTableNameAction := none
  tableNameActionError := none
  executingTableNameAction := none

end App
end Pipa.TableActions
