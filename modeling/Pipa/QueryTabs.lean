import Pipa.Library.Runs

/-! The query tabs of a window, and what may take one away: the close shortcut, the tab strip,
the command palette, moving a tab into a window of its own, and deleting its connection.
The workspaces of hidden tabs stay mounted, so several queries can run at once. -/

namespace Pipa.QueryTabs

structure QueryTab where
  id : String
  connectionId : String
deriving DecidableEq, Repr

/-- What the guards read. `running` is the state of the tabs' own sessions, which report it. -/
structure App where
  tabs : List QueryTab
  activeTabId : Option String
  recoveryBlocked : Bool
  openTableTabs : List String
  dirtyTableTabIds : List String
  activeTableTabId : Option String
  pendingCloseTableId : Option String
  binlogWorkspaceOpen : Bool
  connectionManagerOpen : Bool
  activeUtilityTabId : Option String
  busyQueryTabId : Option String
  deleteCandidate : Option String
  deletingConnectionId : Option String
  detachingWorkspaceId : Option String
  /-- Another dialog, the palette or a panel is open. -/
  dialogOpen : Bool
  running : List String
deriving DecidableEq, Repr

def binlogWorkspaceTab : String := "binlog-analysis"

def connectionManagerTab : String := "connection-manager"

/-- The window after its tabs have been restored. -/
def restored (tabs : List QueryTab) (activeTabId : Option String) : App where
  tabs
  activeTabId
  recoveryBlocked := false
  openTableTabs := []
  dirtyTableTabIds := []
  activeTableTabId := none
  pendingCloseTableId := none
  binlogWorkspaceOpen := false
  connectionManagerOpen := false
  activeUtilityTabId := none
  busyQueryTabId := none
  deleteCandidate := none
  deletingConnectionId := none
  detachingWorkspaceId := none
  dialogOpen := false
  running := []

namespace App

/-- The window remembers one busy tab: the last to start, until that one ends. -/
def handleQueryRunningChange (app : App) (tabId : String) (running : Bool) : App :=
  { app with
    busyQueryTabId := if running then some tabId else if app.busyQueryTabId = some tabId then none else app.busyQueryTabId }

/-- The effect of a workspace reports when its session starts or ends a query; the cleanup of
the effect reports before. -/
def sessionChanges (app : App) (tabId : String) (running : Bool) : App :=
  let others := app.running.filter (· ≠ tabId)
  ({ app with running := if running then tabId :: others else others }.handleQueryRunningChange tabId false).handleQueryRunningChange
    tabId running

/-- A workspace that goes away takes its session with it. -/
def unmount (app : App) (tab : QueryTab) : App :=
  { app with running := app.running.filter (· ≠ tab.id) }.handleQueryRunningChange tab.id false

def updateTabs (app : App) (tabs : List QueryTab) : App :=
  (app.tabs.filter (· ∉ tabs)).foldl unmount { app with tabs }

/-! ### Closing -/

/-- `queryWorkspace.closeTab` -/
def closeTab (app : App) (tabId : String) : App :=
  let closingIndex := app.tabs.findIdx (·.id = tabId)
  let nextTabs := app.tabs.filter (·.id ≠ tabId)
  let next := ((nextTabs[closingIndex]?).or (nextTabs[closingIndex - 1]?)).map (·.id)
  if app.recoveryBlocked = true ∨ app.tabs.length ≤ closingIndex then app
  else { app with activeTabId := if app.activeTabId = some tabId then next else app.activeTabId }.updateTabs nextTabs

/-- `queryWorkspace.closeTabsForConnection` -/
def closeTabsForConnection (app : App) (connectionId : String) : App :=
  let nextTabs := app.tabs.filter (·.connectionId ≠ connectionId)
  let activeIndex := app.tabs.findIdx (some ·.id = app.activeTabId)
  let next := (nextTabs[min activeIndex (nextTabs.length - 1)]?).map (·.id)
  if app.recoveryBlocked = true ∨ nextTabs.length = app.tabs.length then app
  else
    { app with
      activeTabId := if (app.tabs[activeIndex]?).map QueryTab.connectionId = some connectionId then next else app.activeTabId }.updateTabs
      nextTabs

def handleCloseQueryTab (app : App) (tabId : String) : App :=
  let closed := app.closeTab tabId
  if app.activeTabId = some tabId ∧ app.tabs.length = 1 ∧ app.openTableTabs ≠ [] then
    { closed with activeTableTabId := app.openTableTabs.head? }
  else closed

def closeTableImmediately (app : App) (tabId : String) : App :=
  let closingIndex := app.openTableTabs.findIdx (· = tabId)
  let next := app.openTableTabs.filter (· ≠ tabId)
  if app.openTableTabs.length ≤ closingIndex then { app with dirtyTableTabIds := app.dirtyTableTabIds.filter (· ≠ tabId) }
  else
    { app with
      openTableTabs := next
      activeTableTabId :=
        if app.activeTableTabId = some tabId then (next[closingIndex]?).or (next[closingIndex - 1]?) else app.activeTableTabId
      dirtyTableTabIds := app.dirtyTableTabIds.filter (· ≠ tabId) }

def handleCloseTable (app : App) (tabId : String) : App :=
  if tabId ∈ app.dirtyTableTabIds then { app with pendingCloseTableId := some tabId } else app.closeTableImmediately tabId

/-- The other utility tab is shown if it is open. -/
def handleCloseUtilityTab (app : App) (tabId : String) : App :=
  let shown (fallback : Option String) := if app.activeUtilityTabId = some tabId then fallback else app.activeUtilityTabId
  if tabId = binlogWorkspaceTab then
    { app with
      binlogWorkspaceOpen := false
      activeUtilityTabId := shown (if app.connectionManagerOpen then some connectionManagerTab else none) }
  else if tabId = connectionManagerTab then
    { app with
      connectionManagerOpen := false
      activeUtilityTabId := shown (if app.binlogWorkspaceOpen then some binlogWorkspaceTab else none) }
  else app

/-- What is in front is closed: a utility, else a table, else a query that passes the guard. -/
def closeFront (guard : String → Bool) (app : App) : App :=
  match app.activeUtilityTabId, app.activeTableTabId, app.activeTabId with
  | some tabId, _, _ => app.handleCloseUtilityTab tabId
  | none, some tabId, _ => app.handleCloseTable tabId
  | none, none, some tabId => if guard tabId then app.handleCloseQueryTab tabId else app
  | none, none, none => app

/-- The shortcut does nothing while a dialog is open. -/
def closeWorkspaceShortcut (app : App) : App :=
  if app.dialogOpen = true ∨ app.deleteCandidate ≠ none ∨ app.pendingCloseTableId ≠ none then app
  else closeFront (fun tabId => app.busyQueryTabId ≠ some tabId) app

/-- The palette's command has no guard. -/
def closeWorkspaceCommand (app : App) : App := closeFront (fun _ => true) app

/-- The close button and the menu of the tab strip. -/
def closeTabOfKind (app : App) (tabId : String) : App :=
  if app.busyQueryTabId = some tabId then app else app.handleCloseQueryTab tabId

/-! ### Moving and deleting -/

/-- Up to its first await: what is being moved is remembered. -/
def handleDetachWorkspace (app : App) (tabId : String) : App :=
  if app.detachingWorkspaceId ≠ none then app
  else if (∀ tab ∈ app.tabs, tab.id ≠ tabId) ∨ app.busyQueryTabId = some tabId then app
  else { app with detachingWorkspaceId := some tabId }

def detachSettles (app : App) (detached : Bool) : App :=
  match app.detachingWorkspaceId with
  | none => app
  | some tabId => { (if detached then app.handleCloseQueryTab tabId else app) with detachingWorkspaceId := none }

def deleteBlockedByRunningQuery (app : App) : Bool :=
  app.tabs.any fun tab => app.busyQueryTabId = some tab.id && app.deleteCandidate = some tab.connectionId

/-- Up to its await. -/
def handleConfirmDeleteConnection (app : App) : App :=
  if app.deleteCandidate = none ∨ app.deletingConnectionId ≠ none ∨ app.deleteBlockedByRunningQuery = true then app
  else { app with deletingConnectionId := app.deleteCandidate }

def deleteSettles (app : App) (deleted : Bool) : App :=
  match app.deletingConnectionId with
  | none => app
  | some connectionId =>
    if deleted then { app.closeTabsForConnection connectionId with deletingConnectionId := none, deleteCandidate := none }
    else { app with deletingConnectionId := none }

end App

/-! ### Runs -/

/-- What happens in the window. What only concerns tables, utilities and dialogs may change
them in any way. -/
inductive Event where
  | queryStarts (tabId : String)
  | queryEnds (tabId : String)
  | createQuery (tab : QueryTab)
  | selectQuery (tabId : String)
  | shows (activeTableTabId activeUtilityTabId : Option String)
  | tables (openTableTabs dirtyTableTabIds : List String) (pendingCloseTableId : Option String)
  | utilities (binlogWorkspaceOpen connectionManagerOpen : Bool)
  | dialogs (dialogOpen : Bool)
  | recovery (blocked : Bool)
  | closeWorkspaceShortcut
  | closeWorkspaceCommand
  | closeTabOfKind (tabId : String)
  | detach (tabId : String)
  | detachSettles (detached : Bool)
  | requestDelete (connectionId : String)
  | cancelDelete
  | confirmDelete
  | deleteSettles (deleted : Bool)
deriving DecidableEq, Repr

namespace App

/-- Only the session of an open tab can start, and the identifier of a new tab is fresh. -/
def step (app : App) : Event → App
  | .queryStarts tabId =>
    if (∃ tab ∈ app.tabs, tab.id = tabId) ∧ tabId ∉ app.running then app.sessionChanges tabId true else app
  | .queryEnds tabId => if tabId ∈ app.running then app.sessionChanges tabId false else app
  | .createQuery tab =>
    if app.recoveryBlocked = true ∨ (∃ other ∈ app.tabs, other.id = tab.id) ∨ tab.id ∈ app.running then app
    else
      { (app.updateTabs (app.tabs ++ [tab])).handleQueryRunningChange tab.id false with
        activeTabId := some tab.id, activeTableTabId := none, activeUtilityTabId := none }
  | .selectQuery tabId => { app with activeTabId := some tabId, activeTableTabId := none, activeUtilityTabId := none }
  | .shows activeTableTabId activeUtilityTabId => { app with activeTableTabId, activeUtilityTabId }
  | .tables openTableTabs dirtyTableTabIds pendingCloseTableId =>
    { app with openTableTabs, dirtyTableTabIds, pendingCloseTableId }
  | .utilities binlogWorkspaceOpen connectionManagerOpen => { app with binlogWorkspaceOpen, connectionManagerOpen }
  | .dialogs dialogOpen => { app with dialogOpen }
  | .recovery blocked => { app with recoveryBlocked := blocked }
  | .closeWorkspaceShortcut => app.closeWorkspaceShortcut
  | .closeWorkspaceCommand => app.closeWorkspaceCommand
  | .closeTabOfKind tabId => app.closeTabOfKind tabId
  | .detach tabId => app.handleDetachWorkspace tabId
  | .detachSettles detached => app.detachSettles detached
  | .requestDelete connectionId => { app with deleteCandidate := some connectionId }
  | .cancelDelete => { app with deleteCandidate := none }
  | .confirmDelete => app.handleConfirmDeleteConnection
  | .deleteSettles deleted => app.deleteSettles deleted

end App

end Pipa.QueryTabs
