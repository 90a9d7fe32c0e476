import Pipa.Library.Runs

/-! The hook that restores the query tabs of one window and saves them after quiet
periods. Its refs and its React state are one record; a promise is the phase it is
in, and every callback, reply and user action is a step of its own. -/

namespace Pipa

/-- The five fields of a tab that encrypted persistence allows. -/
structure WorkspaceTab where
  id : String
  connectionId : String
  title : String
  sqlText : String
  position : Nat
deriving DecidableEq, Repr

structure QueuedWorkspaceSave where
  revision : Nat
  snapshot : List WorkspaceTab
deriving DecidableEq, Repr

/-- One call of `saveWorkspace`. A discard has no revision. -/
structure SaveRequest where
  revision : Option Nat
  tabs : List WorkspaceTab
deriving DecidableEq, Repr

/-- The promise of the drain loop: there is none, the loop awaits a save, or it has
left and its `finally` is to come. -/
inductive Drain where
  | idle
  | saving (save : QueuedWorkspaceSave)
  | leaving
deriving DecidableEq, Repr

/-- The promise of a discard: there is none, it awaits the drain loop, or its own save. -/
inductive Discard where
  | idle | draining | saving
deriving DecidableEq, Repr

/-- The promise of a load: there is none, it awaits the backend, or its `finally` is to come. -/
inductive Load where
  | idle | loading | settling
deriving DecidableEq, Repr

/-- The React state, which the user sees and the handlers of a rendering close over. -/
structure Screen where
  tabs : List WorkspaceTab
  activeTabId : Option String
  loading : Bool
  loadError : Option String
  saveError : Option String
  recoveryBlocked : Bool
deriving DecidableEq, Repr

/-- The hook, with the screens that were rendered, the saves that are in flight and
those that ever were, whether a load has succeeded, whether a discard was ever
requested, and the tabs that the backend stored last. -/
structure WorkspacePersistence where
  tabs : List WorkspaceTab
  latestRevision : Nat
  persistedRevision : Nat
  queuedSave : Option QueuedWorkspaceSave
  inFlightRevision : Option Nat
  drain : Drain
  discard : Discard
  discarding : Bool
  timer : Bool
  load : Load
  recoveryBlocked : Bool
  mounted : Bool
  screen : Screen
  rendered : List Screen
  inFlight : List SaveRequest
  sent : List SaveRequest
  loaded : Bool
  discarded : Bool
  stored : List WorkspaceTab
deriving Repr

namespace WorkspacePersistence

def saveErrorMessage : String := "无法保存工作区。编辑内容仍保留在本机内存中，请重试。"

def loadErrorMessage : String := "无法恢复上次工作区。为避免覆盖原数据，请重新恢复后再编辑。"

section
variable (localeCompare : String → String → Ordering)

/-- The order of the tabs: by position, and by id where the positions are equal. -/
def precedes (left right : WorkspaceTab) : Bool :=
  left.position < right.position || (left.position = right.position && (localeCompare left.id right.id).isLE)

def sanitizeWorkspaceTabs (tabs : List WorkspaceTab) : List WorkspaceTab := tabs.mergeSort (precedes localeCompare)

/-- The positions that `updateTabs` gives. -/
def renumber (tabs : List WorkspaceTab) : List WorkspaceTab := tabs.mapIdx fun position tab => { tab with position }

variable (self : WorkspacePersistence)

def setSaveError (saveError : Option String) : WorkspacePersistence :=
  if self.mounted then { self with screen := { self.screen with saveError } } else self

/-- Calls `saveWorkspace`. -/
def callSave (request : SaveRequest) : WorkspacePersistence :=
  { self with inFlight := self.inFlight ++ [request], sent := self.sent ++ [request] }

/-- The reply to a call: what was stored is what the backend has from then on. -/
def replySave (request : SaveRequest) (stored : Bool) : WorkspacePersistence :=
  { self with inFlight := self.inFlight.erase request, stored := if stored then request.tabs else self.stored }

def saveRequest (save : QueuedWorkspaceSave) : SaveRequest := { revision := some save.revision, tabs := save.snapshot }

/-- The head of the drain loop: it takes the queued save, or leaves. -/
def drainSaveQueue : WorkspacePersistence :=
  match self.queuedSave with
  | none => { self with drain := .leaving }
  | some queuedSave =>
    { self with queuedSave := none, inFlightRevision := some queuedSave.revision, drain := .saving queuedSave }.callSave
      (saveRequest queuedSave)

def beginSaveDrain : WorkspacePersistence :=
  match self.drain with
  | .idle => self.drainSaveQueue
  | .saving _ | .leaving => self

/-- The rest of the drain loop's body, when its save is answered. -/
def saveReplied (queuedSave : QueuedWorkspaceSave) (stored : Bool) : WorkspacePersistence :=
  let self := self.replySave (saveRequest queuedSave) stored
  let self := if stored then { self with persistedRevision := max self.persistedRevision queuedSave.revision } else self
  let self := if queuedSave.revision = self.latestRevision then
      self.setSaveError (if stored then none else some saveErrorMessage) else self
  let self := if self.inFlightRevision = some queuedSave.revision then { self with inFlightRevision := none } else self
  self.drainSaveQueue

/-- The `finally` of the drain loop. -/
def drainSettled : WorkspacePersistence :=
  let self := { self with drain := .idle }
  if self.queuedSave.isSome then self.beginSaveDrain else self

def flushWorkspace : WorkspacePersistence :=
  if self.discarding then self
  else
    let self := { self with timer := false }
    if self.recoveryBlocked then self
    else if self.latestRevision ≤ self.persistedRevision ∨ some self.latestRevision = self.inFlightRevision then self
    else
      { self with queuedSave := some { revision := self.latestRevision, snapshot := sanitizeWorkspaceTabs localeCompare self.tabs } }
        |>.beginSaveDrain

def restoreWorkspace : WorkspacePersistence :=
  match self.load with
  | .idle =>
    { self with load := .loading, screen := { self.screen with loading := if self.mounted then true else self.screen.loading } }
  | .loading | .settling => self

def loadResolved (restoredTabs : List WorkspaceTab) : WorkspacePersistence :=
  let safeTabs := sanitizeWorkspaceTabs localeCompare restoredTabs
  let self := { self with
    tabs := safeTabs
    latestRevision := 0
    persistedRevision := 0
    queuedSave := none
    recoveryBlocked := false
    load := .settling
    loaded := true
    stored := restoredTabs }
  if self.mounted then
    { self with screen := { self.screen with
        tabs := safeTabs
        activeTabId := safeTabs.head?.map WorkspaceTab.id
        loadError := none
        saveError := none
        recoveryBlocked := false } }
  else self

def loadRejected : WorkspacePersistence :=
  let self := { self with timer := false, queuedSave := none, recoveryBlocked := true, load := .settling }
  if self.mounted then
    { self with screen := { self.screen with loadError := some loadErrorMessage, recoveryBlocked := true } }
  else self

def loadSettled : WorkspacePersistence :=
  let self := { self with load := .idle }
  if self.mounted then { self with screen := { self.screen with loading := false } } else self

/-- Replaces the tabs in memory and starts the quiet period over. -/
def updateTabs (nextTabs : List WorkspaceTab) : WorkspacePersistence :=
  if self.recoveryBlocked || self.discarding then self
  else
    let safeTabs := renumber (sanitizeWorkspaceTabs localeCompare nextTabs)
    { self with
      tabs := safeTabs
      latestRevision := self.latestRevision + 1
      screen := { self.screen with tabs := safeTabs }
      timer := true }

def discardWorkspace : WorkspacePersistence :=
  match self.discard with
  | .draining | .saving => self
  | .idle =>
    let self := { self with discarding := true, timer := false, queuedSave := none, discarded := true }
    match self.drain with
    | .idle => { self with discard := .saving }.callSave { revision := none, tabs := [] }
    | .saving _ | .leaving => { self with discard := .draining }

/-- A discard that awaited the drain loop looks at it again. -/
def discardContinued : WorkspacePersistence :=
  match self.drain with
  | .idle => { self with discard := .saving }.callSave { revision := none, tabs := [] }
  | .saving _ | .leaving => self

/-- The rest of a discard, when its save is answered. -/
def discardReplied (stored : Bool) : WorkspacePersistence :=
  let self := self.replySave { revision := none, tabs := [] } stored
  if stored then { self with discard := .idle }
  else { ({ self with discarding := false }.setSaveError (some saveErrorMessage)).flushWorkspace localeCompare with discard := .idle }

def setActiveTabId (activeTabId : Option String) : WorkspacePersistence :=
  { self with screen := { self.screen with activeTabId } }

def addTab (id connectionId title initialText : String) : WorkspacePersistence :=
  if self.recoveryBlocked then self
  else
    let tab := { id, connectionId, title, sqlText := initialText, position := self.tabs.length }
    (self.updateTabs localeCompare (self.tabs ++ [tab])).setActiveTabId (some id)

def closeTab (tabId : String) : WorkspacePersistence :=
  if self.recoveryBlocked then self
  else match self.tabs.findIdx? (fun tab => tab.id = tabId) with
  | none => self
  | some closingIndex =>
    let nextTabs := self.tabs.filter (fun tab => tab.id ≠ tabId)
    let self := self.updateTabs localeCompare nextTabs
    if self.screen.activeTabId ≠ some tabId then self
    else self.setActiveTabId (((nextTabs[closingIndex]?).or
      (if closingIndex = 0 then none else nextTabs[closingIndex - 1]?)).map WorkspaceTab.id)

def closeTabsForConnection (connectionId : String) : WorkspacePersistence :=
  let currentTabs := self.tabs
  let nextTabs := currentTabs.filter (fun tab => tab.connectionId ≠ connectionId)
  if self.recoveryBlocked || nextTabs.length = currentTabs.length then self
  else
    let self := self.updateTabs localeCompare nextTabs
    match currentTabs.findIdx? (fun tab => some tab.id = self.screen.activeTabId) with
    | none => self
    | some activeIndex =>
      if (currentTabs[activeIndex]?).any (fun tab => tab.connectionId = connectionId) then
        self.setActiveTabId ((nextTabs[min activeIndex (nextTabs.length - 1)]?).map WorkspaceTab.id)
      else self

/-- A generated title of the connection, which its old name begins. -/
def hasGeneratedTitle (connectionId previousName : String) (tab : WorkspaceTab) : Bool :=
  tab.connectionId = connectionId && (previousName ++ " · ").toList.isPrefixOf tab.title.toList

def renameConnectionTabTitles (connectionId previousName nextName : String) : WorkspacePersistence :=
  if self.recoveryBlocked || previousName = nextName then self
  else
    let nextTabs := self.tabs.map fun tab =>
      if hasGeneratedTitle connectionId previousName tab then
        { tab with title := nextName ++ " · " ++ String.ofList (tab.title.toList.drop (previousName ++ " · ").length) }
      else tab
    if self.tabs.any (hasGeneratedTitle connectionId previousName) then self.updateTabs localeCompare nextTabs else self

def reorderTab (tabId : String) (targetIndex : Int) : WorkspacePersistence :=
  if self.recoveryBlocked then self
  else match self.tabs.findIdx? (fun tab => tab.id = tabId) with
  | none => self
  | some fromIndex =>
    let toIndex := min targetIndex.toNat (self.tabs.length - 1)
    if fromIndex = toIndex then self
    else match self.tabs[fromIndex]? with
    | none => self
    | some movedTab => self.updateTabs localeCompare ((self.tabs.eraseIdx fromIndex).insertIdx toIndex movedTab)

def selectTab (tabId : String) : WorkspacePersistence :=
  if self.tabs.any (fun tab => tab.id = tabId) then self.setActiveTabId (some tabId) else self

def updateTabSql (tabId sqlText : String) : WorkspacePersistence :=
  if self.recoveryBlocked then self
  else self.updateTabs localeCompare (self.tabs.map fun tab => if tab.id = tabId then { tab with sqlText } else tab)

/-- The handlers of the application that add a tab. Each of them refuses while the
rendering that it belongs to shows a running or a failed recovery. -/
def handleAddTab (closure : Screen) (id connectionId title initialText : String) : WorkspacePersistence :=
  if closure.loading || closure.recoveryBlocked then self else self.addTab localeCompare id connectionId title initialText

end

/-- What can happen to the hook. A user action that reads a rendering names it. -/
inductive Step where
  | addTab (closure : Screen) (id connectionId title initialText : String)
  | closeTab (tabId : String)
  | closeTabsForConnection (connectionId : String)
  | renameConnectionTabTitles (connectionId previousName nextName : String)
  | reorderTab (tabId : String) (targetIndex : Int)
  | selectTab (tabId : String)
  | updateTabSql (closure : Screen) (tabId sqlText : String)
  | timerFires
  | hidden
  | unmount
  | retrySave
  | retryLoad
  | loadResolves (restoredTabs : List WorkspaceTab)
  | loadRejects
  | loadSettles
  | saveReplies (stored : Bool)
  | drainSettles
  | discard
  | discardContinues
  | discardReplies (stored : Bool)

section
variable (localeCompare : String → String → Ordering) (self : WorkspacePersistence)

/-- The hook once its mount effects have run: the first load is on its way. -/
def start : WorkspacePersistence :=
  let screen : Screen :=
    { tabs := [], activeTabId := none, loading := true, loadError := none, saveError := none, recoveryBlocked := false }
  restoreWorkspace {
    tabs := []
    latestRevision := 0
    persistedRevision := 0
    queuedSave := none
    inFlightRevision := none
    drain := .idle
    discard := .idle
    discarding := false
    timer := false
    load := .idle
    recoveryBlocked := false
    mounted := true
    screen
    rendered := [screen]
    inFlight := []
    sent := []
    loaded := false
    discarded := false
    stored := [] }

/-- What a step does, before the screen is rendered again. -/
def react : Step → WorkspacePersistence
  | .addTab closure id connectionId title initialText => self.handleAddTab localeCompare closure id connectionId title initialText
  | .closeTab tabId => self.closeTab localeCompare tabId
  | .closeTabsForConnection connectionId => self.closeTabsForConnection localeCompare connectionId
  | .renameConnectionTabTitles connectionId previousName nextName =>
    self.renameConnectionTabTitles localeCompare connectionId previousName nextName
  | .reorderTab tabId targetIndex => self.reorderTab localeCompare tabId targetIndex
  | .selectTab tabId => self.selectTab tabId
  | .updateTabSql _ tabId sqlText => self.updateTabSql localeCompare tabId sqlText
  | .timerFires => if self.timer then { self with timer := false }.flushWorkspace localeCompare else self
  | .hidden | .retrySave => self.flushWorkspace localeCompare
  | .unmount => { self with mounted := false }.flushWorkspace localeCompare
  | .retryLoad => self.restoreWorkspace
  | .loadResolves restoredTabs => if self.load = .loading then self.loadResolved localeCompare restoredTabs else self
  | .loadRejects => if self.load = .loading then self.loadRejected else self
  | .loadSettles => if self.load = .settling then self.loadSettled else self
  | .saveReplies stored =>
    match self.drain with
    | .saving queuedSave => self.saveReplied queuedSave stored
    | .idle | .leaving => self
  | .drainSettles => if self.drain = .leaving then self.drainSettled else self
  | .discard => self.discardWorkspace
  | .discardContinues => if self.discard = .draining then self.discardContinued else self
  | .discardReplies stored => if self.discard = .saving then self.discardReplied localeCompare stored else self

def step (event : Step) : WorkspacePersistence :=
  let next := self.react localeCompare event
  { next with rendered := next.rendered ++ [next.screen] }

/-- The steps that the application and its user can take: handlers belong to some
rendering, an editor to a tab of it, and the recovery is retried by a button that is
shown after a failed load and disabled while another runs. -/
def Permits : Step → Prop
  | .addTab closure .. => closure ∈ self.rendered
  | .updateTabSql closure tabId _ => closure ∈ self.rendered ∧ ∃ tab ∈ closure.tabs, tab.id = tabId
  | .retryLoad => self.mounted = true ∧ self.screen.recoveryBlocked = true ∧ self.screen.loading = false
  | .discard => self.loaded = true
  | _ => True

end

end WorkspacePersistence

end Pipa
