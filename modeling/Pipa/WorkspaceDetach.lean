import Pipa.LocalStore

/-! The move of a query tab into a window of its own: the saves of the source window
are flushed, the stored tab is transferred, the window is created, and the source
window drops the tab. At every await the user may type and saves may run. -/

namespace Pipa

/-- How a move ended. A failed one was rolled back if the tab had been transferred,
and the rollback succeeded or failed. -/
inductive DetachOutcome where
  | detached
  | failed (rollback : Option Bool)
deriving DecidableEq, Repr

/-- What `handleDetachWorkspace` awaits: the drain loop, which may have settled, the
reply to a transfer, which may have been executed, or the new window. -/
inductive DetachPhase where
  | flushing (drained : Bool)
  | transferring (answer : Option Bool)
  | creating
  | rollingBack (answer : Option Bool)
  | ended (outcome : DetachOutcome)
deriving DecidableEq, Repr

/-- The source window with the stored tabs, and the outcome of the save in flight once
the backend has executed it. -/
structure SourceWindow where
  hook : WorkspacePersistence
  workspaceTabs : LocalStore.WorkspaceTabs
  answer : Option Bool

/-- A move of the tab that was captured when it began. -/
structure WorkspaceDetach extends SourceWindow where
  tab : WorkspaceTab
  sourceWindowLabel : String
  targetWindowLabel : String
  phase : DetachPhase

namespace WorkspaceDetach

open LocalStore

variable (localeCompare : String → String → Ordering)

/-- `handleDetachWorkspace` up to its first await. It refuses while another tab is
being moved, and a tab that is gone or whose query runs. -/
def handleDetachWorkspace (window : SourceWindow) (tabId : String) (detachingWorkspaceId busyQueryTabId : Option String)
    (sourceWindowLabel targetWindowLabel : String) : Option WorkspaceDetach :=
  if detachingWorkspaceId.isSome then none
  else match window.hook.screen.tabs.find? (fun tab => tab.id = tabId) with
  | none => none
  | some tab =>
    if busyQueryTabId = some tab.id then none
    else
      let hook := window.hook.step localeCompare .retrySave
      some { window with
        hook, tab, sourceWindowLabel, targetWindowLabel
        phase := .flushing (hook.recoveryBlocked || hook.drain = .idle) }

/-- What can happen meanwhile. A command is executed, with or without a fault, before
its reply arrives. -/
inductive Step where
  | updateTabSql (closure : Screen) (tabId sqlText : String)
  | selectTab (tabId : String)
  | timerFires
  | hidden
  | retrySave
  | loadSettles
  | saveExecutes (fault : Option String)
  | saveReplies
  | drainSettles
  | flushed
  | transferExecutes (fault : Option String)
  | transferReplies
  | created
  | creationFails
  | rollbackExecutes (fault : Option String)
  | rollbackReplies

variable (self : WorkspaceDetach)

def react (event : WorkspacePersistence.Step) : WorkspaceDetach := { self with hook := self.hook.step localeCompare event }

/-- Executes a command: it has its effect, or the table stays as it is. -/
def execute (outcome : Except AppError WorkspaceTabs) : WorkspaceTabs × Bool :=
  match outcome with
  | .ok workspaceTabs => (workspaceTabs, true)
  | .error _ => (self.workspaceTabs, false)

def saveExecutes (fault : Option String) : WorkspaceDetach :=
  match self.hook.drain, self.answer with
  | .saving save, none =>
    let (workspaceTabs, answer) := self.execute (saveWorkspace self.workspaceTabs self.sourceWindowLabel save.snapshot fault)
    { self with workspaceTabs, answer := some answer }
  | _, _ => self

def saveReplies : WorkspaceDetach :=
  match self.answer with
  | none => self
  | some stored => { self.react localeCompare (.saveReplies stored) with answer := none }

/-- The drain loop settles, also for the move that awaits it. -/
def drainSettles : WorkspaceDetach :=
  let settled := self.react localeCompare .drainSettles
  if self.phase = .flushing false ∧ self.hook.drain = .leaving then { settled with phase := .flushing true } else settled

def step : Step → WorkspaceDetach
  | .updateTabSql closure tabId sqlText => self.react localeCompare (.updateTabSql closure tabId sqlText)
  | .selectTab tabId => self.react localeCompare (.selectTab tabId)
  | .timerFires => self.react localeCompare .timerFires
  | .hidden => self.react localeCompare .hidden
  | .retrySave => self.react localeCompare .retrySave
  | .loadSettles => self.react localeCompare .loadSettles
  | .saveExecutes fault => self.saveExecutes fault
  | .saveReplies => self.saveReplies localeCompare
  | .drainSettles => self.drainSettles localeCompare
  | .flushed => if self.phase = .flushing true then { self with phase := .transferring none } else self
  | .transferExecutes fault =>
    if self.phase = .transferring none then
      let (workspaceTabs, answer) := self.execute
        (transferWorkspaceTab self.workspaceTabs self.tab self.sourceWindowLabel self.targetWindowLabel fault)
      { self with workspaceTabs, phase := .transferring (some answer) }
    else self
  | .transferReplies =>
    match self.phase with
    | .transferring (some true) => { self with phase := .creating }
    | .transferring (some false) => { self with phase := .ended (.failed none) }
    | _ => self
  | .created =>
    if self.phase = .creating then
      { self.react localeCompare (.closeTab self.tab.id) with phase := .ended .detached }
    else self
  | .creationFails => if self.phase = .creating then { self with phase := .rollingBack none } else self
  | .rollbackExecutes fault =>
    if self.phase = .rollingBack none then
      let (workspaceTabs, answer) := self.execute
        (transferWorkspaceTab self.workspaceTabs self.tab self.targetWindowLabel self.sourceWindowLabel fault)
      { self with workspaceTabs, phase := .rollingBack (some answer) }
    else self
  | .rollbackReplies =>
    match self.phase with
    | .rollingBack (some restored) => { self with phase := .ended (.failed (some restored)) }
    | _ => self

/-- An editor belongs to a tab of some rendering. -/
def Permits : Step → Prop
  | .updateTabSql closure tabId sqlText => self.hook.Permits (.updateTabSql closure tabId sqlText)
  | _ => True

end WorkspaceDetach

end Pipa
