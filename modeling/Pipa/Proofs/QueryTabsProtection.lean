import Pipa.QueryTabs

/-! Running queries are protected as long as one runs at a time: the window remembers one
busy tab, so the start of a second query leaves the first without its guards. -/

namespace Pipa.QueryTabs

namespace App

/-- No tab whose query runs can be closed by the shortcut, moved, or lose its connection. -/
def Protected (app : App) : Prop :=
  ∀ tab ∈ app.tabs, tab.id ∈ app.running →
    tab ∈ app.closeWorkspaceShortcut.tabs ∧ app.handleDetachWorkspace tab.id = app ∧
      ∀ deletingConnectionId, ∀ asked : App,
        asked = { app with deleteCandidate := some tab.connectionId, deletingConnectionId } →
          asked.deleteBlockedByRunningQuery = true ∧ asked.handleConfirmDeleteConnection = asked

/-- A query starts only while no query of another tab runs. -/
def Alone (app : App) (event : Event) : Prop :=
  ∀ tabId, event = .queryStarts tabId → ∀ other ∈ app.running, other = tabId

/-- Every running tab is the busy one. -/
def Remembered (app : App) : Prop := ∀ tabId ∈ app.running, app.busyQueryTabId = some tabId

/-! ### The remembered tab -/

theorem handleQueryRunningChange_other {app : App} {tabId other : String} (apart : other ≠ tabId)
    (busy : app.busyQueryTabId = some other) : (app.handleQueryRunningChange tabId false).busyQueryTabId = some other := by
  have different : app.busyQueryTabId ≠ some tabId := fun same => apart (Option.some.inj (busy.symm.trans same))
  rw [handleQueryRunningChange, if_neg Bool.false_ne_true, if_neg different, busy]

theorem unmount_remembered {app : App} (remembered : app.Remembered) (tab : QueryTab) : (app.unmount tab).Remembered := by
  intro other member
  obtain ⟨running, apart⟩ := List.mem_filter.mp member
  exact handleQueryRunningChange_other (by simpa using apart) (remembered other running)

theorem updateTabs_remembered {app : App} (remembered : app.Remembered) (tabs : List QueryTab) :
    (app.updateTabs tabs).Remembered := by
  rw [updateTabs]
  have start : ({ app with tabs } : App).Remembered := remembered
  revert start
  generalize ({ app with tabs } : App) = current
  induction app.tabs.filter (· ∉ tabs) generalizing current with
  | nil => exact id
  | cons tab closed ih => exact fun start => ih _ (unmount_remembered start tab)

theorem updateTabs_tabs (app : App) (tabs : List QueryTab) : (app.updateTabs tabs).tabs = tabs := by
  rw [updateTabs]
  have frame (closed : List QueryTab) (current : App) : (closed.foldl unmount current).tabs = current.tabs := by
    induction closed generalizing current with
    | nil => rfl
    | cons tab closed ih => exact ih (current.unmount tab)
  exact frame _ _

theorem closeTab_remembered {app : App} (remembered : app.Remembered) (tabId : String) : (app.closeTab tabId).Remembered := by
  rw [closeTab]
  split
  · exact remembered
  · exact updateTabs_remembered (by exact remembered) _

theorem closeTabsForConnection_remembered {app : App} (remembered : app.Remembered) (connectionId : String) :
    (app.closeTabsForConnection connectionId).Remembered := by
  rw [closeTabsForConnection]
  split
  · exact remembered
  · exact updateTabs_remembered (by exact remembered) _

theorem handleCloseQueryTab_remembered {app : App} (remembered : app.Remembered) (tabId : String) :
    (app.handleCloseQueryTab tabId).Remembered := by
  have closed := closeTab_remembered remembered tabId
  rw [handleCloseQueryTab]
  split <;> exact closed

/-- Closing a table or a utility concerns neither the query tabs nor what runs in them. -/
theorem handleCloseTable_frame (app : App) (tabId : String) :
    (app.handleCloseTable tabId).tabs = app.tabs ∧ (app.handleCloseTable tabId).running = app.running ∧
      (app.handleCloseTable tabId).busyQueryTabId = app.busyQueryTabId := by
  rw [handleCloseTable]
  split
  · exact ⟨rfl, rfl, rfl⟩
  · rw [closeTableImmediately]
    split <;> exact ⟨rfl, rfl, rfl⟩

theorem handleCloseUtilityTab_frame (app : App) (tabId : String) :
    (app.handleCloseUtilityTab tabId).tabs = app.tabs ∧ (app.handleCloseUtilityTab tabId).running = app.running ∧
      (app.handleCloseUtilityTab tabId).busyQueryTabId = app.busyQueryTabId := by
  rw [handleCloseUtilityTab]
  (repeat' split) <;> exact ⟨rfl, rfl, rfl⟩

theorem remembered_frame {app next : App} (remembered : app.Remembered) (running : next.running = app.running)
    (busy : next.busyQueryTabId = app.busyQueryTabId) : next.Remembered := by
  intro tabId member
  rw [busy]
  exact remembered tabId (running ▸ member)

/-- What closing the front can do. -/
theorem closeFront_cases (guard : String → Bool) (app : App) :
    (∃ tabId, closeFront guard app = app.handleCloseUtilityTab tabId) ∨ (∃ tabId, closeFront guard app = app.handleCloseTable tabId) ∨
      (∃ tabId, guard tabId = true ∧ closeFront guard app = app.handleCloseQueryTab tabId) ∨ closeFront guard app = app := by
  rw [closeFront]
  cases app.activeUtilityTabId with
  | some tabId => exact .inl ⟨tabId, rfl⟩
  | none =>
    cases app.activeTableTabId with
    | some tabId => exact .inr (.inl ⟨tabId, rfl⟩)
    | none =>
      cases app.activeTabId with
      | none => exact .inr (.inr (.inr rfl))
      | some tabId =>
        cases allowed : guard tabId with
        | true => exact .inr (.inr (.inl ⟨tabId, allowed, by simp [allowed]⟩))
        | false => exact .inr (.inr (.inr (by simp [allowed])))

theorem closeFront_remembered {app : App} (remembered : app.Remembered) (guard : String → Bool) :
    (closeFront guard app).Remembered := by
  obtain ⟨tabId, same⟩ | ⟨tabId, same⟩ | ⟨tabId, -, same⟩ | same := closeFront_cases guard app
  · obtain ⟨-, running, busy⟩ := handleCloseUtilityTab_frame app tabId
    exact same ▸ remembered_frame remembered running busy
  · obtain ⟨-, running, busy⟩ := handleCloseTable_frame app tabId
    exact same ▸ remembered_frame remembered running busy
  · exact same ▸ handleCloseQueryTab_remembered remembered tabId
  · exact same.symm ▸ remembered

/-! ### Steps and runs -/

/-- A query that starts alone is the busy tab, and one that ends was the busy tab. -/
theorem step_remembered (app : App) (event : Event) (alone : app.Alone event) (remembered : app.Remembered) :
    (app.step event).Remembered := by
  cases event with
  | queryStarts tabId =>
    rw [step]
    split
    next starts =>
      intro other member
      obtain same | earlier := List.mem_cons.mp member
      · subst same
        rfl
      · obtain ⟨running, apart⟩ := List.mem_filter.mp earlier
        exact absurd (alone tabId rfl other running) (by simpa using apart)
    · exact remembered
  | queryEnds tabId =>
    rw [step]
    split
    · intro other member
      obtain ⟨running, apart⟩ := List.mem_filter.mp member
      have apart : other ≠ tabId := by simpa using apart
      exact handleQueryRunningChange_other apart (handleQueryRunningChange_other apart (remembered other running))
    · exact remembered
  | createQuery tab =>
    rw [step]
    split
    · exact remembered
    next fresh =>
      have opened : app.updateTabs (app.tabs ++ [tab]) = { app with tabs := app.tabs ++ [tab] } := by
        have kept : app.tabs.filter (· ∉ app.tabs ++ [tab]) = [] := by
          rw [List.filter_eq_nil_iff]
          intro other member
          simp [member]
        rw [updateTabs, kept]
        rfl
      intro other member
      rw [opened] at member ⊢
      have apart : other ≠ tab.id := fun same => fresh (.inr (.inr (same ▸ member)))
      exact handleQueryRunningChange_other apart (remembered other member)
  | selectQuery | shows | tables | utilities | dialogs | recovery | requestDelete | cancelDelete => exact remembered
  | closeWorkspaceShortcut =>
    rw [step, closeWorkspaceShortcut]
    split
    · exact remembered
    · exact closeFront_remembered remembered _
  | closeWorkspaceCommand => exact closeFront_remembered remembered _
  | closeTabOfKind tabId =>
    rw [step, closeTabOfKind]
    split
    · exact remembered
    · exact handleCloseQueryTab_remembered remembered tabId
  | detach tabId =>
    rw [step, handleDetachWorkspace]
    (repeat' split) <;> exact remembered
  | detachSettles detached =>
    rw [step, detachSettles]
    split
    · exact remembered
    next tabId _ =>
      have closed := handleCloseQueryTab_remembered remembered tabId
      cases detached with
      | true => exact closed
      | false => exact remembered
  | confirmDelete =>
    rw [step, handleConfirmDeleteConnection]
    split <;> exact remembered
  | deleteSettles deleted =>
    rw [step, deleteSettles]
    split
    · exact remembered
    next connectionId _ =>
      have closed := closeTabsForConnection_remembered remembered connectionId
      cases deleted with
      | true => exact closed
      | false => exact remembered

theorem handleCloseQueryTab_keeps {app : App} {tab : QueryTab} {tabId : String} (member : tab ∈ app.tabs) (other : tab.id ≠ tabId) :
    tab ∈ (app.handleCloseQueryTab tabId).tabs := by
  have closed : tab ∈ (app.closeTab tabId).tabs := by
    rw [closeTab]
    split
    · exact member
    · rw [updateTabs_tabs]
      exact List.mem_filter.mpr ⟨member, by simpa using other⟩
  rw [handleCloseQueryTab]
  split <;> exact closed

theorem protected_of_remembered {app : App} (remembered : app.Remembered) : app.Protected := by
  intro tab member running
  have busy := remembered tab.id running
  refine ⟨?_, ?_, ?_⟩
  · rw [closeWorkspaceShortcut]
    split
    · exact member
    obtain ⟨tabId, same⟩ | ⟨tabId, same⟩ | ⟨tabId, allowed, same⟩ | same :=
      closeFront_cases (fun tabId => app.busyQueryTabId ≠ some tabId) app
    · rw [same, (handleCloseUtilityTab_frame app tabId).1]
      exact member
    · rw [same, (handleCloseTable_frame app tabId).1]
      exact member
    · rw [same]
      apply handleCloseQueryTab_keeps member
      intro active
      simp [busy, active] at allowed
    · rw [same]
      exact member
  · rw [handleDetachWorkspace, if_pos (Or.inr busy)]
    exact ite_self app
  · intro deletingConnectionId asked same
    subst same
    have blocked : deleteBlockedByRunningQuery
        { app with deleteCandidate := some tab.connectionId, deletingConnectionId } = true := by
      rw [deleteBlockedByRunningQuery, List.any_eq_true]
      refine ⟨tab, member, ?_⟩
      rw [Bool.and_eq_true, decide_eq_true_eq, decide_eq_true_eq]
      exact ⟨busy, rfl⟩
    refine ⟨blocked, ?_⟩
    rw [handleConfirmDeleteConnection, if_pos (Or.inr (Or.inr blocked))]

/-- In every run whose queries start one at a time, running queries are protected throughout. -/
theorem run_protected (tabs : List QueryTab) (activeTabId : Option String) (events : List Event)
    (alone : Runs.Permitted step Alone (restored tabs activeTabId) events) :
    (Runs.run step (restored tabs activeTabId) events).Protected := by
  apply protected_of_remembered
  apply @Runs.permitted_preserves App Event step Alone (restored tabs activeTabId) Remembered _ step_remembered events alone
  intro tabId absent
  cases absent

end App

/-! Two tabs on two connections. -/

def twoTabs : List QueryTab := [⟨"a", "first"⟩, ⟨"b", "second"⟩]

theorem run_protected_inTurn :
    App.Protected (Runs.run App.step (restored twoTabs (some "a"))
      [.queryStarts "a", .closeWorkspaceShortcut, .queryEnds "a", .queryStarts "b", .requestDelete "second", .confirmDelete]) := by
  apply App.run_protected
  have idle (app : App) (event : Event) (none : app.running = []) : app.Alone event := by
    intro tabId _ other running
    rw [none] at running
    cases running
  have silent (app : App) (event : Event) (other : ∀ tabId, event ≠ .queryStarts tabId) : app.Alone event :=
    fun tabId starts => absurd starts (other tabId)
  iterate 6
    rw [Runs.permitted_cons]
    refine ⟨?_, ?_⟩
    · first
      | exact silent _ _ fun _ => Event.noConfusion
      | exact idle _ _ (by decide)
  exact Runs.permitted_nil _ _ _

/-- The second start overwrites the first tab: all its guards are gone while its query runs. -/
theorem run_unprotected_overlapping :
    ¬∀ (tabs : List QueryTab) (activeTabId : Option String) (events : List Event),
      App.Protected (Runs.run App.step (restored tabs activeTabId) events) := by
  intro always
  obtain ⟨open_, -, -⟩ := always twoTabs (some "a") [.queryStarts "a", .queryStarts "b"] ⟨"a", "first"⟩ (by decide) (by decide)
  revert open_
  decide

end Pipa.QueryTabs
