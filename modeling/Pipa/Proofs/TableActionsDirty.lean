import Pipa.TableActions

/-! The warning about unsaved edits before a table action. The open tabs are known by
identities with separators, the confirmation asks under another one. -/

namespace Pipa.TableActions.App
open Runs

/-- The open tab of this very table has unsaved changes. -/
def HasUnsaved (app : App) (target : TableTarget) : Prop :=
  ∃ tab ∈ app.openTableTabs, tab.target = target ∧ tab.unsaved = true

instance (app : App) (target : TableTarget) : Decidable (app.HasUnsaved target) :=
  inferInstanceAs (Decidable (∃ tab ∈ app.openTableTabs, _))

/-- The confirmation of a pending action is shown with what holds of its table. -/
def DirtyNoticed (app : App) : Prop :=
  (∀ pending, app.pendingTableAction = some pending →
      (app.pendingTableActionHasDirtyWorkspace = true ↔ app.HasUnsaved pending.target)) ∧
    ∀ pending, app.pendingTableNameAction = some pending →
      (app.pendingTableNameActionHasDirtyWorkspace = true ↔ app.HasUnsaved pending.target)

/-- An action on the table waits for its confirmation. -/
def Pending (app : App) (target : TableTarget) : Prop :=
  (∃ pending, app.pendingTableAction = some pending ∧ pending.target = target) ∨
    ∃ pending, app.pendingTableNameAction = some pending ∧ pending.target = target

/-- No separator occurs in the names; a connection is a UUID and MySQL has no such identifier. -/
def Plain (target : TableTarget) : Prop :=
  '\x00' ∉ target.connectionId.hyphenated.toList ∧ '\x00' ∉ target.tableName.toList

/-- The identities of tabs carry separators. -/
def Separated (tabId : String) : Prop := '\x00' ∈ tabId.toList

theorem tableTabId_separated (target : TableTarget) : Separated (tableTabId target) := by
  simp [Separated, tableTabId]

/-- Open tabs and dirty ones are known by identities with separators. -/
structure Identified (app : App) : Prop where
  open_ : ∀ tab ∈ app.openTableTabs, Separated tab.id
  dirty : ∀ tabId ∈ app.dirtyTableTabIds, Separated tabId

variable {app : App}

theorem Identified.closeTableImmediately (identified : app.Identified) (tabId : String) :
    (app.closeTableImmediately tabId).Identified where
  open_ := fun tab member => identified.open_ tab (List.mem_of_mem_filter member)
  dirty := fun other member => identified.dirty other (Finset.mem_of_mem_erase member)

theorem Identified.closeTables (identified : app.Identified) (tabs : List OpenTableTab) :
    (tabs.foldl (fun app tab => app.closeTableImmediately tab.id) app).Identified := by
  induction tabs generalizing app with
  | nil => exact identified
  | cons tab tabs ih => exact ih (identified.closeTableImmediately tab.id)

theorem Identified.handleOpenTable (identified : app.Identified) (target : TableTarget) :
    (app.handleOpenTable target).Identified := by
  unfold App.handleOpenTable
  split
  · exact identified
  split
  · exact identified
  · refine ⟨?_, fun other member => identified.dirty other (Finset.mem_of_mem_erase member)⟩
    intro tab member
    rcases List.mem_append.mp member with old | new
    · exact identified.open_ tab old
    · obtain rfl := List.mem_singleton.mp new
      exact tableTabId_separated target

theorem Identified.workspaceChanges (identified : app.Identified) (tabId : String) (dirty : Bool) :
    (app.workspaceChanges tabId dirty).Identified := by
  unfold App.workspaceChanges
  split
  next present =>
    obtain ⟨known, member, same⟩ := List.any_eq_true.mp present
    refine ⟨?_, ?_⟩
    · intro tab changed
      obtain ⟨old, listed, rfl⟩ := List.mem_map.mp changed
      have separated := identified.open_ old listed
      split <;> exact separated
    · intro other member'
      cases dirty with
      | true =>
        rcases Finset.mem_insert.mp member' with rfl | old
        · exact of_decide_eq_true same ▸ identified.open_ known member
        · exact identified.dirty other old
      | false => exact identified.dirty other (Finset.mem_of_mem_erase member')
  · exact identified

theorem Identified.renamed (identified : app.Identified) (executing : ExecutingTableNameAction) :
    (app.renamed executing).Identified := by
  refine ⟨?_, ?_⟩
  · intro tab member
    obtain ⟨old, listed, rfl⟩ := List.mem_map.mp member
    split
    · exact tableTabId_separated _
    · exact identified.open_ old listed
  · intro tabId member
    simp only [App.renamed] at member
    split at member
    · exact identified.dirty tabId (Finset.mem_of_mem_erase member)
    · exact identified.dirty tabId member

theorem Identified.connectionDeleted (identified : app.Identified) (connectionId : Uuid) :
    (app.connectionDeleted connectionId).Identified where
  open_ := fun tab member => identified.open_ tab (List.mem_of_mem_filter member)
  dirty := fun other member => identified.dirty other (Finset.mem_filter.mp member).1

/-- Handlers that leave the tabs alone keep what identifies them. -/
theorem Identified.same (identified : app.Identified) {next : App} (tabs : next.openTableTabs = app.openTableTabs)
    (dirty : next.dirtyTableTabIds = app.dirtyTableTabIds) : next.Identified :=
  ⟨tabs ▸ identified.open_, dirty ▸ identified.dirty⟩

theorem Identified.handleRequestTableAction (identified : app.Identified) (target : TableTarget) (action : TableQuickAction) :
    (app.handleRequestTableAction target action).Identified := by
  unfold App.handleRequestTableAction
  split
  · exact identified
  · cases action <;> exact identified.same rfl rfl

theorem Identified.tableActionSettled (identified : app.Identified) (error : Option String) :
    (app.tableActionSettled error).Identified := by
  unfold App.tableActionSettled
  split
  · exact identified
  next executing _ =>
    cases error with
    | some message => exact identified.same rfl rfl
    | none =>
      have closed := identified.closeTableImmediately (tableTabId executing.pending.target)
      dsimp only
      split <;> exact closed.same rfl rfl

theorem Identified.tableNameActionSettled (identified : app.Identified) (error : Option String) :
    (app.tableNameActionSettled error).Identified := by
  unfold App.tableNameActionSettled
  split
  · exact identified
  next executing _ =>
    cases error with
    | some message =>
      dsimp only
      split <;> exact identified.same rfl rfl
    | none =>
      dsimp only
      split
      · exact (identified.renamed executing).same rfl rfl
      · split
        · exact identified.same rfl rfl
        · split <;> exact identified.same rfl rfl

theorem step_identified (app : App) (event : Event) (identified : app.Identified) : (step app event).Identified := by
  cases event with
  | profilesChanged profiles => exact identified.same rfl rfl
  | connectionDeleted connectionId => exact identified.connectionDeleted connectionId
  | databaseDropped connectionId database => exact (identified.closeTables _).same rfl rfl
  | catalogLoaded connectionId database tables => exact identified.same rfl rfl
  | openTable target => exact identified.handleOpenTable target
  | closeTable tabId => exact identified.closeTableImmediately tabId
  | workspaceChanges tabId dirty => exact identified.workspaceChanges tabId dirty
  | requestTableAction target action => exact identified.handleRequestTableAction target action
  | cancelTableAction =>
    simp only [step, handleCancelTableAction]
    split <;> exact identified.same rfl rfl
  | confirmTableAction =>
    simp only [step, handleConfirmTableAction]
    split <;> exact identified.same rfl rfl
  | tableActionSettled error => exact identified.tableActionSettled error
  | cancelTableNameAction =>
    simp only [step, handleCancelTableNameAction]
    split <;> exact identified.same rfl rfl
  | confirmTableNameAction request =>
    simp only [step, handleConfirmTableNameAction]
    split <;> exact identified.same rfl rfl
  | tableNameActionSettled error => exact identified.tableNameActionSettled error

theorem initial_identified (profiles : List ConnectionProfile) (pinnedTableKeys : Finset String)
    (detachedTableTab : Option (TableTarget × String)) : (initial profiles pinnedTableKeys detachedTableTab).Identified := by
  refine ⟨?_, by simp [initial]⟩
  intro tab member
  obtain ⟨launch, -, rfl⟩ := List.mem_map.mp member
  exact tableTabId_separated _

/-- The confirmation asks under an identity that no tab has. -/
theorem hasDirtyWorkspace_plain (identified : app.Identified) {target : TableTarget} (plain : Plain target) :
    app.hasDirtyWorkspace target = false := by
  rw [hasDirtyWorkspace, decide_eq_false_iff_not]
  intro member
  have separated := identified.dirty _ member
  simp only [Separated, String.toList_append, List.mem_append] at separated
  rcases separated with (connection | colon) | table
  · exact plain.1 connection
  · exact absurd colon (by decide)
  · exact plain.2 table

/-- The warning about unsaved edits is right exactly if there are none. -/
theorem run_dirtyNoticed_iff (profiles : List ConnectionProfile) (pinnedTableKeys : Finset String)
    (detachedTableTab : Option (TableTarget × String)) (events : List Event)
    (plain : ∀ target, (run step (initial profiles pinnedTableKeys detachedTableTab) events).Pending target → Plain target) :
    (run step (initial profiles pinnedTableKeys detachedTableTab) events).DirtyNoticed ↔
      ∀ target, (run step (initial profiles pinnedTableKeys detachedTableTab) events).Pending target →
        ¬ (run step (initial profiles pinnedTableKeys detachedTableTab) events).HasUnsaved target := by
  have identified : (run step (initial profiles pinnedTableKeys detachedTableTab) events).Identified :=
    @run_preserves _ _ step _ Identified (initial_identified profiles pinnedTableKeys detachedTableTab) step_identified events
  generalize run step (initial profiles pinnedTableKeys detachedTableTab) events = app at plain identified ⊢
  constructor
  · intro noticed target pending unsaved
    have clean := hasDirtyWorkspace_plain identified (plain target pending)
    rcases pending with ⟨action, waiting, rfl⟩ | ⟨action, waiting, rfl⟩
    · have warned := (noticed.1 action waiting).mpr unsaved
      simp [pendingTableActionHasDirtyWorkspace, waiting, clean] at warned
    · have warned := (noticed.2 action waiting).mpr unsaved
      simp [pendingTableNameActionHasDirtyWorkspace, waiting, clean] at warned
  · intro saved
    constructor
    · intro action waiting
      have pending : app.Pending action.target := Or.inl ⟨action, waiting, rfl⟩
      have clean := hasDirtyWorkspace_plain identified (plain _ pending)
      simp [pendingTableActionHasDirtyWorkspace, waiting, clean, saved _ pending]
    · intro action waiting
      have pending : app.Pending action.target := Or.inr ⟨action, waiting, rfl⟩
      have clean := hasDirtyWorkspace_plain identified (plain _ pending)
      simp [pendingTableNameActionHasDirtyWorkspace, waiting, clean, saved _ pending]

def shopConnection : ConnectionProfile where
  id := ⟨"3f0c"⟩
  name := "shop"
  engine := .mySql
  database := some "shop"

def ordersOf (database : String) : TableTarget := ⟨shopConnection.id, database, "orders"⟩

/-- An open table is edited, and then its rename is requested. -/
def renameEdited : List Event :=
  [.openTable (ordersOf "shop"), .workspaceChanges (tableTabId (ordersOf "shop")) true,
    .requestTableAction (ordersOf "shop") .rename]

theorem run_dirtyNoticed_iff_renameEdited :
    (run step (initial [shopConnection] ∅ none) renameEdited).DirtyNoticed ↔
      ∀ target, (run step (initial [shopConnection] ∅ none) renameEdited).Pending target →
        ¬ (run step (initial [shopConnection] ∅ none) renameEdited).HasUnsaved target := by
  refine run_dirtyNoticed_iff _ _ _ _ ?_
  have named : (run step (initial [shopConnection] ∅ none) renameEdited).pendingTableNameAction =
      some ⟨.rename, ordersOf "shop"⟩ := by decide
  have undropped : (run step (initial [shopConnection] ∅ none) renameEdited).pendingTableAction = none := by decide
  intro target pending
  rcases pending with ⟨action, waiting, -⟩ | ⟨action, waiting, rfl⟩
  · rw [undropped] at waiting
    cases waiting
  · rw [named] at waiting
    cases waiting
    exact ⟨by decide, by decide⟩

/-- The dialog that renames an edited table does not know of its edits. -/
theorem renameEdited_unnoticed :
    (run step (initial [shopConnection] ∅ none) renameEdited).HasUnsaved (ordersOf "shop") ∧
      ¬ (run step (initial [shopConnection] ∅ none) renameEdited).DirtyNoticed := by
  have unsaved : (run step (initial [shopConnection] ∅ none) renameEdited).HasUnsaved (ordersOf "shop") := by decide
  have unflagged : (run step (initial [shopConnection] ∅ none) renameEdited).pendingTableNameActionHasDirtyWorkspace = false := by
    decide
  refine ⟨unsaved, fun noticed => ?_⟩
  have flagged := (noticed.2 ⟨.rename, ordersOf "shop"⟩ (by decide)).mpr unsaved
  rw [unflagged] at flagged
  cases flagged

end Pipa.TableActions.App
