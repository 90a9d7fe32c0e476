import Pipa.Library.Runs
import Pipa.LocalStore
import Pipa.Proofs.StoreCalls

/-! What a save and a transfer make of the stored tabs. -/

namespace Pipa

namespace LocalStore

variable {workspaceTabs after : WorkspaceTabs}

/-- A save that succeeds replaces the rows of its window. -/
theorem saveWorkspace_ok {windowLabel : String} {tabs : List WorkspaceTab} {fault : Option String}
    (saved : saveWorkspace workspaceTabs windowLabel tabs fault = .ok after) {row : WorkspaceRow} :
    row ∈ after.rows ↔ (∃ tab ∈ tabs, { tab, windowLabel } = row) ∨ row ∈ workspaceTabs.rows ∧ row.windowLabel ≠ windowLabel := by
  cases fault with
  | some source => cases saved
  | none =>
    rw [saveWorkspace] at saved
    split at saved
    · cases saved
    case h_2 replaced inserted =>
      cases saved
      rw [KeyedTable.mem_insertAll inserted, KeyedTable.mem_deleteWhere, decide_eq_false_iff_not, List.mem_map]

/-- A transfer that succeeds found the tab stored for the window it leaves, or for none. -/
theorem transferWorkspaceTab_ok {tab : WorkspaceTab} {sourceWindowLabel targetWindowLabel : String} {fault : Option String}
    (moved : transferWorkspaceTab workspaceTabs tab sourceWindowLabel targetWindowLabel fault = .ok after) {row : WorkspaceRow} :
    row ∈ after.rows ↔ row = { tab := { tab with position := 0 }, windowLabel := targetWindowLabel } ∨
      row ∈ workspaceTabs.rows ∧ row.tab.id ≠ tab.id := by
  cases fault with
  | some source => cases moved
  | none =>
    rw [transferWorkspaceTab] at moved
    split at moved
    · cases moved
    case h_2 replaced upserted =>
      cases moved
      exact (KeyedTable.upsert_some upserted).2 row

theorem transferWorkspaceTab_owner {tab : WorkspaceTab} {sourceWindowLabel targetWindowLabel : String} {fault : Option String}
    (moved : transferWorkspaceTab workspaceTabs tab sourceWindowLabel targetWindowLabel fault = .ok after) :
    ∀ row ∈ workspaceTabs.rows, row.tab.id = tab.id → row.windowLabel = sourceWindowLabel := by
  cases fault with
  | some source => cases moved
  | none =>
    rw [transferWorkspaceTab] at moved
    split at moved
    · cases moved
    case h_2 replaced upserted =>
      intro row member same
      exact of_decide_eq_true ((KeyedTable.upsert_some upserted).1 row member same)

theorem mem_loadWorkspace {windowLabel : String} {tab : WorkspaceTab} :
    tab ∈ loadWorkspace workspaceTabs windowLabel ↔ { tab, windowLabel } ∈ workspaceTabs.rows := by
  rw [loadWorkspace, (List.mergeSort_perm ..).mem_iff, List.mem_map]
  constructor
  · rintro ⟨row, member, rfl⟩
    obtain ⟨member, named⟩ := List.mem_filter.mp member
    rwa [← of_decide_eq_true named]
  · intro member
    exact ⟨_, List.mem_filter.mpr ⟨member, decide_eq_true rfl⟩, rfl⟩

end LocalStore

end Pipa

/-! Which window a stored tab belongs to, over whole runs of the store. -/

namespace Pipa.StoreCommands
open Statements WorkspaceRepository

variable {store after : LocalStore} {faults : Faults}

/-- Saving a window leaves the rows of the other windows alone, whether it succeeds or not. -/
theorem saveWorkspace_others (windowLabel : String) (tabs : List WorkspaceTab) {row : WorkspaceRow} (other : row.windowLabel ≠ windowLabel) :
    row ∈ ((saveWorkspace windowLabel tabs faults).stored store).workspaceTabs.rows ↔ row ∈ store.workspaceTabs.rows := by
  rcases (saveWorkspace_clean windowLabel tabs).stored store with unchanged | ⟨value, ended⟩
  · rw [unchanged]
  obtain ⟨workspaceTabs, saved, changed⟩ := saveWorkspace_refines ended
  rw [changed, LocalStore.saveWorkspace_ok saved]
  constructor
  · rintro (⟨tab, -, rfl⟩ | ⟨member, -⟩)
    · exact absurd rfl other
    · exact member
  · exact fun member => .inr ⟨member, other⟩

/-- The stored tabs in every state that calls of the store reach: each belongs to one window,
a save leaves the other windows alone, a transfer takes a tab from the window it leaves or from
none, and a call that fails leaves the whole store as it was. -/
theorem run_ownsTabs (calls : List Call) :
    let store := Runs.run step default calls
    (∀ row ∈ store.workspaceTabs.rows, ∃! windowLabel, ∃ stored ∈ store.workspaceTabs.rows,
      stored.tab.id = row.tab.id ∧ stored.windowLabel = windowLabel) ∧
    (∀ windowLabel tabs faults row, row.windowLabel ≠ windowLabel →
      (row ∈ ((saveWorkspace windowLabel tabs faults).stored store).workspaceTabs.rows ↔ row ∈ store.workspaceTabs.rows)) ∧
    (∀ tab sourceWindowLabel targetWindowLabel faults after,
      transferWorkspaceTab tab sourceWindowLabel targetWindowLabel faults store = (.ok (), after) →
        ∀ row ∈ store.workspaceTabs.rows, row.tab.id = tab.id → row.windowLabel = sourceWindowLabel) ∧
    (∀ windowLabel tabs faults error after,
      saveWorkspace windowLabel tabs faults store = (.error error, after) → after = store) ∧
    (∀ tab sourceWindowLabel targetWindowLabel faults error after,
      transferWorkspaceTab tab sourceWindowLabel targetWindowLabel faults store = (.error error, after) → after = store) ∧
    (∀ connectionId faults error after,
      ConnectionRepository.deleteConnection connectionId faults store = (.error error, after) → after = store) := by
  dsimp only
  refine ⟨fun row member => ?_, fun windowLabel tabs faults row => saveWorkspace_others windowLabel tabs, ?_,
    fun _ _ _ error after failed => saveWorkspace_clean _ _ _ error after failed,
    fun _ _ _ _ error after failed => transferWorkspaceTab_clean _ _ _ _ error after failed,
    fun _ _ error after failed => ConnectionRepository.deleteConnection_clean _ _ error after failed⟩
  · refine ⟨row.windowLabel, ⟨row, member, rfl, rfl⟩, ?_⟩
    rintro _ ⟨stored, there, same, rfl⟩
    rw [KeyedTable.eq_of_key _ there member same]
  · intro tab sourceWindowLabel targetWindowLabel faults after moved
    obtain ⟨workspaceTabs, transferred, -⟩ := transferWorkspaceTab_refines moved
    exact LocalStore.transferWorkspaceTab_owner transferred

end Pipa.StoreCommands
