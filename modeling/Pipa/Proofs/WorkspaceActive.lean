import Mathlib.Data.List.InsertIdx
import Mathlib.Data.List.Perm.Basic
import Pipa.Library.Selection
import Pipa.Library.Sorting
import Pipa.Proofs.WorkspaceBaseline

/-! The order of the tabs. Every update sorts the tabs by the positions that they had,
so a tab that is dragged to another place comes back to its own. -/

namespace Pipa.WorkspacePersistence

variable {localeCompare : String → String → Ordering} {hook : WorkspacePersistence} {tabs : List WorkspaceTab}

/-- The tabs have the positions 0, 1 and so on. -/
def Numbered (tabs : List WorkspaceTab) : Prop := ∀ index (inside : index < tabs.length), tabs[index].position = index

theorem Numbered.renumber (numbered : Numbered tabs) : renumber tabs = tabs := by
  refine List.ext_getElem (by simp [WorkspacePersistence.renumber]) fun index _ inside => ?_
  have position := numbered index inside
  simp only [WorkspacePersistence.renumber, List.getElem_mapIdx]
  cases tab : tabs[index] with
  | mk id connectionId title sqlText place =>
    rw [tab] at position
    rw [← position]

theorem Numbered.pairwise (numbered : Numbered tabs) : tabs.Pairwise fun left right => left.position < right.position := by
  rw [List.pairwise_iff_getElem]
  intro earlier later here there before
  rw [numbered earlier here, numbered later there]
  exact before

/-- In whatever order numbered tabs come, they are sorted by their positions. -/
theorem Numbered.sanitize (numbered : Numbered tabs) {shuffled : List WorkspaceTab} (perm : shuffled.Perm tabs) :
    sanitizeWorkspaceTabs localeCompare shuffled = tabs := by
  refine Sorting.mergeSort_rank perm numbered.pairwise fun left right before => ?_
  have apart : right.position ≠ left.position := Nat.ne_of_gt before
  have behind : ¬right.position < left.position := Nat.not_lt.mpr (Nat.le_of_lt before)
  exact ⟨by simp [precedes, before], by simp [precedes, behind, apart]⟩

theorem Numbered.updateTabs (numbered : Numbered hook.tabs) {shuffled : List WorkspaceTab} (perm : shuffled.Perm hook.tabs) :
    (hook.updateTabs localeCompare shuffled).tabs = hook.tabs := by
  rw [WorkspacePersistence.updateTabs]
  split
  · rfl
  · dsimp only
    rw [numbered.sanitize perm, numbered.renumber]

/-- Where a target index lies among some tabs. -/
def clampIndex (targetIndex : Int) (tabs : List WorkspaceTab) : Nat := min targetIndex.toNat (tabs.length - 1)

/-- The tabs with one of them moved to a place, numbered in that order. -/
def movedTab (tabs : List WorkspaceTab) (fromIndex toIndex : Nat) : List WorkspaceTab :=
  match tabs[fromIndex]? with
  | none => tabs
  | some tab => renumber ((tabs.eraseIdx fromIndex).insertIdx toIndex tab)

theorem moved_perm {fromIndex : Nat} (inside : fromIndex < tabs.length) (targetIndex : Int) :
    ((tabs.eraseIdx fromIndex).insertIdx (clampIndex targetIndex tabs) tabs[fromIndex]).Perm tabs := by
  have target : clampIndex targetIndex tabs ≤ (tabs.eraseIdx fromIndex).length := by
    rw [List.length_eraseIdx_of_lt inside]
    exact Nat.min_le_right ..
  exact (List.perm_insertIdx tabs[fromIndex] (tabs.eraseIdx fromIndex) target).trans (List.getElem_cons_eraseIdx_perm inside)

/-- A tab that is dragged stays where it is. -/
theorem Numbered.reorderTab (numbered : Numbered hook.tabs) (tabId : String) (targetIndex : Int) :
    (hook.reorderTab localeCompare tabId targetIndex).tabs = hook.tabs := by
  rw [WorkspacePersistence.reorderTab]
  split
  · rfl
  split
  · rfl
  dsimp only
  split
  · rfl
  split
  · rfl
  case h_2 fromIndex _ _ _ tab found =>
    obtain ⟨inside, rfl⟩ := List.getElem?_eq_some_iff.mp found
    exact numbered.updateTabs (moved_perm inside targetIndex)

theorem movedTab_stays (numbered : Numbered tabs) {fromIndex : Nat} (inside : fromIndex < tabs.length) :
    movedTab tabs fromIndex fromIndex = tabs := by
  rw [movedTab, List.getElem?_eq_getElem inside]
  dsimp only
  rw [List.insertIdx_eraseIdx_self (Nat.ne_of_lt inside), List.set_getElem_self, numbered.renumber]

/-- What a move puts at its target. -/
theorem movedTab_target {fromIndex toIndex : Nat} (inside : fromIndex < tabs.length) (target : toIndex < tabs.length) :
    ((movedTab tabs fromIndex toIndex)[toIndex]?).map WorkspaceTab.id = some tabs[fromIndex].id := by
  have short : toIndex ≤ (tabs.eraseIdx fromIndex).length := by
    rw [List.length_eraseIdx_of_lt inside]
    omega
  rw [movedTab, List.getElem?_eq_getElem inside]
  dsimp only
  rw [renumber, List.getElem?_mapIdx, List.getElem?_insertIdx_self, if_pos short]
  rfl

/-- A drag does what it is for exactly when the tab is at its target already. -/
theorem reorderTab_moves (numbered : Numbered hook.tabs) (distinct : (hook.tabs.map WorkspaceTab.id).Nodup) {tab : WorkspaceTab}
    (member : tab ∈ hook.tabs) (targetIndex : Int) :
    (hook.reorderTab localeCompare tab.id targetIndex).tabs = movedTab hook.tabs tab.position (clampIndex targetIndex hook.tabs) ↔
      tab.position = clampIndex targetIndex hook.tabs := by
  rw [numbered.reorderTab]
  obtain ⟨fromIndex, inside, rfl⟩ := List.getElem_of_mem member
  rw [numbered fromIndex inside]
  have target : clampIndex targetIndex hook.tabs < hook.tabs.length := by
    have below : clampIndex targetIndex hook.tabs ≤ hook.tabs.length - 1 := Nat.min_le_right ..
    omega
  constructor
  · intro moved
    have placed := movedTab_target inside target
    rw [← moved, List.getElem?_eq_getElem target] at placed
    have here : fromIndex < (hook.tabs.map WorkspaceTab.id).length := by simpa using inside
    have there : clampIndex targetIndex hook.tabs < (hook.tabs.map WorkspaceTab.id).length := by simpa using target
    have same : (hook.tabs.map WorkspaceTab.id)[fromIndex] = (hook.tabs.map WorkspaceTab.id)[clampIndex targetIndex hook.tabs] := by
      simpa using (Option.some.inj placed).symm
    exact distinct.getElem_inj_iff.mp same
  · intro same
    rw [← same, movedTab_stays numbered inside]

def orderSample : WorkspacePersistence := { start with
  tabs :=
    [{ id := "tab-1", connectionId := "connection-1", title := "查询 1", sqlText := "SELECT 1;", position := 0 },
     { id := "tab-2", connectionId := "connection-1", title := "查询 2", sqlText := "SELECT 2;", position := 1 }] }

theorem orderSample_numbered : Numbered orderSample.tabs := by
  intro index inside
  obtain rfl | rfl : index = 0 ∨ index = 1 := by
    have short : index < 2 := inside
    omega
  · rfl
  · rfl

/-- The first of two tabs is dragged behind the other: nothing happens. -/
theorem reorderTab_stays : Numbered orderSample.tabs ∧ (orderSample.reorderTab compare "tab-1" 1).tabs = orderSample.tabs ∧
    movedTab orderSample.tabs 0 (clampIndex 1 orderSample.tabs) =
      [{ id := "tab-2", connectionId := "connection-1", title := "查询 2", sqlText := "SELECT 2;", position := 0 },
       { id := "tab-1", connectionId := "connection-1", title := "查询 1", sqlText := "SELECT 1;", position := 1 }] :=
  ⟨orderSample_numbered, orderSample_numbered.reorderTab "tab-1" 1, by decide⟩

theorem reorderTab_moves_sample : (orderSample.reorderTab compare "tab-1" 0).tabs =
    movedTab orderSample.tabs 0 (clampIndex 0 orderSample.tabs) :=
  (@reorderTab_moves compare orderSample orderSample_numbered (by decide)
    { id := "tab-1", connectionId := "connection-1", title := "查询 1", sqlText := "SELECT 1;", position := 0 }
    (by decide) 0).mpr (by decide)

end Pipa.WorkspacePersistence

/-! The active tab. It is one of the tabs, and there is none where there are no tabs, unless
a tab is added or the last ones are closed while the workspace is being discarded: the
tabs stay then, and the active one changes. -/

namespace Pipa.WorkspacePersistence
open Runs Selection

variable {localeCompare : String → String → Ordering} {hook : WorkspacePersistence}

def ids (tabs : List WorkspaceTab) : List String := tabs.map WorkspaceTab.id

/-- There is an active tab exactly if there are tabs, and it is one of them. -/
def ActiveTab (hook : WorkspacePersistence) : Prop := Linked (ids hook.screen.tabs) hook.screen.activeTabId

/-- The steps that change the active tab but not the tabs: while the workspace is being
discarded, a tab of another id is added, or all tabs are closed. -/
def Breaks (hook : WorkspacePersistence) : Step → Prop
  | .addTab closure id _ _ _ =>
    hook.recoveryBlocked = false ∧ hook.discarding = true ∧ closure.loading = false ∧ closure.recoveryBlocked = false ∧
      ∀ tab ∈ hook.tabs, tab.id ≠ id
  | .closeTab tabId =>
    hook.recoveryBlocked = false ∧ hook.discarding = true ∧ hook.tabs ≠ [] ∧ ∀ tab ∈ hook.tabs, tab.id = tabId
  | .closeTabsForConnection connectionId =>
    hook.recoveryBlocked = false ∧ hook.discarding = true ∧ hook.tabs ≠ [] ∧ ∀ tab ∈ hook.tabs, tab.connectionId = connectionId
  | _ => False

/-! ### Steps that leave the tabs alone -/

/-- The tabs and the active one stay. -/
structure SameActive (before after : WorkspacePersistence) : Prop where
  mounted : after.mounted = before.mounted
  tabs : after.tabs = before.tabs
  shown : after.screen.tabs = before.screen.tabs
  active : after.screen.activeTabId = before.screen.activeTabId

theorem SameActive.refl (hook : WorkspacePersistence) : SameActive hook hook := ⟨rfl, rfl, rfl, rfl⟩

theorem SameActive.trans {first second third : WorkspacePersistence} (one : SameActive first second) (two : SameActive second third) :
    SameActive first third :=
  ⟨two.mounted.trans one.mounted, two.tabs.trans one.tabs, two.shown.trans one.shown, two.active.trans one.active⟩

theorem setSaveError_active (saveError : Option String) : SameActive hook (hook.setSaveError saveError) := by
  rw [setSaveError]
  split <;> exact ⟨rfl, rfl, rfl, rfl⟩

theorem drainSaveQueue_active : SameActive hook hook.drainSaveQueue := by
  rw [drainSaveQueue]
  split <;> exact ⟨rfl, rfl, rfl, rfl⟩

theorem beginSaveDrain_active : SameActive hook hook.beginSaveDrain := by
  rw [beginSaveDrain]
  split
  · exact drainSaveQueue_active
  · exact .refl _
  · exact .refl _

theorem flushWorkspace_active : SameActive hook (hook.flushWorkspace localeCompare) := by
  rw [flushWorkspace]
  split
  · exact .refl _
  dsimp only
  split
  · exact ⟨rfl, rfl, rfl, rfl⟩
  split
  · exact ⟨rfl, rfl, rfl, rfl⟩
  · refine SameActive.trans ?_ beginSaveDrain_active
    exact ⟨rfl, rfl, rfl, rfl⟩

theorem saveReplied_active (save : QueuedWorkspaceSave) (stored : Bool) : SameActive hook (hook.saveReplied save stored) := by
  unfold saveReplied
  extract_lets replied persisted told freed
  have first : SameActive hook replied := ⟨rfl, rfl, rfl, rfl⟩
  have second : SameActive replied persisted := by
    dsimp only [persisted]
    split <;> exact ⟨rfl, rfl, rfl, rfl⟩
  have third : SameActive persisted told := by
    dsimp only [told]
    split
    · exact setSaveError_active _
    · exact .refl _
  have fourth : SameActive told freed := by
    dsimp only [freed]
    split <;> exact ⟨rfl, rfl, rfl, rfl⟩
  exact (((first.trans second).trans third).trans fourth).trans drainSaveQueue_active

theorem drainSettled_active : SameActive hook hook.drainSettled := by
  rw [drainSettled]
  dsimp only
  split
  · refine SameActive.trans ?_ beginSaveDrain_active
    exact ⟨rfl, rfl, rfl, rfl⟩
  · exact ⟨rfl, rfl, rfl, rfl⟩

theorem restoreWorkspace_active : SameActive hook hook.restoreWorkspace := by
  rw [restoreWorkspace]
  split <;> exact ⟨rfl, rfl, rfl, rfl⟩

theorem loadRejected_active : SameActive hook hook.loadRejected := by
  rw [loadRejected]
  dsimp only
  split <;> exact ⟨rfl, rfl, rfl, rfl⟩

theorem loadSettled_active : SameActive hook hook.loadSettled := by
  rw [loadSettled]
  dsimp only
  split <;> exact ⟨rfl, rfl, rfl, rfl⟩

theorem discardWorkspace_active : SameActive hook hook.discardWorkspace := by
  rw [discardWorkspace]
  split
  · exact .refl _
  · exact .refl _
  dsimp only
  split <;> exact ⟨rfl, rfl, rfl, rfl⟩

theorem discardContinued_active : SameActive hook hook.discardContinued := by
  rw [discardContinued]
  split <;> exact ⟨rfl, rfl, rfl, rfl⟩

theorem discardReplied_active (stored : Bool) : SameActive hook (hook.discardReplied localeCompare stored) := by
  rw [discardReplied]
  dsimp only
  split
  · exact ⟨rfl, rfl, rfl, rfl⟩
  · have replied : SameActive hook { hook.replySave { revision := none, tabs := [] } stored with discarding := false } := ⟨rfl, rfl, rfl, rfl⟩
    have told := replied.trans (setSaveError_active (some saveErrorMessage))
    have flushed : SameActive hook (WorkspacePersistence.flushWorkspace localeCompare _) := told.trans flushWorkspace_active
    exact ⟨flushed.mounted, flushed.tabs, flushed.shown, flushed.active⟩

theorem loadResolved_mounted (restoredTabs : List WorkspaceTab) :
    (hook.loadResolved localeCompare restoredTabs).mounted = hook.mounted := by
  rw [loadResolved]
  dsimp only
  split <;> rfl

def Step.isEdit : Step → Bool
  | .addTab .. | .closeTab _ | .closeTabsForConnection _ | .renameConnectionTabTitles .. | .reorderTab .. | .selectTab _
  | .updateTabSql .. => true
  | _ => false

theorem react_edits {event : Step} (edit : event.isEdit = true) : Edits localeCompare hook (hook.react localeCompare event) := by
  cases event with
  | addTab closure id connectionId title initialText => exact handleAddTab_edits ..
  | closeTab tabId => exact closeTab_edits tabId
  | closeTabsForConnection connectionId => exact closeTabsForConnection_edits connectionId
  | renameConnectionTabTitles connectionId previousName nextName => exact renameConnectionTabTitles_edits ..
  | reorderTab tabId targetIndex => exact reorderTab_edits ..
  | selectTab tabId => exact selectTab_edits tabId
  | updateTabSql closure tabId sqlText => exact updateTabSql_edits ..
  | _ => cases edit

variable (localeCompare hook) in
/-- What a step does that is no edit: it leaves the tabs alone, loads others, or unmounts the hook. -/
theorem react_rest {event : Step} (rest : event.isEdit = false) :
    SameActive hook (hook.react localeCompare event) ∨
      (∃ restoredTabs, hook.react localeCompare event = hook.loadResolved localeCompare restoredTabs) ∨
      SameActive { hook with mounted := false } (hook.react localeCompare event) := by
  cases event with
  | hidden | retrySave => exact .inl flushWorkspace_active
  | timerFires =>
    rw [react]
    split
    · have stopped : SameActive hook { hook with timer := false } := ⟨rfl, rfl, rfl, rfl⟩
      exact .inl (stopped.trans flushWorkspace_active)
    · exact .inl (.refl hook)
  | unmount => exact .inr (.inr flushWorkspace_active)
  | retryLoad => exact .inl restoreWorkspace_active
  | loadResolves restoredTabs =>
    rw [react]
    split
    · exact .inr (.inl ⟨restoredTabs, rfl⟩)
    · exact .inl (.refl hook)
  | loadRejects =>
    rw [react]
    split
    · exact .inl loadRejected_active
    · exact .inl (.refl hook)
  | loadSettles =>
    rw [react]
    split
    · exact .inl loadSettled_active
    · exact .inl (.refl hook)
  | saveReplies stored =>
    rw [react]
    split
    · exact .inl (saveReplied_active _ stored)
    · exact .inl (.refl hook)
    · exact .inl (.refl hook)
  | drainSettles =>
    rw [react]
    split
    · exact .inl drainSettled_active
    · exact .inl (.refl hook)
  | discard => exact .inl discardWorkspace_active
  | discardContinues =>
    rw [react]
    split
    · exact .inl discardContinued_active
    · exact .inl (.refl hook)
  | discardReplies stored =>
    rw [react]
    split
    · exact .inl (discardReplied_active stored)
    · exact .inl (.refl hook)
  | _ => cases rest

/-! ### Steps that change the tabs -/

/-- The screen shows the tabs, and the active one is linked to them. -/
structure Showing (hook : WorkspacePersistence) : Prop where
  shown : hook.screen.tabs = hook.tabs
  active : Linked (ids hook.tabs) hook.screen.activeTabId

theorem Showing.same (showing : Showing hook) {after : WorkspacePersistence} (same : SameActive hook after) : Showing after := by
  constructor
  · rw [same.shown, same.tabs]
    exact showing.shown
  · rw [same.active, same.tabs]
    exact showing.active

theorem Showing.setActiveTabId (shown : hook.screen.tabs = hook.tabs) {activeTabId : Option String}
    (active : Linked (ids hook.tabs) activeTabId) : Showing (hook.setActiveTabId activeTabId) := ⟨shown, active⟩

theorem updateTabs_refused (nextTabs : List WorkspaceTab) (refused : hook.discarding = true) :
    hook.updateTabs localeCompare nextTabs = hook := by
  rw [updateTabs, if_pos (by rw [refused, Bool.or_true])]

theorem updateTabs_shown (nextTabs : List WorkspaceTab) (shown : hook.screen.tabs = hook.tabs) :
    (hook.updateTabs localeCompare nextTabs).screen.tabs = (hook.updateTabs localeCompare nextTabs).tabs := by
  rw [updateTabs]
  split
  · exact shown
  · rfl

theorem updateTabs_activeTabId (nextTabs : List WorkspaceTab) :
    (hook.updateTabs localeCompare nextTabs).screen.activeTabId = hook.screen.activeTabId := by
  rw [updateTabs]
  split <;> rfl

variable (localeCompare) in
theorem updateTabs_ids (nextTabs : List WorkspaceTab) (unblocked : hook.recoveryBlocked = false) (editable : hook.discarding = false) :
    (ids (hook.updateTabs localeCompare nextTabs).tabs).Perm (ids nextTabs) :=
  updateTabs_map localeCompare nextTabs WorkspaceTab.id (fun _ _ => rfl) unblocked editable

/-- An update whose tabs have the active one keeps it. -/
theorem Showing.updateTabs (showing : Showing hook) {nextTabs : List WorkspaceTab} (unblocked : hook.recoveryBlocked = false)
    (active : Linked (ids nextTabs) hook.screen.activeTabId) : Showing (hook.updateTabs localeCompare nextTabs) := by
  refine ⟨updateTabs_shown nextTabs showing.shown, ?_⟩
  rw [updateTabs_activeTabId]
  cases discarding : hook.discarding with
  | true =>
    rw [updateTabs_refused nextTabs discarding]
    exact showing.active
  | false => exact active.perm (updateTabs_ids localeCompare nextTabs unblocked discarding).symm

/-- An update goes with an active tab that is one of the new tabs; where it is refused,
that has to be one of the old ones. -/
theorem Showing.replaced (showing : Showing hook) {nextTabs : List WorkspaceTab} {activeTabId : Option String}
    (unblocked : hook.recoveryBlocked = false) (active : Linked (ids nextTabs) activeTabId)
    (refused : hook.discarding = true → Linked (ids hook.tabs) activeTabId) :
    Showing ((hook.updateTabs localeCompare nextTabs).setActiveTabId activeTabId) := by
  apply Showing.setActiveTabId (updateTabs_shown nextTabs showing.shown)
  cases discarding : hook.discarding with
  | true =>
    rw [updateTabs_refused nextTabs discarding]
    exact refused discarding
  | false => exact active.perm (updateTabs_ids localeCompare nextTabs unblocked discarding).symm

theorem Showing.addTab (showing : Showing hook) {closure : Screen} {id connectionId title initialText : String}
    (harmless : ¬hook.Breaks (.addTab closure id connectionId title initialText)) :
    Showing (hook.handleAddTab localeCompare closure id connectionId title initialText) := by
  rw [handleAddTab]
  split
  · exact showing
  next offered =>
    obtain ⟨loading, blocked⟩ := Bool.or_eq_false_iff.mp (Bool.eq_false_iff.mpr offered)
    rw [WorkspacePersistence.addTab]
    split
    · exact showing
    next open' =>
      have unblocked := Bool.eq_false_iff.mpr open'
      apply showing.replaced unblocked
      · apply linked_some
        rw [ids, List.map_append]
        exact List.mem_append_right _ (List.mem_singleton_self _)
      · intro discarding
        apply linked_some
        by_contra fresh
        refine harmless ⟨unblocked, discarding, loading, blocked, ?_⟩
        intro tab member same
        exact fresh (List.mem_map.mpr ⟨tab, member, same⟩)

/-- Closing a tab keeps the active tab if that is another one. -/
theorem closeTab_other {tabId : String} (other : hook.screen.activeTabId ≠ some tabId) :
    (hook.closeTab localeCompare tabId).screen.activeTabId = hook.screen.activeTabId := by
  rw [closeTab]
  split
  · rfl
  split
  · rfl
  · dsimp only
    rw [updateTabs_activeTabId, if_pos other, updateTabs_activeTabId]

theorem present_of_findIdx? {tabs : List WorkspaceTab} {goes : WorkspaceTab → Bool} {index : Nat}
    (found : tabs.findIdx? goes = some index) : tabs ≠ [] := by
  intro none
  rw [none] at found
  cases found

theorem Showing.closeTab (showing : Showing hook) {tabId : String} (harmless : ¬hook.Breaks (.closeTab tabId)) :
    Showing (hook.closeTab localeCompare tabId) := by
  rw [WorkspacePersistence.closeTab]
  split
  · exact showing
  next open' =>
    have unblocked := Bool.eq_false_iff.mpr open'
    split
    · exact showing
    next closingIndex found =>
      have present := present_of_findIdx? found
      dsimp only
      rw [updateTabs_activeTabId]
      split
      next other =>
        apply showing.updateTabs unblocked
        apply showing.active.filter present
        intro id active
        obtain ⟨tab, member, named⟩ := List.mem_map.mp (showing.active.member id active)
        refine ⟨tab, member, decide_eq_true ?_, named⟩
        intro same
        exact other (by rw [active, ← named, same])
      next active =>
        have reached := findIdx?_le_filter found
        simp only [← decide_not] at reached
        have neighbour := (linked_neighbour reached).map WorkspaceTab.id
        apply showing.replaced unblocked neighbour
        intro discarding
        apply neighbour.of_filter
        intro gone
        refine harmless ⟨unblocked, discarding, present, ?_⟩
        intro tab member
        exact not_not.mp (of_decide_eq_false (Bool.eq_false_iff.mpr (List.filter_eq_nil_iff.mp gone tab member)))

theorem Showing.closeTabsForConnection (showing : Showing hook) {connectionId : String}
    (harmless : ¬hook.Breaks (.closeTabsForConnection connectionId)) :
    Showing (hook.closeTabsForConnection localeCompare connectionId) := by
  rw [WorkspacePersistence.closeTabsForConnection]
  dsimp only
  split
  · exact showing
  next closes =>
    obtain ⟨open', fewer⟩ := Bool.or_eq_false_iff.mp (Bool.eq_false_iff.mpr closes)
    have present : hook.tabs ≠ [] := by
      intro none
      rw [none] at fewer
      exact of_decide_eq_false fewer rfl
    rw [updateTabs_activeTabId]
    split
    next absent =>
      apply showing.updateTabs open'
      apply showing.active.filter present
      intro id active
      obtain ⟨tab, member, named⟩ := List.mem_map.mp (showing.active.member id active)
      have unnamed := List.findIdx?_eq_none_iff.mp absent tab member
      rw [active, named] at unnamed
      exact absurd unnamed (by simp)
    next activeIndex found =>
      obtain ⟨inside, named, -⟩ := List.findIdx?_eq_some_iff_getElem.mp found
      rw [List.getElem?_eq_getElem inside, Option.any_some]
      split
      next closed =>
        have clamped := (linked_clamped (hook.tabs.filter fun tab => tab.connectionId ≠ connectionId) activeIndex).map WorkspaceTab.id
        apply showing.replaced open' clamped
        intro discarding
        apply clamped.of_filter
        intro gone
        refine harmless ⟨open', discarding, present, ?_⟩
        intro tab member
        exact not_not.mp (of_decide_eq_false (Bool.eq_false_iff.mpr (List.filter_eq_nil_iff.mp gone tab member)))
      next kept =>
        apply showing.updateTabs open'
        apply showing.active.filter present
        intro id active
        refine ⟨hook.tabs[activeIndex], List.getElem_mem inside, decide_eq_true ?_, ?_⟩
        · intro same
          exact kept (decide_eq_true same)
        · exact Option.some.inj ((of_decide_eq_true named).trans active)

theorem Showing.renameConnectionTabTitles (showing : Showing hook) (connectionId previousName nextName : String) :
    Showing (hook.renameConnectionTabTitles localeCompare connectionId previousName nextName) := by
  rw [WorkspacePersistence.renameConnectionTabTitles]
  split
  · exact showing
  next renames =>
    obtain ⟨open', -⟩ := Bool.or_eq_false_iff.mp (Bool.eq_false_iff.mpr renames)
    dsimp only
    split
    · apply showing.updateTabs open'
      rw [ids, List.map_map]
      have same : WorkspaceTab.id ∘ (fun tab => if hasGeneratedTitle connectionId previousName tab then
          { tab with title := nextName ++ " · " ++ String.ofList (tab.title.toList.drop (previousName ++ " · ").length) }
          else tab) = WorkspaceTab.id := by
        funext tab
        dsimp only [Function.comp]
        split <;> rfl
      rw [same]
      exact showing.active
    · exact showing

theorem Showing.reorderTab (showing : Showing hook) (tabId : String) (targetIndex : Int) :
    Showing (hook.reorderTab localeCompare tabId targetIndex) := by
  rw [WorkspacePersistence.reorderTab]
  split
  · exact showing
  next open' =>
    split
    · exact showing
    dsimp only
    split
    · exact showing
    split
    · exact showing
    next fromIndex _ _ _ tab found =>
      obtain ⟨inside, rfl⟩ := List.getElem?_eq_some_iff.mp found
      apply showing.updateTabs (Bool.eq_false_iff.mpr open')
      exact showing.active.perm ((moved_perm inside targetIndex).map WorkspaceTab.id).symm

theorem Showing.updateTabSql (showing : Showing hook) (tabId sqlText : String) :
    Showing (hook.updateTabSql localeCompare tabId sqlText) := by
  rw [WorkspacePersistence.updateTabSql]
  split
  · exact showing
  next open' =>
    apply showing.updateTabs (Bool.eq_false_iff.mpr open')
    rw [ids, List.map_map]
    have same : WorkspaceTab.id ∘ (fun tab => if tab.id = tabId then { tab with sqlText } else tab) = WorkspaceTab.id := by
      funext tab
      dsimp only [Function.comp]
      split <;> rfl
    rw [same]
    exact showing.active

theorem Showing.selectTab (showing : Showing hook) (tabId : String) : Showing (hook.selectTab tabId) := by
  rw [WorkspacePersistence.selectTab]
  split
  next found =>
    obtain ⟨tab, member, named⟩ := List.any_eq_true.mp found
    exact .setActiveTabId showing.shown (linked_some (List.mem_map.mpr ⟨tab, member, of_decide_eq_true named⟩))
  · exact showing

theorem loadResolved_showing (mounted : hook.mounted = true) (restoredTabs : List WorkspaceTab) :
    Showing (hook.loadResolved localeCompare restoredTabs) := by
  rw [loadResolved]
  dsimp only
  rw [if_pos mounted]
  exact ⟨rfl, (linked_head _).map WorkspaceTab.id⟩

/-- A step that breaks nothing keeps the active tab linked, as long as the hook is mounted. -/
theorem Showing.react (showing : Showing hook) (mounted : hook.mounted = true) {event : Step} (harmless : ¬hook.Breaks event) :
    Showing (hook.react localeCompare event) := by
  have others (rest : event.isEdit = false) : Showing (hook.react localeCompare event) := by
    obtain same | ⟨restoredTabs, resolved⟩ | left' := react_rest localeCompare hook rest
    · exact showing.same same
    · rw [resolved]
      exact loadResolved_showing mounted restoredTabs
    · have away : Showing { hook with mounted := false } := ⟨showing.shown, showing.active⟩
      exact away.same left'
  cases event with
  | addTab closure id connectionId title initialText => exact showing.addTab harmless
  | closeTab tabId => exact showing.closeTab harmless
  | closeTabsForConnection connectionId => exact showing.closeTabsForConnection harmless
  | renameConnectionTabTitles connectionId previousName nextName => exact showing.renameConnectionTabTitles ..
  | reorderTab tabId targetIndex => exact showing.reorderTab ..
  | selectTab tabId => exact showing.selectTab tabId
  | updateTabSql closure tabId sqlText => exact showing.updateTabSql ..
  | _ => exact others rfl

/-! ### Steps that break the link -/

/-- All tabs are closed, and none is left to be the active one. -/
theorem unlinked_none (present : hook.tabs ≠ []) (shown : hook.screen.tabs = hook.tabs) :
    ¬ActiveTab (hook.setActiveTabId none) := by
  intro linked
  have none_ : ids hook.screen.tabs = [] := linked.none_iff.mp rfl
  rw [shown] at none_
  exact present (List.map_eq_nil_iff.mp none_)

theorem Breaks.unlinked {event : Step} (breaks : hook.Breaks event) (showing : Showing hook) :
    ¬ActiveTab (hook.react localeCompare event) := by
  cases event with
  | addTab closure id connectionId title initialText =>
    obtain ⟨unblocked, discarding, loading, blocked, fresh⟩ := breaks
    rw [react, handleAddTab, loading, blocked, if_neg (by decide), WorkspacePersistence.addTab, unblocked, if_neg (by decide)]
    dsimp only
    rw [updateTabs_refused _ discarding]
    intro linked
    have member : id ∈ ids hook.screen.tabs := linked.member id rfl
    rw [showing.shown] at member
    obtain ⟨tab, member, named⟩ := List.mem_map.mp member
    exact fresh tab member named
  | closeTab tabId =>
    obtain ⟨unblocked, discarding, present, only⟩ := breaks
    have gone : hook.tabs.filter (fun tab => tab.id ≠ tabId) = [] := by
      apply List.filter_eq_nil_iff.mpr
      intro tab member stays
      exact of_decide_eq_true stays (only tab member)
    have active : hook.screen.activeTabId = some tabId := by
      cases active : hook.screen.activeTabId with
      | none => exact absurd (List.map_eq_nil_iff.mp (showing.active.none_iff.mp active)) present
      | some id =>
        obtain ⟨tab, member, rfl⟩ := List.mem_map.mp (showing.active.member id active)
        rw [only tab member]
    rw [react, WorkspacePersistence.closeTab, unblocked, if_neg (by decide)]
    split
    next absent =>
      obtain ⟨tab, member⟩ := List.exists_mem_of_ne_nil _ present
      exact absurd (only tab member) (of_decide_eq_false (List.findIdx?_eq_none_iff.mp absent tab member))
    · dsimp only
      rw [updateTabs_refused _ discarding, if_neg (not_not.mpr active), gone, List.getElem?_nil, List.getElem?_nil, ite_self]
      exact unlinked_none present showing.shown
  | closeTabsForConnection connectionId =>
    obtain ⟨unblocked, discarding, present, only⟩ := breaks
    have gone : hook.tabs.filter (fun tab => tab.connectionId ≠ connectionId) = [] := by
      apply List.filter_eq_nil_iff.mpr
      intro tab member stays
      exact of_decide_eq_true stays (only tab member)
    have fewer : ¬([] : List WorkspaceTab).length = hook.tabs.length :=
      fun same => present (List.length_eq_zero_iff.mp same.symm)
    rw [react, WorkspacePersistence.closeTabsForConnection]
    dsimp only
    rw [gone, unblocked, decide_eq_false fewer, if_neg (by decide), updateTabs_refused _ discarding]
    split
    next absent =>
      cases active : hook.screen.activeTabId with
      | none => exact absurd (List.map_eq_nil_iff.mp (showing.active.none_iff.mp active)) present
      | some id =>
        obtain ⟨tab, member, named⟩ := List.mem_map.mp (showing.active.member id active)
        have unnamed := of_decide_eq_false (List.findIdx?_eq_none_iff.mp absent tab member)
        exact absurd (by rw [active, named]) unnamed
    next activeIndex found =>
      obtain ⟨inside, -, -⟩ := List.findIdx?_eq_some_iff_getElem.mp found
      have closed : hook.tabs[activeIndex].connectionId = connectionId := only _ (List.getElem_mem inside)
      rw [List.getElem?_eq_getElem inside, Option.any_some, if_pos (decide_eq_true closed), List.getElem?_nil]
      exact unlinked_none present showing.shown
  | _ => exact breaks.elim

/-! ### Runs -/

theorem edits_mounted {after : WorkspacePersistence} (edits : Edits localeCompare hook after) : after.mounted = hook.mounted := by
  cases edits with
  | selects _ => rfl
  | updates nextTabs _ =>
    rw [WorkspacePersistence.updateTabs]
    split <;> rfl

/-- A hook that was unmounted stays so. -/
theorem react_mounted (event : Step) (mounted : (hook.react localeCompare event).mounted = true) : hook.mounted = true := by
  cases edit : event.isEdit with
  | true => exact (edits_mounted (react_edits edit)).symm.trans mounted
  | false =>
    obtain same | ⟨restoredTabs, resolved⟩ | left' := react_rest localeCompare hook edit
    · exact same.mounted.symm.trans mounted
    · rw [resolved, loadResolved_mounted] at mounted
      exact mounted
    · exact absurd (left'.mounted.symm.trans mounted) Bool.false_ne_true

theorem Breaks.isEdit {event : Step} (breaks : hook.Breaks event) : event.isEdit = true := by
  cases event with
  | addTab | closeTab | closeTabsForConnection => rfl
  | _ => exact breaks.elim

theorem start_showing : Showing start := ⟨rfl, linked_nil⟩

/-- As long as the hook is mounted, steps that break nothing keep the active tab linked. -/
theorem run_showing {events : List Step}
    (harmless : Permitted (step localeCompare) (fun hook event => hook.mounted = true → ¬hook.Breaks event) start events)
    (mounted : (run (step localeCompare) start events).mounted = true) : Showing (run (step localeCompare) start events) := by
  refine @permitted_preserves _ _ (step localeCompare) (fun hook event => hook.mounted = true → ¬hook.Breaks event) start
    (fun hook => hook.mounted = true → Showing hook) (fun _ => start_showing) ?_ events harmless mounted
  intro hook event harmless showing mounted
  have before : hook.mounted = true := react_mounted event mounted
  have reacted : Showing (hook.react localeCompare event) := (showing before).react before (harmless before)
  exact ⟨reacted.shown, reacted.active⟩

theorem Showing.activeTab (showing : Showing hook) : ActiveTab hook := by
  rw [ActiveTab, showing.shown]
  exact showing.active

variable (localeCompare) in
/-- Closing a tab that is not active keeps the active one, and all of that tab but its position. -/
theorem closeTab_content {tab : WorkspaceTab} {tabId : String} (member : tab ∈ hook.tabs) (other : tab.id ≠ tabId) :
    content tab ∈ (hook.closeTab localeCompare tabId).tabs.map content := by
  have here : content tab ∈ hook.tabs.map content := List.mem_map_of_mem member
  rw [WorkspacePersistence.closeTab]
  split
  · exact here
  next open' =>
    split
    · exact here
    · have updated : content tab ∈ (hook.updateTabs localeCompare (hook.tabs.filter fun tab => tab.id ≠ tabId)).tabs.map content := by
        cases discarding : hook.discarding with
        | true =>
          rw [updateTabs_refused _ discarding]
          exact here
        | false =>
          have perm := updateTabs_map localeCompare (hook.tabs.filter fun tab => tab.id ≠ tabId) content (fun _ _ => rfl)
            (Bool.eq_false_iff.mpr open') discarding
          exact perm.mem_iff.mpr (List.mem_map_of_mem (List.mem_filter.mpr ⟨member, decide_eq_true other⟩))
      dsimp only
      split <;> exact updated

variable (localeCompare) in
/-- In every run there is an active tab exactly if there are tabs, and it is one of them, as
long as the hook is mounted, exactly if no step adds a tab of another id or closes the
last ones while the workspace is being discarded. Closing a tab that is not active
keeps the active one in any case. -/
theorem run_activeTab (events : List Step) :
    ((∀ earlier, earlier <+: events → (run (step localeCompare) start earlier).mounted = true →
        ActiveTab (run (step localeCompare) start earlier)) ↔
      Permitted (step localeCompare) (fun hook event => hook.mounted = true → ¬hook.Breaks event) start events) ∧
    ∀ tabId, (run (step localeCompare) start events).screen.activeTabId ≠ some tabId →
      ((run (step localeCompare) start events).step localeCompare (.closeTab tabId)).screen.activeTabId =
        (run (step localeCompare) start events).screen.activeTabId ∧
      ∀ tab ∈ (run (step localeCompare) start events).tabs,
        (run (step localeCompare) start events).screen.activeTabId = some tab.id →
        content tab ∈ ((run (step localeCompare) start events).step localeCompare (.closeTab tabId)).tabs.map content := by
  refine ⟨⟨?_, ?_⟩, ?_⟩
  · intro active
    have harmless (taken : List Step) (front : taken <+: events) :
        Permitted (step localeCompare) (fun hook event => hook.mounted = true → ¬hook.Breaks event) start taken := by
      induction taken using List.reverseRecOn with
      | nil => exact permitted_nil _ _ _
      | append_singleton before event ih =>
        have earlier := ih ((List.prefix_append ..).trans front)
        apply permitted_concat _ earlier
        intro mounted breaks
        have after : (run (step localeCompare) start (before ++ [event])).mounted = true := by
          rw [run_concat]
          exact (edits_mounted (react_edits breaks.isEdit)).trans mounted
        have linked := active _ front after
        rw [run_concat] at linked
        exact breaks.unlinked (run_showing earlier mounted) linked
    exact harmless events (List.prefix_refl events)
  · intro harmless earlier front mounted
    obtain ⟨later, rfl⟩ := front
    exact (run_showing (permitted_initial _ harmless) mounted).activeTab
  · intro tabId other
    refine ⟨closeTab_other other, ?_⟩
    intro tab member active
    apply closeTab_content localeCompare member
    intro same
    exact other (by rw [active, same])

def restoredTab : WorkspaceTab :=
  { id := "tab-1", connectionId := "connection-1", title := "查询 1", sqlText := "SELECT 1;", position := 0 }

def restoredScreen : Screen :=
  { tabs := [restoredTab], activeTabId := some "tab-1", loading := false, loadError := none, saveError := none,
    recoveryBlocked := false }

/-- The window is closed, which fails, and the tab is closed as well. -/
def closedBehind : List Step :=
  [.loadResolves [restoredTab], .loadSettles, .discard, .discardReplies false, .closeTab "tab-1"]

theorem run_activeTab_closed :
    ActiveTab (run (step compare) start closedBehind) ∧ (run (step compare) start closedBehind).screen.activeTabId = none := by
  have harmless : Permitted (step compare) (fun hook event => hook.mounted = true → ¬hook.Breaks event) start closedBehind := by
    simp only [closedBehind, permitted_cons, permitted_nil, and_true]
    refine ⟨fun _ => id, fun _ => id, fun _ => id, fun _ => id, fun _ breaks => ?_⟩
    exact absurd breaks.2.1 (by decide +kernel)
  refine ⟨(run_activeTab compare closedBehind).1.mpr harmless closedBehind (List.prefix_refl _) ?_, ?_⟩
  · decide +kernel
  · decide +kernel

/-- The window is closed, and a tab is added before that fails. -/
def addedMeanwhile : List Step :=
  [.loadResolves [restoredTab], .loadSettles, .discard,
    .addTab restoredScreen "tab-2" "connection-1" "查询 2" "SELECT 2;", .discardReplies false]

/-- The added tab is active, and does not exist. -/
theorem run_activeTab_lost :
    Permitted (step compare) Permits start addedMeanwhile ∧
      (run (step compare) start addedMeanwhile).screen.tabs = [restoredTab] ∧
      (run (step compare) start addedMeanwhile).screen.activeTabId = some "tab-2" ∧
      ¬ActiveTab (run (step compare) start addedMeanwhile) := by
  have tabs : (run (step compare) start addedMeanwhile).screen.tabs = [restoredTab] := by decide +kernel
  have active : (run (step compare) start addedMeanwhile).screen.activeTabId = some "tab-2" := by decide +kernel
  refine ⟨?_, tabs, active, ?_⟩
  · simp only [addedMeanwhile, permitted_cons, permitted_nil, and_true]
    refine ⟨trivial, trivial, ?_, ?_, trivial⟩
    · change WorkspacePersistence.loaded _ = true
      decide +kernel
    · change restoredScreen ∈ WorkspacePersistence.rendered _
      decide +kernel
  · intro linked
    have member := linked.member "tab-2" active
    rw [tabs] at member
    exact absurd member (by decide)

end Pipa.WorkspacePersistence
