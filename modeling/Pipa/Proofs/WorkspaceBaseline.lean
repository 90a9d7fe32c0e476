import Pipa.Proofs.WorkspaceSaves

/-! Runs of the workspace hook. Until a load succeeds the hook is as it was mounted:
the handlers refuse to edit, and nothing is saved. From then on no load is running,
and the save queue is sound. -/

namespace Pipa.WorkspacePersistence

variable {localeCompare : String → String → Ordering} {hook : WorkspacePersistence}

/-- What an action of the user does: it selects a tab, or replaces the tabs and selects one. -/
inductive Edits (localeCompare : String → String → Ordering) (hook : WorkspacePersistence) : WorkspacePersistence → Prop
  | selects (activeTabId : Option String) : Edits localeCompare hook (hook.setActiveTabId activeTabId)
  | updates (nextTabs : List WorkspaceTab) (activeTabId : Option String) :
      Edits localeCompare hook ((hook.updateTabs localeCompare nextTabs).setActiveTabId activeTabId)

theorem Edits.keeps : Edits localeCompare hook hook := .selects hook.screen.activeTabId

theorem Edits.only (nextTabs : List WorkspaceTab) : Edits localeCompare hook (hook.updateTabs localeCompare nextTabs) :=
  .updates nextTabs (hook.updateTabs localeCompare nextTabs).screen.activeTabId

theorem addTab_edits (id connectionId title initialText : String) :
    Edits localeCompare hook (hook.addTab localeCompare id connectionId title initialText) := by
  rw [addTab]
  split
  · exact .keeps
  · exact .updates ..

theorem handleAddTab_edits (closure : Screen) (id connectionId title initialText : String) :
    Edits localeCompare hook (hook.handleAddTab localeCompare closure id connectionId title initialText) := by
  rw [handleAddTab]
  split
  · exact .keeps
  · exact addTab_edits ..

theorem closeTab_edits (tabId : String) : Edits localeCompare hook (hook.closeTab localeCompare tabId) := by
  rw [closeTab]
  split
  · exact .keeps
  split
  · exact .keeps
  dsimp only
  split
  · exact .only _
  · exact .updates ..

theorem closeTabsForConnection_edits (connectionId : String) :
    Edits localeCompare hook (hook.closeTabsForConnection localeCompare connectionId) := by
  rw [closeTabsForConnection]
  dsimp only
  split
  · exact .keeps
  split
  · exact .only _
  split
  · exact .updates ..
  · exact .only _

theorem renameConnectionTabTitles_edits (connectionId previousName nextName : String) :
    Edits localeCompare hook (hook.renameConnectionTabTitles localeCompare connectionId previousName nextName) := by
  rw [renameConnectionTabTitles]
  split
  · exact .keeps
  dsimp only
  split
  · exact .only _
  · exact .keeps

theorem reorderTab_edits (tabId : String) (targetIndex : Int) :
    Edits localeCompare hook (hook.reorderTab localeCompare tabId targetIndex) := by
  rw [reorderTab]
  split
  · exact .keeps
  split
  · exact .keeps
  dsimp only
  split
  · exact .keeps
  split
  · exact .keeps
  · exact .only _

theorem selectTab_edits (tabId : String) : Edits localeCompare hook (hook.selectTab tabId) := by
  rw [selectTab]
  split
  · exact .selects _
  · exact .keeps

theorem updateTabSql_edits (tabId sqlText : String) : Edits localeCompare hook (hook.updateTabSql localeCompare tabId sqlText) := by
  rw [updateTabSql]
  split
  · exact .keeps
  · exact .only _

theorem Sound.edits (sound : Sound localeCompare hook) {after : WorkspacePersistence} (edits : Edits localeCompare hook after) :
    Sound localeCompare after := by
  cases edits with
  | selects activeTabId => exact { sound with phase := sound.phase }
  | updates nextTabs activeTabId =>
    have updated := sound.updateTabs nextTabs
    exact { updated with phase := updated.phase }

/-- What only a load changes. -/
structure Frame (before after : WorkspacePersistence) : Prop where
  loaded : after.loaded = before.loaded
  load : after.load = before.load
  recoveryBlocked : after.recoveryBlocked = before.recoveryBlocked
  mounted : after.mounted = true → before.mounted = true
  shown : after.screen.recoveryBlocked = before.screen.recoveryBlocked

theorem Frame.refl (hook : WorkspacePersistence) : Frame hook hook := ⟨rfl, rfl, rfl, id, rfl⟩

theorem Frame.trans {first second third : WorkspacePersistence} (one : Frame first second) (two : Frame second third) :
    Frame first third :=
  ⟨two.loaded.trans one.loaded, two.load.trans one.load, two.recoveryBlocked.trans one.recoveryBlocked,
    one.mounted ∘ two.mounted, two.shown.trans one.shown⟩

theorem drainSaveQueue_frame : Frame hook hook.drainSaveQueue := by
  rw [drainSaveQueue]
  split <;> exact ⟨rfl, rfl, rfl, id, rfl⟩

theorem beginSaveDrain_frame : Frame hook hook.beginSaveDrain := by
  rw [beginSaveDrain]
  split
  · exact drainSaveQueue_frame
  · exact .refl _
  · exact .refl _

theorem flushWorkspace_frame : Frame hook (hook.flushWorkspace localeCompare) := by
  rw [flushWorkspace]
  split
  · exact .refl _
  dsimp only
  split
  · exact ⟨rfl, rfl, rfl, id, rfl⟩
  split
  · exact ⟨rfl, rfl, rfl, id, rfl⟩
  · refine Frame.trans ?_ beginSaveDrain_frame
    exact ⟨rfl, rfl, rfl, id, rfl⟩

theorem edits_frame {after : WorkspacePersistence} (edits : Edits localeCompare hook after) : Frame hook after := by
  cases edits with
  | selects _ => exact ⟨rfl, rfl, rfl, id, rfl⟩
  | updates nextTabs _ =>
    rw [updateTabs]
    split <;> exact ⟨rfl, rfl, rfl, id, rfl⟩

theorem saveReplied_frame {save : QueuedWorkspaceSave} (revision : hook.inFlightRevision = some save.revision) (stored : Bool) :
    Frame hook (hook.saveReplied save stored) := by
  rw [saveReplied_eq save stored revision]
  refine Frame.trans ?_ drainSaveQueue_frame
  refine ⟨rfl, rfl, rfl, id, ?_⟩
  dsimp only
  split <;> rfl

theorem drainSettled_frame : Frame hook hook.drainSettled := by
  rw [drainSettled]
  dsimp only
  split
  · refine Frame.trans ?_ beginSaveDrain_frame
    exact ⟨rfl, rfl, rfl, id, rfl⟩
  · exact ⟨rfl, rfl, rfl, id, rfl⟩

theorem discardWorkspace_frame : Frame hook hook.discardWorkspace := by
  rw [discardWorkspace]
  split
  · exact .refl _
  · exact .refl _
  dsimp only
  split <;> exact ⟨rfl, rfl, rfl, id, rfl⟩

theorem discardContinued_frame : Frame hook hook.discardContinued := by
  rw [discardContinued]
  split
  · exact ⟨rfl, rfl, rfl, id, rfl⟩
  · exact .refl _
  · exact .refl _

theorem discardReplied_frame (stored : Bool) : Frame hook (hook.discardReplied localeCompare stored) := by
  rw [discardReplied]
  cases stored with
  | true => exact ⟨rfl, rfl, rfl, id, rfl⟩
  | false =>
    simp only [Bool.false_eq_true, if_false, flushWorkspace_discard]
    refine Frame.trans ?_ flushWorkspace_frame
    rw [setSaveError]
    split <;> exact ⟨rfl, rfl, rfl, id, rfl⟩

/-- Before a load has succeeded: nothing was edited or saved, and every rendering
shows a recovery that runs or has failed. -/
structure Fresh (hook : WorkspacePersistence) : Prop where
  loaded : hook.loaded = false
  tabs : hook.tabs = []
  latestRevision : hook.latestRevision = 0
  persistedRevision : hook.persistedRevision = 0
  queuedSave : hook.queuedSave = none
  inFlightRevision : hook.inFlightRevision = none
  drain : hook.drain = .idle
  discard : hook.discard = .idle
  discarding : hook.discarding = false
  discarded : hook.discarded = false
  timer : hook.timer = false
  inFlight : hook.inFlight = []
  sent : hook.sent = []
  screen : hook.screen.tabs = []
  refused : hook.screen.loading = true ∨ hook.screen.recoveryBlocked = true
  rejected : hook.load ≠ .loading → hook.mounted = true → hook.screen.recoveryBlocked = true
  rendered : ∀ screen ∈ hook.rendered, screen.tabs = [] ∧ (screen.loading = true ∨ screen.recoveryBlocked = true)

/-- A load has succeeded, and no other is running or offered. -/
structure Settled (hook : WorkspacePersistence) : Prop where
  loaded : hook.loaded = true
  load : hook.load ≠ .loading
  recoveryBlocked : hook.recoveryBlocked = false
  shown : hook.mounted = true → hook.screen.recoveryBlocked = false

theorem Settled.frame (settled : Settled hook) {after : WorkspacePersistence} (frame : Frame hook after) : Settled after where
  loaded := frame.loaded.trans settled.loaded
  load := frame.load ▸ settled.load
  recoveryBlocked := frame.recoveryBlocked.trans settled.recoveryBlocked
  shown mounted := frame.shown.trans (settled.shown (frame.mounted mounted))

theorem Fresh.start : Fresh start := by
  constructor <;> simp [WorkspacePersistence.start, restoreWorkspace]

theorem Fresh.flushWorkspace (fresh : Fresh hook) : Fresh (hook.flushWorkspace localeCompare) := by
  have saved : hook.latestRevision ≤ hook.persistedRevision := by rw [fresh.latestRevision, fresh.persistedRevision]
  rw [WorkspacePersistence.flushWorkspace]
  split
  · exact fresh
  dsimp only
  split
  · exact { fresh with timer := rfl }
  · rw [if_pos (Or.inl saved)]
    exact { fresh with timer := rfl }

theorem Fresh.restoreWorkspace (fresh : Fresh hook) : Fresh hook.restoreWorkspace := by
  rw [WorkspacePersistence.restoreWorkspace]
  split
  · refine { fresh with refused := ?_, rejected := fun contrary => absurd rfl contrary }
    exact fresh.refused.imp_left fun loading => by simp [loading]
  · exact fresh
  · exact fresh

theorem Fresh.loadRejected (fresh : Fresh hook) : Fresh hook.loadRejected := by
  rw [WorkspacePersistence.loadRejected]
  dsimp only
  split
  · exact { fresh with timer := rfl, queuedSave := rfl, refused := Or.inr rfl, rejected := fun _ _ => rfl }
  case isFalse unmounted =>
    exact { fresh with timer := rfl, queuedSave := rfl, rejected := fun _ mounted => absurd mounted unmounted }

theorem Fresh.loadSettled (fresh : Fresh hook) (settling : hook.load = .settling) : Fresh hook.loadSettled := by
  have rejected (mounted : hook.mounted = true) : hook.screen.recoveryBlocked = true :=
    fresh.rejected (by rw [settling]; decide) mounted
  rw [WorkspacePersistence.loadSettled]
  dsimp only
  split
  case isTrue mounted => exact { fresh with refused := Or.inr (rejected mounted), rejected := fun _ => rejected }
  case isFalse unmounted => exact { fresh with rejected := fun _ mounted => absurd mounted unmounted }

/-- A load that succeeds lays the baseline of the save queue. -/
theorem Fresh.loadResolved (fresh : Fresh hook) (restoredTabs : List WorkspaceTab) :
    Settled (hook.loadResolved localeCompare restoredTabs) ∧
      Sound localeCompare (hook.loadResolved localeCompare restoredTabs) := by
  have discard : hook.discard ≠ .saving := by
    rw [fresh.discard]
    decide
  have idle {contrary : Prop} (discarding : hook.discarding = true) : contrary :=
    absurd (fresh.discarding.symm.trans discarding) (by decide)
  have sent : revisions hook.sent = [] := by
    rw [fresh.sent]
    rfl
  have sound (screen : Screen) : Sound localeCompare { hook with
      tabs := sanitizeWorkspaceTabs localeCompare restoredTabs
      latestRevision := 0
      persistedRevision := 0
      queuedSave := none
      recoveryBlocked := false
      load := .settling
      loaded := true
      stored := restoredTabs
      screen } :=
    { phase := .idle fresh.drain discard fresh.inFlight fresh.inFlightRevision rfl
      persisted := Nat.le_refl _
      sorted := sent.symm ▸ .nil
      latest := by simp [sent]
      queued := by simp
      edited := by simp
      requested := fun contrary => absurd fresh.discard contrary
      quiet := idle
      emptied := idle
      somewhere := fun _ _ => Or.inr (Or.inr (Or.inr rfl))
      stored := fun _ _ => ⟨rfl, fun contrary => absurd contrary (Nat.lt_irrefl 0)⟩ }
  rw [WorkspacePersistence.loadResolved]
  dsimp only
  split
  case isTrue mounted => exact ⟨⟨rfl, (fun loading => by cases loading), rfl, fun _ => rfl⟩, sound _⟩
  case isFalse unmounted => exact ⟨⟨rfl, (fun loading => by cases loading), rfl, fun mounted => absurd mounted unmounted⟩, sound _⟩

/-- The invariant of the runs: before and behind the first load that succeeds. -/
def Invariant (localeCompare : String → String → Ordering) (hook : WorkspacePersistence) : Prop :=
  Fresh hook ∨ Settled hook ∧ Sound localeCompare hook

theorem Fresh.react (fresh : Fresh hook) {event : Step} (permits : hook.Permits event) :
    Invariant localeCompare (hook.react localeCompare event) := by
  cases event with
  | addTab closure id connectionId title initialText =>
    have refused : (closure.loading || closure.recoveryBlocked) = true := Bool.or_eq_true_iff.mpr (fresh.rendered closure permits).2
    left
    rwa [WorkspacePersistence.react, handleAddTab, if_pos refused]
  | updateTabSql closure tabId sqlText =>
    obtain ⟨shown, tab, member, -⟩ := permits
    rw [(fresh.rendered closure shown).1] at member
    cases member
  | closeTab _ | closeTabsForConnection _ | renameConnectionTabTitles _ _ _ | reorderTab _ _ | selectTab _ =>
    left
    simpa [WorkspacePersistence.react, closeTab, closeTabsForConnection, renameConnectionTabTitles, reorderTab, selectTab, fresh.tabs]
      using fresh
  | timerFires =>
    left
    rw [WorkspacePersistence.react, fresh.timer]
    exact fresh
  | hidden | retrySave => exact Or.inl fresh.flushWorkspace
  | unmount =>
    have left_ : Fresh { hook with mounted := false } := { fresh with rejected := fun _ mounted => by cases mounted }
    exact Or.inl left_.flushWorkspace
  | retryLoad => exact Or.inl fresh.restoreWorkspace
  | loadResolves restoredTabs =>
    rw [WorkspacePersistence.react]
    split
    · exact Or.inr (fresh.loadResolved restoredTabs)
    · exact Or.inl fresh
  | loadRejects =>
    left
    rw [WorkspacePersistence.react]
    split
    · exact fresh.loadRejected
    · exact fresh
  | loadSettles =>
    left
    rw [WorkspacePersistence.react]
    split
    case isTrue settling => exact fresh.loadSettled settling
    case isFalse => exact fresh
  | saveReplies stored =>
    left
    rw [WorkspacePersistence.react, fresh.drain]
    exact fresh
  | drainSettles =>
    left
    rw [WorkspacePersistence.react, fresh.drain]
    exact fresh
  | discard => exact absurd (fresh.loaded.symm.trans permits) (by decide)
  | discardContinues =>
    left
    rw [WorkspacePersistence.react, fresh.discard]
    exact fresh
  | discardReplies stored =>
    left
    rw [WorkspacePersistence.react, fresh.discard]
    exact fresh

theorem flushWorkspace_timer (active : hook.discarding = false) :
    { hook with timer := false }.flushWorkspace localeCompare = hook.flushWorkspace localeCompare := by
  rw [flushWorkspace, flushWorkspace, if_neg (Bool.eq_false_iff.mp active), if_neg (Bool.eq_false_iff.mp active)]

theorem Sound.loadSettled (sound : Sound localeCompare hook) : Sound localeCompare hook.loadSettled := by
  rw [WorkspacePersistence.loadSettled]
  dsimp only
  split <;> exact { sound with phase := sound.phase }

theorem Settled.loadSettled (settled : Settled hook) : Settled hook.loadSettled := by
  rw [WorkspacePersistence.loadSettled]
  dsimp only
  split <;> exact { settled with load := fun loading => by cases loading }

/-- Behind the first load every step keeps the queue sound and starts no other load. -/
theorem Settled.react (settled : Settled hook) (sound : Sound localeCompare hook) {event : Step} (permits : hook.Permits event) :
    Settled (hook.react localeCompare event) ∧ Sound localeCompare (hook.react localeCompare event) := by
  have edited {after : WorkspacePersistence} (edits : Edits localeCompare hook after) : Settled after ∧ Sound localeCompare after :=
    ⟨settled.frame (edits_frame edits), sound.edits edits⟩
  have flushed : Settled (hook.flushWorkspace localeCompare) ∧ Sound localeCompare (hook.flushWorkspace localeCompare) :=
    ⟨settled.frame flushWorkspace_frame, sound.flushWorkspace settled.recoveryBlocked⟩
  have same := And.intro settled sound
  cases event with
  | addTab closure id connectionId title initialText => exact edited (handleAddTab_edits ..)
  | closeTab tabId => exact edited (closeTab_edits ..)
  | closeTabsForConnection connectionId => exact edited (closeTabsForConnection_edits ..)
  | renameConnectionTabTitles connectionId previousName nextName => exact edited (renameConnectionTabTitles_edits ..)
  | reorderTab tabId targetIndex => exact edited (reorderTab_edits ..)
  | selectTab tabId => exact edited (selectTab_edits ..)
  | updateTabSql closure tabId sqlText => exact edited (updateTabSql_edits ..)
  | hidden | retrySave => exact flushed
  | timerFires =>
    rw [WorkspacePersistence.react]
    split
    case isTrue timer =>
      have active : hook.discarding = false := by
        refine Bool.eq_false_iff.mpr fun discarding => ?_
        have stopped := (sound.quiet discarding).2.1
        rw [timer] at stopped
        cases stopped
      exact (flushWorkspace_timer active).symm ▸ flushed
    case isFalse => exact same
  | unmount =>
    have left_ : Sound localeCompare { hook with mounted := false } := { sound with somewhere := fun _ mounted => by cases mounted }
    have away : Settled { hook with mounted := false } := { settled with shown := fun mounted => by cases mounted }
    exact ⟨away.frame flushWorkspace_frame, left_.flushWorkspace settled.recoveryBlocked⟩
  | retryLoad =>
    obtain ⟨mounted, blocked, -⟩ := permits
    rw [settled.shown mounted] at blocked
    cases blocked
  | loadResolves restoredTabs | loadRejects =>
    rw [WorkspacePersistence.react, if_neg settled.load]
    exact same
  | loadSettles =>
    rw [WorkspacePersistence.react]
    split
    · exact ⟨settled.loadSettled, sound.loadSettled⟩
    · exact same
  | saveReplies stored =>
    rw [WorkspacePersistence.react]
    split
    case h_1 save busy =>
      exact ⟨settled.frame (saveReplied_frame (sound.saving_revision busy) stored), sound.saveReplied busy stored⟩
    · exact same
    · exact same
  | drainSettles =>
    rw [WorkspacePersistence.react]
    split
    case isTrue leaving => exact ⟨settled.frame drainSettled_frame, sound.drainSettled leaving⟩
    case isFalse => exact same
  | discard => exact ⟨settled.frame discardWorkspace_frame, sound.discardWorkspace⟩
  | discardContinues =>
    rw [WorkspacePersistence.react]
    split
    case isTrue waiting => exact ⟨settled.frame discardContinued_frame, sound.discardContinued waiting⟩
    case isFalse => exact same
  | discardReplies stored =>
    rw [WorkspacePersistence.react]
    split
    case isTrue busy =>
      exact ⟨settled.frame (discardReplied_frame stored), sound.discardReplied settled.recoveryBlocked busy stored⟩
    case isFalse => exact same

theorem Settled.step (settled : Settled hook) (sound : Sound localeCompare hook) {event : Step} (permits : hook.Permits event) :
    Settled (hook.step localeCompare event) ∧ Sound localeCompare (hook.step localeCompare event) := by
  obtain ⟨settled, sound⟩ := settled.react sound permits
  exact ⟨{ settled with load := settled.load }, { sound with phase := sound.phase }⟩

theorem Invariant.step (invariant : Invariant localeCompare hook) {event : Step} (permits : hook.Permits event) :
    Invariant localeCompare (hook.step localeCompare event) := by
  have reacted : Invariant localeCompare (hook.react localeCompare event) := by
    rcases invariant with fresh | ⟨settled, sound⟩
    · exact fresh.react permits
    · exact Or.inr (settled.react sound permits)
  rw [WorkspacePersistence.step]
  rcases reacted with fresh | ⟨settled, sound⟩
  · exact Or.inl { fresh with
      rendered := List.forall_mem_append.mpr ⟨fresh.rendered, List.forall_mem_singleton.mpr ⟨fresh.screen, fresh.refused⟩⟩ }
  · exact Or.inr ⟨{ settled with load := settled.load }, { sound with phase := sound.phase }⟩

theorem run_invariant {events : List Step} (permitted : Runs.Permitted (step localeCompare) Permits start events) :
    Invariant localeCompare (Runs.run (step localeCompare) start events) :=
  @Runs.permitted_preserves _ _ (step localeCompare) Permits start (Invariant localeCompare) (Or.inl Fresh.start)
    (fun _ _ permits invariant => Invariant.step invariant permits) events permitted

section Tabs
variable (tabs : List WorkspaceTab)

theorem renumber_map {α : Type} (field : WorkspaceTab → α) (apart : ∀ tab position, field { tab with position } = field tab) :
    (renumber tabs).map field = tabs.map field := by
  refine List.ext_getElem (by simp [renumber]) fun index _ _ => ?_
  simp [renumber, apart]

theorem sanitize_perm : (sanitizeWorkspaceTabs localeCompare tabs).Perm tabs := List.mergeSort_perm ..

variable (localeCompare) in
/-- What an edit that is taken makes of the tabs, apart from their positions. -/
theorem updateTabs_map {α : Type} (field : WorkspaceTab → α) (apart : ∀ tab position, field { tab with position } = field tab)
    (blocked : hook.recoveryBlocked = false) (active : hook.discarding = false) :
    ((hook.updateTabs localeCompare tabs).tabs.map field).Perm (tabs.map field) := by
  have taken : (hook.updateTabs localeCompare tabs).tabs = renumber (sanitizeWorkspaceTabs localeCompare tabs) := by
    simp [updateTabs, blocked, active]
  rw [taken, renumber_map _ field apart]
  exact (sanitize_perm tabs).map field

end Tabs

/-- What the user may rely on while the workspace is recovered: nothing is saved before
a load has succeeded, a load never changes tabs that were edited, and an edit is in
the tabs unless its rendering showed the recovery or the window is being discarded. -/
structure Baseline (localeCompare : String → String → Ordering) (hook : WorkspacePersistence) : Prop where
  unsaved : hook.loaded = false → hook.sent = []
  kept : 0 < hook.latestRevision → ∀ restoredTabs,
    hook.react localeCompare (.loadResolves restoredTabs) = hook ∧ hook.react localeCompare .loadRejects = hook
  opened : hook.loaded = true → hook.recoveryBlocked = false ∧ hook.load ≠ .loading
  empty : hook.loaded = false → hook.tabs = []
  added : ∀ closure id connectionId title initialText, hook.Permits (.addTab closure id connectionId title initialText) →
    hook.discarding = false → closure.loading = true ∨ closure.recoveryBlocked = true ∨
      ∃ tab ∈ (hook.react localeCompare (.addTab closure id connectionId title initialText)).tabs,
        tab.id = id ∧ tab.connectionId = connectionId ∧ tab.title = title ∧ tab.sqlText = initialText
  written : ∀ closure tabId sqlText, hook.Permits (.updateTabSql closure tabId sqlText) → hook.discarding = false →
    ((hook.react localeCompare (.updateTabSql closure tabId sqlText)).tabs.map WorkspaceTab.id).Perm
        (hook.tabs.map WorkspaceTab.id) ∧
      ∀ tab ∈ (hook.react localeCompare (.updateTabSql closure tabId sqlText)).tabs, tab.id = tabId → tab.sqlText = sqlText

/-- The fields of a tab that do not depend on where it stands. -/
def content (tab : WorkspaceTab) : String × String × String × String := (tab.id, tab.connectionId, tab.title, tab.sqlText)

theorem Invariant.baseline (invariant : Invariant localeCompare hook) : Baseline localeCompare hook := by
  rcases invariant with fresh | ⟨settled, -⟩
  · have unloaded {P : Prop} (loaded : hook.loaded = true) : P := absurd (fresh.loaded.symm.trans loaded) (by decide)
    refine ⟨fun _ => fresh.sent, ?_, unloaded, fun _ => fresh.tabs, ?_, ?_⟩
    · intro edited
      rw [fresh.latestRevision] at edited
      exact absurd edited (Nat.lt_irrefl 0)
    · intro closure id connectionId title initialText shown _
      rcases (fresh.rendered closure shown).2 with loading | blocked
      · exact Or.inl loading
      · exact Or.inr (Or.inl blocked)
    · rintro closure tabId sqlText ⟨shown, tab, member, -⟩
      rw [(fresh.rendered closure shown).1] at member
      cases member
  · have opened := settled.recoveryBlocked
    refine ⟨fun unloaded => absurd (settled.loaded.symm.trans unloaded) (by decide), ?_, fun _ => ⟨opened, settled.load⟩,
      fun unloaded => absurd (settled.loaded.symm.trans unloaded) (by decide), ?_, ?_⟩
    · exact fun _ _ => ⟨if_neg settled.load, if_neg settled.load⟩
    · intro closure id connectionId title initialText _ active
      by_cases refused : (closure.loading || closure.recoveryBlocked) = true
      · rcases Bool.or_eq_true_iff.mp refused with loading | blocked
        · exact Or.inl loading
        · exact Or.inr (Or.inl blocked)
      · have added : (id, connectionId, title, initialText) ∈ (hook.tabs ++
            [(⟨id, connectionId, title, initialText, hook.tabs.length⟩ : WorkspaceTab)]).map content := by simp [content]
        have present := (updateTabs_map localeCompare _ content (fun _ _ => rfl) opened active).mem_iff.mpr added
        obtain ⟨tab, member, same⟩ := List.mem_map.mp present
        obtain ⟨rfl, rfl, rfl, rfl⟩ : tab.id = id ∧ tab.connectionId = connectionId ∧ tab.title = title ∧ tab.sqlText = initialText := by
          simpa [content] using same
        refine Or.inr (Or.inr ⟨tab, ?_, rfl, rfl, rfl, rfl⟩)
        rw [react, handleAddTab, if_neg refused, addTab, if_neg (Bool.eq_false_iff.mp opened)]
        exact member
    · intro closure tabId sqlText _ active
      have written : (hook.react localeCompare (.updateTabSql closure tabId sqlText)).tabs =
          (hook.updateTabs localeCompare (hook.tabs.map fun tab => if tab.id = tabId then { tab with sqlText } else tab)).tabs := by
        rw [react, updateTabSql, if_neg (Bool.eq_false_iff.mp opened)]
      rw [written]
      constructor
      · have ids := updateTabs_map localeCompare (hook.tabs.map fun tab => if tab.id = tabId then { tab with sqlText } else tab)
          WorkspaceTab.id (fun _ _ => rfl) opened active
        have same : (WorkspaceTab.id ∘ fun tab => if tab.id = tabId then { tab with sqlText } else tab) = WorkspaceTab.id := by
          funext tab
          dsimp only [Function.comp]
          split <;> rfl
        rwa [List.map_map, same] at ids
      · intro tab member named
        have pairs := updateTabs_map localeCompare (hook.tabs.map fun tab => if tab.id = tabId then { tab with sqlText } else tab)
          (fun tab => (tab.id, tab.sqlText)) (fun _ _ => rfl) opened active
        obtain ⟨edited, listed, same⟩ := List.mem_map.mp (pairs.mem_iff.mp (List.mem_map_of_mem member))
        obtain ⟨sameId, sameText⟩ := Prod.mk.inj same
        obtain ⟨original, -, rfl⟩ := List.mem_map.mp listed
        rw [← sameText]
        split
        · rfl
        case isFalse other =>
          rw [if_neg other, named] at sameId
          exact absurd sameId other

/-- No save before the baseline is loaded, and no edit that a later load drops. -/
theorem run_baseline {events : List Step} (permitted : Runs.Permitted (step localeCompare) Permits start events) :
    Baseline localeCompare (Runs.run (step localeCompare) start events) :=
  (run_invariant permitted).baseline

/-- What the save queue guarantees. `settled`: with nothing waiting, on its way or
reported, the backend has the tabs; it has them as they are once one of them was edited. -/
structure Serialized (localeCompare : String → String → Ordering) (hook : WorkspacePersistence) : Prop where
  single : hook.inFlight.length ≤ 1
  ordered : (revisions hook.sent).Pairwise (· ≤ ·)
  settled : hook.loaded = true → hook.mounted = true → hook.discarded = false → hook.timer = false → hook.queuedSave = none →
    hook.inFlight = [] → hook.screen.saveError = none →
    sanitizeWorkspaceTabs localeCompare hook.stored = hook.tabs ∧ (0 < hook.latestRevision → hook.stored = hook.tabs)
  discarded : hook.discarding = true → hook.discard = .idle → hook.stored = [] ∧ hook.inFlight = []
  replied : ∀ stored, hook.discard = .saving →
    (stored = true → (hook.react localeCompare (.discardReplies stored)).stored = []) ∧
    (stored = false → hook.mounted = true →
      (hook.react localeCompare (.discardReplies stored)).screen.saveError = some saveErrorMessage)
  ends : ∀ first second, hook.discard ≠ .idle →
    (Runs.run (step localeCompare) hook [.saveReplies first, .drainSettles, .discardContinues, .discardReplies second]).discard = .idle

theorem flushWorkspace_screen : (hook.flushWorkspace localeCompare).screen = hook.screen := by
  simp only [flushWorkspace, beginSaveDrain, drainSaveQueue, callSave]
  split
  · rfl
  split
  · rfl
  split
  · rfl
  cases hook.drain <;> rfl

theorem discardReplied_ends (stored : Bool) : (hook.discardReplied localeCompare stored).discard = .idle := by
  cases stored <;> rfl

/-- The reply to a save lets an empty queue's loop leave. -/
theorem Sound.saveReplies_leaves (sound : Sound localeCompare hook) (queued : hook.queuedSave = none) (stored : Bool) :
    (hook.react localeCompare (.saveReplies stored)).discard = hook.discard ∧
      (hook.react localeCompare (.saveReplies stored)).queuedSave = none ∧
      ((hook.react localeCompare (.saveReplies stored)).drain = .leaving ∨
        (hook.react localeCompare (.saveReplies stored)).drain = .idle) := by
  rw [WorkspacePersistence.react]
  cases drain : hook.drain with
  | idle => exact ⟨rfl, queued, Or.inr drain⟩
  | leaving => exact ⟨rfl, queued, Or.inl drain⟩
  | saving save =>
    dsimp only
    rw [saveReplied_eq save stored (sound.saving_revision drain), drainSaveQueue, queued]
    exact ⟨rfl, rfl, Or.inl rfl⟩

/-- The `finally` of a drain loop with an empty queue leaves none behind. -/
theorem drainSettles_idle (queued : hook.queuedSave = none) (left : hook.drain = .leaving ∨ hook.drain = .idle) :
    (hook.react localeCompare .drainSettles).discard = hook.discard ∧
      (hook.react localeCompare .drainSettles).drain = .idle := by
  rw [react]
  rcases left with leaving | idle
  · rw [if_pos leaving, drainSettled, queued]
    exact ⟨rfl, rfl⟩
  · rw [if_neg (by rw [idle]; decide)]
    exact ⟨rfl, idle⟩

theorem discardContinues_saving (idle : hook.drain = .idle) (pending : hook.discard ≠ .idle) :
    (hook.react localeCompare .discardContinues).discard = .saving := by
  rw [react]
  cases discard : hook.discard with
  | idle => exact absurd discard pending
  | draining =>
    rw [if_pos rfl, discardContinued, idle]
    rfl
  | saving =>
    rw [if_neg (by decide)]
    exact discard

/-- With the replies to what is in flight a requested discard comes to its end. -/
theorem Sound.discard_ends (sound : Sound localeCompare hook) (pending : hook.discard ≠ .idle) (first second : Bool) :
    (Runs.run (WorkspacePersistence.step localeCompare) hook
      [.saveReplies first, .drainSettles, .discardContinues, .discardReplies second]).discard = .idle := by
  obtain ⟨-, -, queued⟩ := sound.quiet (sound.requested pending)
  obtain ⟨sameDiscard, stillQueued, left⟩ := sound.saveReplies_leaves queued first
  obtain ⟨sameDiscard', idle⟩ := @drainSettles_idle localeCompare (hook.step localeCompare (.saveReplies first)) stillQueued left
  have busy := @discardContinues_saving localeCompare
    ((hook.step localeCompare (.saveReplies first)).step localeCompare .drainSettles) idle
    (fun none => pending (sameDiscard.symm.trans (sameDiscard'.symm.trans none)))
  simp only [Runs.run_cons, Runs.run_nil]
  rw [WorkspacePersistence.step, WorkspacePersistence.react]
  dsimp only
  rw [if_pos]
  · exact discardReplied_ends second
  · exact busy

theorem Invariant.serialized (invariant : Invariant localeCompare hook) : Serialized localeCompare hook := by
  rcases invariant with fresh | ⟨settled, sound⟩
  · have busy {P : Prop} (contrary : hook.discard ≠ .idle) : P := absurd fresh.discard contrary
    refine ⟨by rw [fresh.inFlight]; exact Nat.zero_le 1, by rw [fresh.sent]; exact .nil, ?_, ?_, ?_, fun _ _ => busy⟩
    · exact fun loaded => absurd (fresh.loaded.symm.trans loaded) (by decide)
    · exact fun discarding => absurd (fresh.discarding.symm.trans discarding) (by decide)
    · exact fun _ saving => busy (by rw [saving]; decide)
  · refine ⟨?_, sound.sorted, ?_, ?_, ?_, fun first second pending => sound.discard_ends pending first second⟩
    · cases sound.phase with
      | idle _ _ nothing | leaving _ _ nothing => rw [nothing]; exact Nat.zero_le 1
      | discarding _ _ one | saving _ _ _ one => rw [one]; exact Nat.le_refl 1
    · intro _ mounted fresh timer queued inFlight error
      refine sound.stored fresh ?_
      rcases sound.somewhere fresh mounted with waiting | shown | ⟨save, waiting | underway, -⟩ | stored
      · rw [timer] at waiting
        cases waiting
      · exact absurd error shown
      · rw [queued] at waiting
        cases waiting
      · cases sound.phase with
        | idle still | discarding still | leaving still =>
          rw [underway] at still
          cases still
        | saving _ _ _ one =>
          rw [inFlight] at one
          cases one
      · exact stored
    · intro discarding idle
      obtain ⟨still, empty⟩ := sound.emptied discarding idle
      refine ⟨empty, ?_⟩
      cases sound.phase with
      | idle _ _ nothing | leaving _ _ nothing => exact nothing
      | discarding _ busy =>
        rw [idle] at busy
        cases busy
      | saving _ busy =>
        rw [still] at busy
        cases busy
    · intro stored saving
      rw [WorkspacePersistence.react, if_pos saving, WorkspacePersistence.discardReplied]
      constructor
      · rintro rfl
        rfl
      · rintro rfl mounted
        simp only [Bool.false_eq_true, if_false, flushWorkspace_screen, setSaveError_eq, replySave]
        rw [if_pos mounted]

/-- In every run the save queue guarantees what it is for. -/
theorem run_serialized {events : List Step} (permitted : Runs.Permitted (step localeCompare) Permits start events) :
    Serialized localeCompare (Runs.run (step localeCompare) start events) :=
  (run_invariant permitted).serialized

/-- The window is hidden and shown, the load brings nothing, and a tab is added and saved. -/
def sampleSteps : List Step :=
  [.hidden, .loadResolves [], .loadSettles,
    .addTab { tabs := [], activeTabId := none, loading := false, loadError := none, saveError := none, recoveryBlocked := false }
      "tab-1" "connection-1" "查询 1" "SELECT 1;",
    .timerFires, .saveReplies true, .drainSettles]

theorem sampleSteps_permitted : Runs.Permitted (step compare) Permits start sampleSteps := by
  simp only [sampleSteps, Runs.permitted_cons, Permits, true_and, Runs.permitted_nil, and_true]
  simp [step, react, start, restoreWorkspace, flushWorkspace, loadResolved, loadSettled, sanitizeWorkspaceTabs]

theorem run_baseline_sample : Baseline compare (Runs.run (step compare) start sampleSteps) := run_baseline sampleSteps_permitted

theorem run_serialized_sample : Serialized compare (Runs.run (step compare) start sampleSteps) :=
  run_serialized sampleSteps_permitted

end Pipa.WorkspacePersistence
