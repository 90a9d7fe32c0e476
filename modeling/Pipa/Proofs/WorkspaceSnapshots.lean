import Pipa.Proofs.WorkspaceBaseline

/-! What the hook shows and what its snapshots carry: a property of the tabs that a
flush finds is one of every snapshot that is sent once the drain loop has settled. -/

namespace Pipa.WorkspacePersistence

variable {localeCompare : String → String → Ordering} {hook : WorkspacePersistence}

/-- What only edits, loads and discards change. -/
structure SameTabs (before after : WorkspacePersistence) : Prop where
  tabs : after.tabs = before.tabs
  shown : after.screen.tabs = before.screen.tabs
  discarding : after.discarding = before.discarding

theorem SameTabs.refl (hook : WorkspacePersistence) : SameTabs hook hook := ⟨rfl, rfl, rfl⟩

theorem SameTabs.trans {first second third : WorkspacePersistence} (one : SameTabs first second) (two : SameTabs second third) :
    SameTabs first third :=
  ⟨two.tabs.trans one.tabs, two.shown.trans one.shown, two.discarding.trans one.discarding⟩

theorem drainSaveQueue_tabs : SameTabs hook hook.drainSaveQueue := by
  rw [drainSaveQueue]
  split <;> exact ⟨rfl, rfl, rfl⟩

theorem beginSaveDrain_tabs : SameTabs hook hook.beginSaveDrain := by
  rw [beginSaveDrain]
  split
  · exact drainSaveQueue_tabs
  · exact .refl _
  · exact .refl _

theorem flushWorkspace_tabs : SameTabs hook (hook.flushWorkspace localeCompare) := by
  rw [flushWorkspace]
  split
  · exact .refl _
  dsimp only
  split
  · exact ⟨rfl, rfl, rfl⟩
  split
  · exact ⟨rfl, rfl, rfl⟩
  · refine SameTabs.trans ?_ beginSaveDrain_tabs
    exact ⟨rfl, rfl, rfl⟩

theorem saveReplied_tabs {save : QueuedWorkspaceSave} (revision : hook.inFlightRevision = some save.revision) (stored : Bool) :
    SameTabs hook (hook.saveReplied save stored) := by
  rw [saveReplied_eq save stored revision]
  refine SameTabs.trans ?_ drainSaveQueue_tabs
  refine ⟨rfl, ?_, rfl⟩
  dsimp only
  split <;> rfl

theorem drainSettled_tabs : SameTabs hook hook.drainSettled := by
  rw [drainSettled]
  dsimp only
  split
  · refine SameTabs.trans ?_ beginSaveDrain_tabs
    exact ⟨rfl, rfl, rfl⟩
  · exact ⟨rfl, rfl, rfl⟩

theorem loadSettled_tabs : SameTabs hook hook.loadSettled := by
  rw [loadSettled]
  dsimp only
  split <;> exact ⟨rfl, rfl, rfl⟩

/-- The screen shows the tabs, or none of them. -/
def Shows (hook : WorkspacePersistence) : Prop := hook.screen.tabs = hook.tabs ∨ hook.screen.tabs = []

theorem Shows.same (shows_ : Shows hook) {after : WorkspacePersistence} (same : SameTabs hook after) : Shows after := by
  rw [Shows, same.tabs, same.shown]
  exact shows_

theorem Shows.edits (shows_ : Shows hook) {after : WorkspacePersistence} (edits : Edits localeCompare hook after) : Shows after := by
  cases edits with
  | selects _ => exact shows_
  | updates nextTabs _ =>
    rw [updateTabs]
    split
    · exact shows_
    · exact Or.inl rfl

theorem Shows.discardReplied (shows_ : Shows hook) (stored : Bool) : Shows (hook.discardReplied localeCompare stored) := by
  rw [WorkspacePersistence.discardReplied]
  cases stored with
  | true => exact shows_
  | false =>
    simp only [Bool.false_eq_true, if_false, flushWorkspace_discard]
    refine Shows.same ?_ flushWorkspace_tabs
    rw [setSaveError_eq, Shows]
    dsimp only
    split <;> exact shows_

theorem Shows.react (shows_ : Shows hook) (invariant : Invariant localeCompare hook) (event : Step) :
    Shows (hook.react localeCompare event) := by
  cases event with
  | addTab closure id connectionId title initialText => exact shows_.edits (handleAddTab_edits ..)
  | closeTab tabId => exact shows_.edits (closeTab_edits ..)
  | closeTabsForConnection connectionId => exact shows_.edits (closeTabsForConnection_edits ..)
  | renameConnectionTabTitles connectionId previousName nextName => exact shows_.edits (renameConnectionTabTitles_edits ..)
  | reorderTab tabId targetIndex => exact shows_.edits (reorderTab_edits ..)
  | selectTab tabId => exact shows_.edits (@selectTab_edits localeCompare hook tabId)
  | updateTabSql closure tabId sqlText => exact shows_.edits (updateTabSql_edits ..)
  | hidden | retrySave => exact shows_.same flushWorkspace_tabs
  | timerFires =>
    rw [WorkspacePersistence.react]
    split
    · refine Shows.same ?_ flushWorkspace_tabs
      exact shows_
    · exact shows_
  | unmount =>
    refine Shows.same ?_ flushWorkspace_tabs
    exact shows_
  | retryLoad =>
    rw [WorkspacePersistence.react, restoreWorkspace]
    split <;> exact shows_
  | loadResolves restoredTabs =>
    rw [WorkspacePersistence.react]
    split
    case isFalse => exact shows_
    case isTrue loading =>
      rcases invariant with fresh | ⟨settled, -⟩
      · rw [loadResolved]
        dsimp only
        split
        · exact Or.inl rfl
        · exact Or.inr fresh.screen
      · exact absurd loading settled.load
  | loadRejects =>
    rw [WorkspacePersistence.react]
    split
    · rw [loadRejected]
      dsimp only
      split <;> exact shows_
    · exact shows_
  | loadSettles =>
    rw [WorkspacePersistence.react]
    split
    · exact shows_.same loadSettled_tabs
    · exact shows_
  | saveReplies stored =>
    rw [WorkspacePersistence.react]
    split
    case h_1 save busy =>
      rcases invariant with fresh | ⟨-, sound⟩
      · have still := fresh.drain
        rw [busy] at still
        cases still
      · exact shows_.same (saveReplied_tabs (sound.saving_revision busy) stored)
    · exact shows_
    · exact shows_
  | drainSettles =>
    rw [WorkspacePersistence.react]
    split
    · exact shows_.same drainSettled_tabs
    · exact shows_
  | discard =>
    rw [WorkspacePersistence.react, discardWorkspace]
    split
    · exact shows_
    · exact shows_
    dsimp only
    split <;> exact shows_
  | discardContinues =>
    rw [WorkspacePersistence.react, discardContinued]
    split
    · split <;> exact shows_
    · exact shows_
  | discardReplies stored =>
    rw [WorkspacePersistence.react]
    split
    · exact shows_.discardReplied stored
    · exact shows_

/-- In every run a rendering that shows a tab shows the tabs as they are. -/
theorem run_shows {events : List Step} (permitted : Runs.Permitted (step localeCompare) Permits start events) :
    Invariant localeCompare (Runs.run (step localeCompare) start events) ∧ Shows (Runs.run (step localeCompare) start events) :=
  @Runs.permitted_preserves _ _ (step localeCompare) Permits start (fun hook => Invariant localeCompare hook ∧ Shows hook)
    ⟨Or.inl Fresh.start, Or.inr Fresh.start.screen⟩
    (fun _ event permits ⟨invariant, shows_⟩ => ⟨invariant.step permits, shows_.react invariant event⟩) events permitted

/-- The window is in use and is not being discarded. -/
structure InUse (localeCompare : String → String → Ordering) (hook : WorkspacePersistence) : Prop where
  settled : Settled hook
  sound : Sound localeCompare hook
  active : hook.discarding = false

/-- What the tabs satisfy, and with them every snapshot that is queued or, once the
drain loop has settled, on its way. -/
structure Carries (holds : List WorkspaceTab → Prop) (drained : Prop) (hook : WorkspacePersistence) : Prop where
  tabs : holds hook.tabs
  queued : ∀ save, hook.queuedSave = some save → holds save.snapshot
  sent : drained → ∀ save, hook.drain = .saving save → holds save.snapshot

/-- With nothing left to save, nothing is queued. -/
theorem Sound.queue_empty (sound : Sound localeCompare hook)
    (saved : hook.latestRevision ≤ hook.persistedRevision ∨ some hook.latestRevision = hook.inFlightRevision) :
    hook.queuedSave = none := by
  cases queued : hook.queuedSave with
  | none => rfl
  | some next =>
    obtain ⟨pending, -⟩ := sound.queued next queued
    have ahead := pending.unsaved
    have known := pending.known
    rcases saved with stored | underway
    · omega
    · cases sound.phase with
      | idle _ _ _ none_ | discarding _ _ _ none_ | leaving _ _ _ none_ =>
        have contrary := underway.trans none_
        cases contrary
      | saving save _ _ _ some_ _ behind =>
        have same := Option.some.inj (underway.trans some_)
        have later := behind next queued
        omega

section Carries
variable {holds : List WorkspaceTab → Prop} {drained : Prop}

theorem Carries.drainSaveQueue (tabs : holds hook.tabs) (queued : ∀ save, hook.queuedSave = some save → holds save.snapshot) :
    Carries holds drained hook.drainSaveQueue := by
  rw [WorkspacePersistence.drainSaveQueue]
  split
  case h_1 none_ => exact ⟨tabs, queued, (fun _ _ saving => by cases saving)⟩
  case h_2 save some_ =>
    refine ⟨tabs, (fun _ none_ => by cases none_), ?_⟩
    rintro _ _ ⟨⟩
    exact queued save some_

theorem Carries.beginSaveDrain (carries : Carries holds drained hook) : Carries holds drained hook.beginSaveDrain := by
  rw [WorkspacePersistence.beginSaveDrain]
  split
  · exact .drainSaveQueue carries.tabs carries.queued
  · exact carries
  · exact carries

theorem Carries.flushWorkspace (respects : ∀ tabs, holds tabs → holds (sanitizeWorkspaceTabs localeCompare tabs))
    (carries : Carries holds drained hook) : Carries holds drained (hook.flushWorkspace localeCompare) := by
  rw [WorkspacePersistence.flushWorkspace]
  split
  · exact carries
  dsimp only
  split
  · exact ⟨carries.tabs, carries.queued, carries.sent⟩
  split
  · exact ⟨carries.tabs, carries.queued, carries.sent⟩
  · refine Carries.beginSaveDrain ⟨carries.tabs, ?_, carries.sent⟩
    rintro _ ⟨⟩
    exact respects _ carries.tabs

theorem Carries.idle (carries : Carries holds False hook) : Carries holds (hook.drain = .idle) hook where
  tabs := carries.tabs
  queued := carries.queued
  sent still save saving := by
    rw [still] at saving
    cases saving

/-- Behind a flush the queued snapshot is the one of the tabs. -/
theorem InUse.flush_carries (used : InUse localeCompare hook) (tabs : holds hook.tabs)
    (respects : ∀ tabs, holds tabs → holds (sanitizeWorkspaceTabs localeCompare tabs)) :
    Carries holds ((hook.flushWorkspace localeCompare).drain = .idle) (hook.flushWorkspace localeCompare) := by
  refine Carries.idle ?_
  rw [WorkspacePersistence.flushWorkspace, if_neg (Bool.eq_false_iff.mp used.active)]
  dsimp only
  rw [if_neg (Bool.eq_false_iff.mp used.settled.recoveryBlocked)]
  split
  case isTrue saved =>
    refine ⟨tabs, ?_, False.elim⟩
    intro save queued
    have empty := queued.symm.trans (used.sound.queue_empty saved)
    cases empty
  case isFalse =>
    refine Carries.beginSaveDrain ⟨tabs, ?_, False.elim⟩
    rintro _ ⟨⟩
    exact respects _ tabs

theorem Carries.saveReplied (carries : Carries holds drained hook) {save : QueuedWorkspaceSave}
    (revision : hook.inFlightRevision = some save.revision) (stored : Bool) : Carries holds drained (hook.saveReplied save stored) := by
  rw [saveReplied_eq save stored revision]
  exact .drainSaveQueue carries.tabs carries.queued

/-- Once the drain loop settles only a snapshot that was queued is on its way. -/
theorem Carries.drainSettled (carries : Carries holds False hook) : Carries holds drained hook.drainSettled := by
  rw [WorkspacePersistence.drainSettled]
  dsimp only
  split
  · exact .drainSaveQueue carries.tabs carries.queued
  · exact ⟨carries.tabs, carries.queued, (fun _ _ saving => by cases saving)⟩

theorem Carries.loadSettled (carries : Carries holds drained hook) : Carries holds drained hook.loadSettled := by
  rw [WorkspacePersistence.loadSettled]
  dsimp only
  split <;> exact ⟨carries.tabs, carries.queued, carries.sent⟩

theorem Carries.updateTabs (carries : Carries holds drained hook) {nextTabs : List WorkspaceTab}
    (tabs : holds (hook.updateTabs localeCompare nextTabs).tabs) : Carries holds drained (hook.updateTabs localeCompare nextTabs) := by
  refine ⟨tabs, ?_, ?_⟩
  · rw [WorkspacePersistence.updateTabs]
    split <;> exact carries.queued
  · rw [WorkspacePersistence.updateTabs]
    split <;> exact carries.sent

end Carries

theorem edits_discarding {after : WorkspacePersistence} (edits : Edits localeCompare hook after) : after.discarding = hook.discarding := by
  cases edits with
  | selects _ => rfl
  | updates nextTabs _ =>
    rw [updateTabs]
    split <;> rfl

theorem InUse.step (used : InUse localeCompare hook) {event : Step} (permits : hook.Permits event)
    (same : (hook.react localeCompare event).discarding = hook.discarding) : InUse localeCompare (hook.step localeCompare event) := by
  obtain ⟨settled, sound⟩ := used.settled.step used.sound permits
  exact ⟨settled, sound, same.trans used.active⟩

/-- A tab and its text. -/
def written (tab : WorkspaceTab) : String × String := (tab.id, tab.sqlText)

theorem InUse.updateTabSql_written (used : InUse localeCompare hook) (tabId sqlText : String) :
    ((hook.updateTabSql localeCompare tabId sqlText).tabs.map written).Perm
      (hook.tabs.map fun tab => (tab.id, if tab.id = tabId then sqlText else tab.sqlText)) := by
  have pairs := updateTabs_map localeCompare (hook.tabs.map fun tab => if tab.id = tabId then { tab with sqlText } else tab)
    written (fun _ _ => rfl) used.settled.recoveryBlocked used.active
  rw [updateTabSql, if_neg (Bool.eq_false_iff.mp used.settled.recoveryBlocked)]
  refine pairs.trans (List.Perm.of_eq ?_)
  rw [List.map_map]
  refine List.map_congr_left fun tab _ => ?_
  dsimp only [Function.comp, written]
  split <;> rfl

/-- The tab is there. -/
def Has (tabId : String) (tabs : List WorkspaceTab) : Prop := ∃ tab ∈ tabs, tab.id = tabId

theorem Has.sanitize {tabId : String} (tabs : List WorkspaceTab) (has : Has tabId tabs) :
    Has tabId (sanitizeWorkspaceTabs localeCompare tabs) := by
  obtain ⟨tab, member, named⟩ := has
  exact ⟨tab, (sanitize_perm tabs).mem_iff.mpr member, named⟩

/-- The tab is there with the given text. -/
structure Holds (tabId text : String) (tabs : List WorkspaceTab) : Prop where
  present : Has tabId tabs
  same : ∀ tab ∈ tabs, tab.id = tabId → tab.sqlText = text

theorem InUse.holds_updateTabSql (used : InUse localeCompare hook) {tabId text : String} (holds : Holds tabId text hook.tabs)
    (other sqlText : String) :
    Holds tabId (if other = tabId then sqlText else text) (hook.updateTabSql localeCompare other sqlText).tabs := by
  have perm := used.updateTabSql_written other sqlText
  constructor
  · obtain ⟨tab, member, rfl⟩ := holds.present
    obtain ⟨edited, listed, pair⟩ := List.mem_map.mp (perm.mem_iff.mpr (List.mem_map_of_mem member))
    exact ⟨edited, listed, (Prod.mk.inj pair).1⟩
  · rintro edited listed rfl
    obtain ⟨tab, member, pair⟩ := List.mem_map.mp (perm.mem_iff.mp (List.mem_map_of_mem listed))
    obtain ⟨sameId, sameText⟩ := Prod.mk.inj pair
    rw [← sameText, ← sameId]
    split
    case isTrue named => rw [if_pos named.symm]
    case isFalse apart => rw [if_neg (fun named => apart named.symm), holds.same tab member sameId]

end Pipa.WorkspacePersistence
