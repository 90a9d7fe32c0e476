import Pipa.Proofs.WorkspaceOwnership
import Pipa.Proofs.WorkspaceSnapshots
import Pipa.WorkspaceDetach

/-! The move of a tab into a window of its own. The tab is stored for one window at a
time, a move that fails leaves it with the source window, and the text that arrives
is the one that was captured when the move began. -/

namespace Pipa

namespace WorkspaceDetach

open LocalStore WorkspacePersistence

variable {localeCompare : String → String → Ordering} {begun current : WorkspaceDetach}

/-- The tab is in the stored snapshot of the window. -/
def StoredFor (workspaceTabs : WorkspaceTabs) (tabId windowLabel : String) : Prop :=
  Has tabId (loadWorkspace workspaceTabs windowLabel)

theorem storedFor_iff {workspaceTabs : WorkspaceTabs} {tabId windowLabel : String} :
    StoredFor workspaceTabs tabId windowLabel ↔ ∃ row ∈ workspaceTabs.rows, row.tab.id = tabId ∧ row.windowLabel = windowLabel := by
  constructor
  · rintro ⟨tab, member, named⟩
    exact ⟨_, mem_loadWorkspace.mp member, named, rfl⟩
  · rintro ⟨row, member, named, rfl⟩
    exact ⟨row.tab, mem_loadWorkspace.mpr member, named⟩

/-- The id of a tab is the key of its row. -/
theorem storedFor_unique {workspaceTabs : WorkspaceTabs} {tabId first second : String}
    (here : StoredFor workspaceTabs tabId first) (there : StoredFor workspaceTabs tabId second) : first = second := by
  obtain ⟨row, member, named, rfl⟩ := storedFor_iff.mp here
  obtain ⟨other, member', named', rfl⟩ := storedFor_iff.mp there
  rw [workspaceTabs.eq_of_key member member' (named.trans named'.symm)]

/-- The tab is stored for some window. -/
def Stored (workspaceTabs : WorkspaceTabs) (tabId : String) : Prop := ∃ windowLabel, StoredFor workspaceTabs tabId windowLabel

theorem stored_iff {workspaceTabs : WorkspaceTabs} {tabId : String} :
    Stored workspaceTabs tabId ↔ ∃ row ∈ workspaceTabs.rows, row.tab.id = tabId := by
  simp only [Stored, storedFor_iff]
  constructor
  · rintro ⟨windowLabel, row, member, named, -⟩
    exact ⟨row, member, named⟩
  · rintro ⟨row, member, named⟩
    exact ⟨row.windowLabel, row, member, named, rfl⟩

/-- The phases in which the stored tab is the target window's. -/
def atTarget : DetachPhase → Bool
  | .transferring (some true) | .creating | .rollingBack none | .rollingBack (some false) | .ended .detached
  | .ended (.failed (some false)) => true
  | .flushing _ | .transferring none | .transferring (some false) | .rollingBack (some true) | .ended (.failed none)
  | .ended (.failed (some true)) => false

/-- The stored tab is the target window's, with the captured text, or no other window's
than the source. -/
def Placed (begun : WorkspaceDetach) (moved : Bool) (workspaceTabs : WorkspaceTabs) : Prop :=
  if moved then { begun.tab with position := 0 } ∈ loadWorkspace workspaceTabs begun.targetWindowLabel
  else ∀ windowLabel, StoredFor workspaceTabs begun.tab.id windowLabel → windowLabel = begun.sourceWindowLabel

theorem Placed.save {moved : Bool} {workspaceTabs after : WorkspaceTabs} {tabs : List WorkspaceTab} {fault : Option String}
    (placed : Placed begun moved workspaceTabs) (apart : begun.sourceWindowLabel ≠ begun.targetWindowLabel)
    (saved : saveWorkspace workspaceTabs begun.sourceWindowLabel tabs fault = .ok after) : Placed begun moved after := by
  rw [Placed] at placed ⊢
  split
  case isTrue atTarget =>
    rw [if_pos atTarget, mem_loadWorkspace] at placed
    exact mem_loadWorkspace.mpr ((saveWorkspace_ok saved).mpr (Or.inr ⟨placed, apart.symm⟩))
  case isFalse atSource =>
    rw [if_neg atSource] at placed
    intro windowLabel stored
    obtain ⟨row, member, named, rfl⟩ := storedFor_iff.mp stored
    rcases (saveWorkspace_ok saved).mp member with ⟨tab, -, rfl⟩ | ⟨member, -⟩
    · rfl
    · exact placed _ (storedFor_iff.mpr ⟨row, member, named, rfl⟩)

/-- A save with the tab leaves it stored. -/
theorem stored_save {workspaceTabs after : WorkspaceTabs} {tabs : List WorkspaceTab} {fault : Option String} {tabId windowLabel : String}
    (has : Has tabId tabs) (saved : saveWorkspace workspaceTabs windowLabel tabs fault = .ok after) : Stored after tabId := by
  obtain ⟨tab, member, named⟩ := has
  exact stored_iff.mpr ⟨_, (saveWorkspace_ok saved).mpr (Or.inl ⟨tab, member, rfl⟩), named⟩

theorem Placed.stored {workspaceTabs : WorkspaceTabs} (placed : Placed begun true workspaceTabs) : Stored workspaceTabs begun.tab.id := by
  rw [Placed, if_pos rfl] at placed
  exact ⟨_, _, placed, rfl⟩

/-- The transfer stores the tab, as it was captured, for the target window. -/
theorem placed_transfer {workspaceTabs after : WorkspaceTabs} {fault : Option String}
    (moved : transferWorkspaceTab workspaceTabs begun.tab begun.sourceWindowLabel begun.targetWindowLabel fault = .ok after) :
    Placed begun true after := by
  rw [Placed, if_pos rfl, mem_loadWorkspace]
  exact (transferWorkspaceTab_ok moved).mpr (Or.inl rfl)

/-- The rollback stores the tab for the source window again. -/
theorem placed_rollback {workspaceTabs after : WorkspaceTabs} {fault : Option String}
    (moved : transferWorkspaceTab workspaceTabs begun.tab begun.targetWindowLabel begun.sourceWindowLabel fault = .ok after) :
    Placed begun false after ∧ Stored after begun.tab.id := by
  constructor
  · rw [Placed, if_neg (by decide)]
    intro windowLabel stored
    obtain ⟨row, member, named, rfl⟩ := storedFor_iff.mp stored
    rcases (transferWorkspaceTab_ok moved).mp member with rfl | ⟨-, other⟩
    · rfl
    · exact absurd named other
  · exact stored_iff.mpr ⟨_, (transferWorkspaceTab_ok moved).mpr (Or.inl rfl), rfl⟩

/-- What the user types into the tab, if anything. -/
def typed (tab : WorkspaceTab) (text : String) : Step → String
  | .updateTabSql _ tabId sqlText => if tabId = tab.id then sqlText else text
  | _ => text

/-- The invariant of a move: the window is in use and holds the tab with the text that
was typed last, its snapshots have it, and the stored tab is where the phase says. -/
structure Running (localeCompare : String → String → Ordering) (begun : WorkspaceDetach) (text : String) (current : WorkspaceDetach) :
    Prop where
  tab : current.tab = begun.tab
  sourceWindowLabel : current.sourceWindowLabel = begun.sourceWindowLabel
  targetWindowLabel : current.targetWindowLabel = begun.targetWindowLabel
  used : InUse localeCompare current.hook
  holds : current.phase ≠ .ended .detached → Holds begun.tab.id text current.hook.tabs ∧
    WorkspacePersistence.Carries (Has begun.tab.id) (current.phase ≠ .flushing false) current.hook
  placed : Placed begun (atTarget current.phase) current.workspaceTabs
  restored : current.phase = .rollingBack (some true) ∨ current.phase = .ended (.failed (some true)) → Stored current.workspaceTabs begun.tab.id

section Steps
variable {text : String} (running : Running localeCompare begun text current)
include running

/-- A step of the hook that keeps the tabs. -/
theorem Running.react_same {event : WorkspacePersistence.Step} (permits : current.hook.Permits event)
    (same : SameTabs current.hook (current.hook.react localeCompare event))
    (carries : ∀ {drained : Prop}, WorkspacePersistence.Carries (Has begun.tab.id) drained current.hook →
      WorkspacePersistence.Carries (Has begun.tab.id) drained (current.hook.react localeCompare event)) :
    Running localeCompare begun text (current.react localeCompare event) := { running with
  used := running.used.step permits same.discarding
  holds := by
    intro going
    obtain ⟨holds, carried⟩ := running.holds going
    have after := carries carried
    exact ⟨same.tabs.symm ▸ holds, after.tabs, after.queued, after.sent⟩ }

theorem Running.flush {event : WorkspacePersistence.Step} (permits : current.hook.Permits event)
    (flushes : current.hook.react localeCompare event = current.hook.flushWorkspace localeCompare) :
    Running localeCompare begun text (current.react localeCompare event) := by
  refine running.react_same permits ?_ ?_
  · rw [flushes]
    exact flushWorkspace_tabs
  · intro drained carries
    rw [flushes]
    exact carries.flushWorkspace Has.sanitize

theorem Running.updateTabSql {closure : Screen} {tabId sqlText : String}
    (permits : current.hook.Permits (.updateTabSql closure tabId sqlText)) :
    Running localeCompare begun (if tabId = begun.tab.id then sqlText else text)
      (current.react localeCompare (.updateTabSql closure tabId sqlText)) := { running with
  used := running.used.step permits (edits_discarding (updateTabSql_edits ..))
  holds := by
    intro going
    obtain ⟨holds, carried⟩ := running.holds going
    have typed := running.used.holds_updateTabSql holds tabId sqlText
    have after : WorkspacePersistence.Carries (Has begun.tab.id) (current.phase ≠ .flushing false) (current.hook.updateTabSql localeCompare tabId sqlText) := by
      have present := typed.present
      rw [WorkspacePersistence.updateTabSql] at present ⊢
      split
      · exact carried
      case isFalse open_ =>
        rw [if_neg open_] at present
        exact carried.updateTabs present
    exact ⟨typed, after.tabs, after.queued, after.sent⟩ }

theorem Running.selectTab (tabId : String) : Running localeCompare begun text (current.react localeCompare (.selectTab tabId)) := by
  have same : SameTabs current.hook (current.hook.selectTab tabId) := by
    rw [WorkspacePersistence.selectTab]
    split
    · exact ⟨rfl, rfl, rfl⟩
    · exact .refl _
  refine running.react_same trivial same ?_
  intro drained carries
  rw [WorkspacePersistence.react, WorkspacePersistence.selectTab]
  split
  · exact ⟨carries.tabs, carries.queued, carries.sent⟩
  · exact carries

theorem Running.timerFires : Running localeCompare begun text (current.react localeCompare .timerFires) := by
  by_cases timer : current.hook.timer = true
  · refine running.flush trivial ?_
    rw [WorkspacePersistence.react, if_pos timer, flushWorkspace_timer running.used.active]
  · have same : current.hook.react localeCompare .timerFires = current.hook := if_neg timer
    refine running.react_same trivial ?_ ?_
    · rw [same]
      exact .refl _
    · intro drained carries
      rwa [same]

theorem Running.loadSettles : Running localeCompare begun text (current.react localeCompare .loadSettles) := by
  refine running.react_same trivial ?_ ?_
  · rw [WorkspacePersistence.react]
    split
    · exact loadSettled_tabs
    · exact .refl _
  · intro drained carries
    rw [WorkspacePersistence.react]
    split
    · exact carries.loadSettled
    · exact carries

theorem Running.saveReplies : Running localeCompare begun text (current.saveReplies localeCompare) := by
  rw [WorkspaceDetach.saveReplies]
  split
  · exact running
  case h_2 stored answer =>
    have reacted : Running localeCompare begun text (current.react localeCompare (.saveReplies stored)) := by
      cases drain : current.hook.drain with
      | idle | leaving =>
        have same : current.hook.react localeCompare (.saveReplies stored) = current.hook := by
          rw [WorkspacePersistence.react, drain]
        refine running.react_same trivial ?_ ?_
        · rw [same]
          exact .refl _
        · intro drained carries
          rwa [same]
      | saving save =>
        have revision := running.used.sound.saving_revision drain
        have replied : current.hook.react localeCompare (.saveReplies stored) = current.hook.saveReplied save stored := by
          rw [WorkspacePersistence.react, drain]
        refine running.react_same trivial ?_ ?_
        · rw [replied]
          exact saveReplied_tabs revision stored
        · intro drained carries
          rw [replied]
          exact carries.saveReplied revision stored
    exact { reacted with tab := reacted.tab }

theorem Running.drainSettles : Running localeCompare begun text (current.drainSettles localeCompare) := by
  have reacted (drained : Prop) (leaving : current.hook.drain = .leaving) (carries : WorkspacePersistence.Carries (Has begun.tab.id) drained current.hook) :
      WorkspacePersistence.Carries (Has begun.tab.id) True (current.hook.react localeCompare .drainSettles) := by
    rw [WorkspacePersistence.react, if_pos leaving]
    exact .drainSettled ⟨carries.tabs, carries.queued, False.elim⟩
  have same : SameTabs current.hook (current.hook.react localeCompare .drainSettles) := by
    rw [WorkspacePersistence.react]
    split
    · exact drainSettled_tabs
    · exact .refl _
  have settled : Running localeCompare begun text (current.react localeCompare .drainSettles) := by
    refine running.react_same trivial same ?_
    intro drained carries
    by_cases leaving : current.hook.drain = .leaving
    · have after := reacted drained leaving carries
      exact ⟨after.tabs, after.queued, fun _ => after.sent trivial⟩
    · rwa [WorkspacePersistence.react, if_neg leaving]
  rw [WorkspaceDetach.drainSettles]
  split
  case isFalse => exact settled
  case isTrue awaited =>
    obtain ⟨phase, leaving⟩ := awaited
    have placed := running.placed
    rw [phase] at placed
    obtain ⟨holds, carries⟩ := running.holds (by rw [phase]; decide)
    have after := reacted _ leaving carries
    exact { settled with
      holds := fun _ => ⟨same.tabs.symm ▸ holds, after.tabs, after.queued, fun _ => after.sent trivial⟩
      placed
      restored := fun contrary => by rcases contrary with contrary | contrary <;> cases contrary }

/-- A save that is executed leaves the tab where it was stored. -/
theorem Running.saveExecutes (apart : begun.sourceWindowLabel ≠ begun.targetWindowLabel) (fault : Option String) :
    Running localeCompare begun text (current.saveExecutes fault) := by
  rw [WorkspaceDetach.saveExecutes]
  split
  case h_2 => exact running
  case h_1 save saving none_ =>
    dsimp only
    cases saved : saveWorkspace current.workspaceTabs current.sourceWindowLabel save.snapshot fault with
    | error error => exact { running with tab := running.tab }
    | ok workspaceTabs =>
      rw [running.sourceWindowLabel] at saved
      exact { running with
        placed := running.placed.save apart saved
        restored := by
          intro phase
          have going : current.phase ≠ .ended .detached := by rcases phase with phase | phase <;> (rw [phase]; decide)
          have drained : current.phase ≠ .flushing false := by rcases phase with phase | phase <;> (rw [phase]; decide)
          exact stored_save ((running.holds going).2.sent drained save saving) saved }

/-- The move goes on to its next phase. -/
theorem Running.advance {phase : DetachPhase} {workspaceTabs : WorkspaceTabs} (going : current.phase ≠ .ended .detached)
    (drained : current.phase ≠ .flushing false) (placed : Placed begun (atTarget phase) workspaceTabs)
    (restored : phase = .rollingBack (some true) ∨ phase = .ended (.failed (some true)) → Stored workspaceTabs begun.tab.id) :
    Running localeCompare begun text { current with workspaceTabs, phase } := by
  obtain ⟨holds, carries⟩ := running.holds going
  exact { running with
    placed, restored
    holds := fun _ => ⟨holds, carries.tabs, carries.queued, fun _ => carries.sent drained⟩ }

theorem Running.flushed : Running localeCompare begun text (current.step localeCompare .flushed) := by
  rw [step]
  split
  case isFalse => exact running
  case isTrue phase =>
    have placed := running.placed
    rw [phase] at placed
    refine running.advance (by rw [phase]; decide) (by rw [phase]; decide) placed ?_
    rintro (contrary | contrary) <;> cases contrary

theorem Running.transferExecutes (fault : Option String) :
    Running localeCompare begun text (current.step localeCompare (.transferExecutes fault)) := by
  rw [step]
  split
  case isFalse => exact running
  case isTrue phase =>
    have going : current.phase ≠ .ended .detached := by rw [phase]; decide
    have drained : current.phase ≠ .flushing false := by rw [phase]; decide
    have placed := running.placed
    rw [phase] at placed
    have advance := @Running.advance localeCompare begun current text running
    cases moved : transferWorkspaceTab current.workspaceTabs current.tab current.sourceWindowLabel current.targetWindowLabel fault with
    | error error => exact advance going drained placed (by rintro (contrary | contrary) <;> cases contrary)
    | ok workspaceTabs =>
      rw [running.tab, running.sourceWindowLabel, running.targetWindowLabel] at moved
      exact advance going drained (placed_transfer moved) (by rintro (contrary | contrary) <;> cases contrary)

theorem Running.transferReplies : Running localeCompare begun text (current.step localeCompare .transferReplies) := by
  have placed := running.placed
  rw [step]
  split
  case h_1 phase | h_2 phase =>
    rw [phase] at placed
    refine running.advance (by rw [phase]; decide) (by rw [phase]; decide) placed ?_
    rintro (contrary | contrary) <;> cases contrary
  case h_3 => exact running

theorem Running.created : Running localeCompare begun text (current.step localeCompare .created) := by
  rw [step]
  split
  case isFalse => exact running
  case isTrue phase =>
    have placed := running.placed
    rw [phase] at placed
    exact { running with
      used := running.used.step trivial (edits_discarding (closeTab_edits ..))
      holds := fun contrary => absurd rfl contrary
      placed
      restored := by rintro (contrary | contrary) <;> cases contrary }

theorem Running.creationFails : Running localeCompare begun text (current.step localeCompare .creationFails) := by
  rw [step]
  split
  case isFalse => exact running
  case isTrue phase =>
    have placed := running.placed
    rw [phase] at placed
    refine running.advance (by rw [phase]; decide) (by rw [phase]; decide) placed ?_
    rintro (contrary | contrary) <;> cases contrary

theorem Running.rollbackExecutes (fault : Option String) :
    Running localeCompare begun text (current.step localeCompare (.rollbackExecutes fault)) := by
  rw [step]
  split
  case isFalse => exact running
  case isTrue phase =>
    have going : current.phase ≠ .ended .detached := by rw [phase]; decide
    have drained : current.phase ≠ .flushing false := by rw [phase]; decide
    have placed := running.placed
    rw [phase] at placed
    have advance := @Running.advance localeCompare begun current text running
    cases moved : transferWorkspaceTab current.workspaceTabs current.tab current.targetWindowLabel current.sourceWindowLabel fault with
    | error error => exact advance going drained placed (by rintro (contrary | contrary) <;> cases contrary)
    | ok workspaceTabs =>
      rw [running.tab, running.sourceWindowLabel, running.targetWindowLabel] at moved
      obtain ⟨placed, stored⟩ := placed_rollback moved
      exact advance going drained placed fun _ => stored

theorem Running.rollbackReplies : Running localeCompare begun text (current.step localeCompare .rollbackReplies) := by
  have placed := running.placed
  have kept := running.restored
  rw [step]
  split
  case h_1 restored phase =>
    rw [phase] at placed kept
    refine running.advance (by rw [phase]; simp) (by rw [phase]; simp) ?_ ?_
    · cases restored <;> exact placed
    · rintro (contrary | same)
      · cases contrary
      · cases same
        exact kept (Or.inl rfl)
  case h_2 => exact running

theorem Running.step (apart : begun.sourceWindowLabel ≠ begun.targetWindowLabel) {event : Step} (permits : current.Permits event) :
    Running localeCompare begun (typed begun.tab text event) (current.step localeCompare event) := by
  cases event with
  | updateTabSql closure tabId sqlText => exact running.updateTabSql permits
  | selectTab tabId => exact running.selectTab tabId
  | timerFires => exact running.timerFires
  | hidden | retrySave => exact running.flush trivial rfl
  | loadSettles => exact running.loadSettles
  | saveExecutes fault => exact running.saveExecutes apart fault
  | saveReplies => exact running.saveReplies
  | drainSettles => exact running.drainSettles
  | flushed => exact running.flushed
  | transferExecutes fault => exact running.transferExecutes fault
  | transferReplies => exact running.transferReplies
  | created => exact running.created
  | creationFails => exact running.creationFails
  | rollbackExecutes fault => exact running.rollbackExecutes fault
  | rollbackReplies => exact running.rollbackReplies

/-- Behind the flush every save in flight has the tab, or the stored tab is the target window's. -/
theorem Running.stored_saveExecutes (apart : begun.sourceWindowLabel ≠ begun.targetWindowLabel) (fault : Option String)
    (flushed : ∀ drained, current.phase ≠ .flushing drained) (stored : Stored current.workspaceTabs begun.tab.id) :
    Stored (current.saveExecutes fault).workspaceTabs begun.tab.id := by
  rw [WorkspaceDetach.saveExecutes]
  split
  case h_2 => exact stored
  case h_1 save saving none_ =>
    dsimp only
    cases saved : saveWorkspace current.workspaceTabs current.sourceWindowLabel save.snapshot fault with
    | error error => exact stored
    | ok workspaceTabs =>
      rw [running.sourceWindowLabel] at saved
      by_cases going : current.phase = .ended .detached
      · have placed := running.placed.save apart saved
        rw [going] at placed
        exact placed.stored
      · exact stored_save ((running.holds going).2.sent (flushed false) save saving) saved

theorem Running.stored_step (apart : begun.sourceWindowLabel ≠ begun.targetWindowLabel) (event : Step)
    (flushed : ∀ drained, current.phase ≠ .flushing drained) (stored : Stored current.workspaceTabs begun.tab.id) :
    Stored (current.step localeCompare event).workspaceTabs begun.tab.id := by
  cases event with
  | updateTabSql _ _ _ | selectTab _ | timerFires | hidden | retrySave | loadSettles => exact stored
  | saveExecutes fault => exact running.stored_saveExecutes apart fault flushed stored
  | saveReplies =>
    rw [WorkspaceDetach.step, WorkspaceDetach.saveReplies]
    split <;> exact stored
  | drainSettles =>
    rw [WorkspaceDetach.step, WorkspaceDetach.drainSettles]
    split <;> exact stored
  | flushed | created | creationFails =>
    rw [WorkspaceDetach.step]
    split <;> exact stored
  | transferReplies | rollbackReplies =>
    rw [WorkspaceDetach.step]
    split <;> exact stored
  | transferExecutes fault =>
    rw [WorkspaceDetach.step]
    split
    case isFalse => exact stored
    case isTrue phase =>
      cases moved : transferWorkspaceTab current.workspaceTabs current.tab current.sourceWindowLabel current.targetWindowLabel fault with
      | error error => exact stored
      | ok workspaceTabs =>
        rw [running.tab, running.sourceWindowLabel, running.targetWindowLabel] at moved
        exact (placed_transfer moved).stored
  | rollbackExecutes fault =>
    rw [WorkspaceDetach.step]
    split
    case isFalse => exact stored
    case isTrue phase =>
      cases moved : transferWorkspaceTab current.workspaceTabs current.tab current.targetWindowLabel current.sourceWindowLabel fault with
      | error error => exact stored
      | ok workspaceTabs =>
        rw [running.tab, running.sourceWindowLabel, running.targetWindowLabel] at moved
        exact (placed_rollback moved).2

end Steps

/-- The way of a move through its phases. -/
inductive Advances : DetachPhase → DetachPhase → Prop
  | drained : Advances (.flushing false) (.flushing true)
  | flushed : Advances (.flushing true) (.transferring none)
  | transferExecuted (answer : Bool) : Advances (.transferring none) (.transferring (some answer))
  | transferred : Advances (.transferring (some true)) .creating
  | refused : Advances (.transferring (some false)) (.ended (.failed none))
  | created : Advances .creating (.ended .detached)
  | creationFailed : Advances .creating (.rollingBack none)
  | rollbackExecuted (answer : Bool) : Advances (.rollingBack none) (.rollingBack (some answer))
  | rolledBack (restored : Bool) : Advances (.rollingBack (some restored)) (.ended (.failed (some restored)))

theorem step_phase (event : Step) :
    (current.step localeCompare event).phase = current.phase ∨ Advances current.phase (current.step localeCompare event).phase := by
  cases event with
  | updateTabSql _ _ _ | selectTab _ | timerFires | hidden | retrySave | loadSettles => exact Or.inl rfl
  | saveExecutes fault =>
    left
    rw [step, saveExecutes]
    split <;> rfl
  | saveReplies =>
    left
    rw [step, saveReplies]
    split <;> rfl
  | drainSettles =>
    rw [step, drainSettles]
    split
    case isTrue awaited =>
      rw [awaited.1]
      exact Or.inr .drained
    case isFalse => exact Or.inl rfl
  | flushed | transferExecutes _ | created | creationFails | rollbackExecutes _ =>
    rw [step]
    split
    case isTrue phase =>
      rw [phase]
      right
      constructor
    case isFalse => exact Or.inl rfl
  | transferReplies | rollbackReplies =>
    rw [step]
    split
    all_goals first
      | exact Or.inl rfl
      | rename_i phase
        rw [phase]
        right
        constructor

theorem ended_step {outcome : DetachOutcome} (ended : current.phase = .ended outcome) (event : Step) :
    (current.step localeCompare event).phase = .ended outcome := by
  rcases @step_phase localeCompare current event with same | advances
  · exact same.trans ended
  · rw [ended] at advances
    cases advances

theorem flushed_step (flushed : ∀ drained, current.phase ≠ .flushing drained) (event : Step) (drained : Bool) :
    (current.step localeCompare event).phase ≠ .flushing drained := by
  intro contrary
  rcases @step_phase localeCompare current event with same | advances
  · exact flushed drained (same.symm.trans contrary)
  · rw [contrary] at advances
    generalize before : current.phase = phase at advances
    cases advances
    exact flushed false before

/-- The text of the tab behind the steps: what the user typed last, or the captured one. -/
def lastText (tab : WorkspaceTab) (events : List Step) : String := events.foldl (typed tab) tab.sqlText

/-- The text that the window holds for a tab. -/
def textHeld (hook : WorkspacePersistence) (tabId : String) : Option String :=
  (hook.tabs.find? fun tab => tab.id = tabId).map WorkspaceTab.sqlText

theorem textHeld_eq {hook : WorkspacePersistence} {tabId text : String} (holds : Holds tabId text hook.tabs) :
    textHeld hook tabId = some text := by
  obtain ⟨tab, member, named⟩ := holds.present
  rw [textHeld]
  cases found : hook.tabs.find? fun tab => decide (tab.id = tabId) with
  | none => exact absurd named (by simpa using List.find?_eq_none.mp found tab member)
  | some held =>
    have same := holds.same held (List.mem_of_find?_eq_some found) (by simpa using List.find?_some found)
    exact congrArg some same

/-- A move begins with the tab that the window shows, and flushes it. -/
theorem handleDetachWorkspace_running {window : SourceWindow} {tabId source target : String} {detaching busy : Option String}
    (begins : handleDetachWorkspace localeCompare window tabId detaching busy source target = some begun)
    (invariant : Invariant localeCompare window.hook) (shows_ : Shows window.hook) (active : window.hook.discarding = false)
    (distinct : (window.hook.tabs.map WorkspaceTab.id).Nodup)
    (owned : ∀ windowLabel, StoredFor window.workspaceTabs tabId windowLabel → windowLabel = source) :
    begun.tab.id = tabId ∧ begun.sourceWindowLabel = source ∧ begun.targetWindowLabel = target ∧
      Running localeCompare begun begun.tab.sqlText begun := by
  rw [handleDetachWorkspace] at begins
  split at begins
  · cases begins
  split at begins
  · cases begins
  case h_2 tab found =>
  split at begins
  · cases begins
  case isFalse =>
  have shown := List.mem_of_find?_eq_some found
  have named : tab.id = tabId := by simpa using List.find?_some found
  rcases invariant with fresh | ⟨settled, sound⟩
  · rw [fresh.screen] at shown
    cases shown
  have member : tab ∈ window.hook.tabs := by
    rcases shows_ with same | none_
    · exact same ▸ shown
    · rw [none_] at shown
      cases shown
  have holds : Holds tab.id tab.sqlText window.hook.tabs :=
    ⟨⟨tab, member, rfl⟩, fun other listed same => congrArg _ (List.inj_on_of_nodup_map distinct listed member same)⟩
  have used : InUse localeCompare window.hook := ⟨settled, sound, active⟩
  have after := @InUse.step localeCompare window.hook used .retrySave trivial flushWorkspace_tabs.discarding
  have carries := used.flush_carries holds.present (@Has.sanitize localeCompare tab.id)
  obtain rfl := Option.some.inj begins
  refine ⟨named, rfl, rfl, ⟨rfl, rfl, rfl, after, fun _ => ⟨?_, carries.tabs, carries.queued, ?_⟩, ?_, ?_⟩⟩
  · have same := (@flushWorkspace_tabs localeCompare window.hook).tabs
    exact same ▸ holds
  · intro drained
    refine carries.sent ?_
    have unblocked := after.settled.recoveryBlocked
    by_contra busy
    refine drained (congrArg DetachPhase.flushing ?_)
    rw [unblocked, Bool.false_or]
    exact decide_eq_false busy
  · intro windowLabel stored
    exact owned windowLabel (named ▸ stored)
  · rintro (contrary | contrary) <;> cases contrary

theorem run_running (apart : begun.sourceWindowLabel ≠ begun.targetWindowLabel)
    (running : Running localeCompare begun begun.tab.sqlText begun) {events : List Step}
    (permitted : Runs.Permitted (step localeCompare) Permits begun events) :
    Running localeCompare begun (lastText begun.tab events) (Runs.run (step localeCompare) begun events) := by
  refine @Runs.permitted_history _ _ (step localeCompare) Permits begun
    (fun history current => Running localeCompare begun (lastText begun.tab history) current) running ?_ events permitted
  intro history event permits running
  rw [lastText, List.foldl_append]
  exact running.step apart permits

/-- What a move of a tab guarantees. `kept`: once the flush is over no step loses the stored tab. -/
structure Detaches (localeCompare : String → String → Ordering) (begun : WorkspaceDetach) (events : List Step) : Prop where
  exclusive : ∀ first second, StoredFor (Runs.run (step localeCompare) begun events).workspaceTabs begun.tab.id first →
    StoredFor (Runs.run (step localeCompare) begun events).workspaceTabs begun.tab.id second → first = second
  detached : ∀ before after, events = before ++ .created :: after → (Runs.run (step localeCompare) begun before).phase = .creating →
    ((∃ stored ∈ loadWorkspace (Runs.run (step localeCompare) begun events).workspaceTabs begun.targetWindowLabel,
      stored.id = begun.tab.id ∧ textHeld (Runs.run (step localeCompare) begun before).hook begun.tab.id = some stored.sqlText) ↔
        lastText begun.tab before = begun.tab.sqlText)
  failed : ∀ rollback, (Runs.run (step localeCompare) begun events).phase = .ended (.failed rollback) → rollback ≠ some false →
    Has begun.tab.id (Runs.run (step localeCompare) begun events).hook.tabs ∧
      (∀ windowLabel, StoredFor (Runs.run (step localeCompare) begun events).workspaceTabs begun.tab.id windowLabel →
        windowLabel = begun.sourceWindowLabel) ∧
      (rollback = some true → Stored (Runs.run (step localeCompare) begun events).workspaceTabs begun.tab.id)
  kept : ∀ before after, events = before ++ after → (∀ drained, (Runs.run (step localeCompare) begun before).phase ≠ .flushing drained) →
    Stored (Runs.run (step localeCompare) begun before).workspaceTabs begun.tab.id →
    Stored (Runs.run (step localeCompare) begun events).workspaceTabs begun.tab.id

/-- In every run of a move, with a window that is not being discarded and a tab that is
stored for no other window: the text that arrives is the one that the source window
drops exactly if what the user typed last is what was captured. -/
theorem run_detaches {past : List WorkspacePersistence.Step} {window : SourceWindow} {tabId source target : String}
    {detaching busy : Option String} {events : List Step}
    (reached : Runs.Permitted (WorkspacePersistence.step localeCompare) WorkspacePersistence.Permits WorkspacePersistence.start past)
    (hook : window.hook = Runs.run (WorkspacePersistence.step localeCompare) WorkspacePersistence.start past)
    (active : window.hook.discarding = false) (distinct : (window.hook.tabs.map WorkspaceTab.id).Nodup)
    (owned : ∀ windowLabel, StoredFor window.workspaceTabs tabId windowLabel → windowLabel = source) (apart : source ≠ target)
    (begins : handleDetachWorkspace localeCompare window tabId detaching busy source target = some begun)
    (permitted : Runs.Permitted (step localeCompare) Permits begun events) : Detaches localeCompare begun events := by
  obtain ⟨invariant, shows_⟩ := hook ▸ run_shows reached
  obtain ⟨-, rfl, rfl, running⟩ := handleDetachWorkspace_running begins invariant shows_ active distinct owned
  have final := run_running apart running permitted
  refine ⟨fun _ _ => storedFor_unique, ?_, ?_, ?_⟩
  · rintro before after rfl creating
    have held := run_running apart running (Runs.permitted_initial _ permitted)
    obtain ⟨holds, -⟩ := held.holds (by rw [creating]; decide)
    have text := textHeld_eq holds
    have ended : (Runs.run (step localeCompare) begun (before ++ .created :: after)).phase = .ended .detached := by
      rw [Runs.run_append, Runs.run_cons]
      refine @Runs.run_preserves _ _ (step localeCompare) _ (fun current => current.phase = .ended .detached) ?_
        (fun _ event ended => ended_step ended event) after
      rw [step, if_pos creating]
    have placed := final.placed
    rw [ended, atTarget, Placed, if_pos rfl] at placed
    constructor
    · rintro ⟨stored, member, named, same⟩
      have row := KeyedTable.eq_of_key _ (mem_loadWorkspace.mp member) (mem_loadWorkspace.mp placed) named
      obtain rfl := congrArg WorkspaceRow.tab row
      exact Option.some.inj (text.symm.trans same)
    · intro captured
      exact ⟨_, placed, rfl, text.trans (congrArg some captured)⟩
  · intro rollback ended succeeded
    obtain ⟨holds, -⟩ := final.holds (by rw [ended]; simp)
    have placed := final.placed
    have restored := final.restored
    rw [ended] at placed restored
    refine ⟨holds.present, ?_, ?_⟩
    · rcases rollback with _ | _ | _
      · exact placed
      · exact absurd rfl succeeded
      · exact placed
    · rintro rfl
      exact restored (Or.inr rfl)
  · rintro before after rfl flushed stored
    have held := run_running apart running (Runs.permitted_initial _ permitted)
    rw [Runs.run_append]
    refine And.right (@Runs.permitted_preserves _ _ (step localeCompare) Permits _
      (fun current => ((∃ text, Running localeCompare begun text current) ∧ ∀ drained, current.phase ≠ .flushing drained) ∧
        Stored current.workspaceTabs begun.tab.id) ⟨⟨⟨_, held⟩, flushed⟩, stored⟩ ?_ after (Runs.permitted_rest _ permitted))
    rintro current event permits ⟨⟨⟨text, running⟩, flushed⟩, stored⟩
    exact ⟨⟨⟨_, running.step apart permits⟩, flushed_step flushed event⟩, running.stored_step apart event flushed stored⟩

def sampleTab : WorkspaceTab :=
  { id := "tab-1", connectionId := "connection-1", title := "查询 1", sqlText := "SELECT 1;", position := 0 }

def sampleScreen : Screen :=
  { tabs := [sampleTab], activeTabId := some "tab-1", loading := false, loadError := none, saveError := none, recoveryBlocked := false }

/-- The hook of a window that has restored one tab. -/
def sampleHook : WorkspacePersistence := { WorkspacePersistence.start with
  tabs := [sampleTab]
  load := .idle
  screen := sampleScreen
  rendered := [WorkspacePersistence.start.screen, { sampleScreen with loading := true }, sampleScreen]
  loaded := true
  stored := [sampleTab] }

theorem sampleHook_reached :
    sampleHook = Runs.run (WorkspacePersistence.step compare) WorkspacePersistence.start [.loadResolves [sampleTab], .loadSettles] := by
  simp [sampleHook, sampleScreen, WorkspacePersistence.step, WorkspacePersistence.react, WorkspacePersistence.start, restoreWorkspace,
    loadResolved, WorkspacePersistence.loadSettled, sanitizeWorkspaceTabs, sampleTab]

def sampleWindow : SourceWindow where
  hook := sampleHook
  workspaceTabs := { rows := [{ tab := sampleTab, windowLabel := "main" }], distinct := List.nodup_singleton _ }
  answer := none

def sampleDetach : WorkspaceDetach := { sampleWindow with
  hook := sampleHook.step compare .retrySave
  tab := sampleTab
  sourceWindowLabel := "main"
  targetWindowLabel := "workspace-1"
  phase := .flushing true }

theorem sampleDetach_begins :
    handleDetachWorkspace compare sampleWindow "tab-1" none none "main" "workspace-1" = some sampleDetach := rfl

/-- The user types into the tab while its window is created. -/
def sampleLoss : List Step :=
  [.flushed, .transferExecutes none, .transferReplies, .updateTabSql sampleScreen "tab-1" "SELECT 2;"]

theorem sampleLoss_permitted : Runs.Permitted (step compare) Permits sampleDetach (sampleLoss ++ [.created]) := by
  simp only [sampleLoss, List.cons_append, List.nil_append, Runs.permitted_cons, Permits, true_and, Runs.permitted_nil, and_true]
  refine ⟨?_, sampleTab, ?_, rfl⟩
  · have shown : sampleScreen ∈ sampleHook.rendered := by simp [sampleHook]
    exact List.mem_append_left _ shown
  · exact List.mem_singleton_self _

/-- What was typed is dropped with the tab: the new window has the text that was captured. -/
theorem handleDetachWorkspace_loses :
    handleDetachWorkspace compare sampleWindow "tab-1" none none "main" "workspace-1" = some sampleDetach ∧
      Runs.Permitted (step compare) Permits sampleDetach (sampleLoss ++ [.created]) ∧
      (Runs.run (step compare) sampleDetach (sampleLoss ++ [.created])).phase = .ended .detached ∧
      textHeld (Runs.run (step compare) sampleDetach sampleLoss).hook "tab-1" = some "SELECT 2;" ∧
      loadWorkspace (Runs.run (step compare) sampleDetach (sampleLoss ++ [.created])).workspaceTabs "workspace-1" = [sampleTab] := by
  have rows : (Runs.run (step compare) sampleDetach (sampleLoss ++ [.created])).workspaceTabs.rows =
      [{ tab := sampleTab, windowLabel := "workspace-1" }] := rfl
  have hook : (Runs.run (step compare) sampleDetach sampleLoss).hook =
      (sampleHook.step compare .retrySave).step compare (.updateTabSql sampleScreen "tab-1" "SELECT 2;") := rfl
  refine ⟨sampleDetach_begins, sampleLoss_permitted, rfl, ?_, ?_⟩
  · rw [hook]
    simp [textHeld, WorkspacePersistence.step, WorkspacePersistence.react, WorkspacePersistence.updateTabSql,
      WorkspacePersistence.updateTabs, WorkspacePersistence.flushWorkspace, sampleHook, WorkspacePersistence.start, restoreWorkspace,
      sanitizeWorkspaceTabs, renumber, sampleTab]
  · rw [loadWorkspace, rows]
    simp

theorem run_detaches_sample : Detaches compare sampleDetach (sampleLoss ++ [.created]) := by
  have owned (windowLabel : String) (stored : StoredFor sampleWindow.workspaceTabs "tab-1" windowLabel) : windowLabel = "main" := by
    obtain ⟨row, member, -, named⟩ := storedFor_iff.mp stored
    obtain rfl := List.mem_singleton.mp member
    exact named.symm
  have reached : Runs.Permitted (WorkspacePersistence.step compare) WorkspacePersistence.Permits WorkspacePersistence.start
      [.loadResolves [sampleTab], .loadSettles] := by
    simp only [Runs.permitted_cons, WorkspacePersistence.Permits, Runs.permitted_nil, true_and]
  exact @run_detaches compare sampleDetach _ sampleWindow "tab-1" "main" "workspace-1" none none _ reached sampleHook_reached rfl
    (List.nodup_singleton "tab-1") owned (by decide) sampleDetach_begins sampleLoss_permitted

end WorkspaceDetach

end Pipa
