import Pipa.WorkspacePersistence
import Mathlib.Data.List.Sort

/-! The save queue of the workspace hook: one save at a time, in the order of the
revisions, and the newest tabs are stored, on their way there, or reported. -/

namespace Pipa.WorkspacePersistence

variable {localeCompare : String → String → Ordering} {hook : WorkspacePersistence}

theorem sanitize_renumbered (localeCompare : String → String → Ordering) (tabs : List WorkspaceTab) :
    sanitizeWorkspaceTabs localeCompare (renumber tabs) = renumber tabs := by
  refine List.mergeSort_of_pairwise ?_
  rw [renumber, List.pairwise_iff_getElem]
  intro earlier later here there before
  simp [precedes, before]

/-- The revisions of the saves that were called. -/
def revisions (sent : List SaveRequest) : List Nat := sent.filterMap SaveRequest.revision

theorem revisions_append (sent : List SaveRequest) (request : SaveRequest) :
    revisions (sent ++ [request]) = revisions sent ++ request.revision.toList := by
  obtain ⟨_ | revision, tabs⟩ := request <;> simp [revisions]

def discardRequest : SaveRequest := { revision := none, tabs := [] }

/-- A save that is to come or on its way, behind everything that was stored. -/
structure Pending (persisted latest : Nat) (tabs : List WorkspaceTab) (save : QueuedWorkspaceSave) : Prop where
  unsaved : persisted < save.revision
  known : save.revision ≤ latest
  snapshot : save.revision = latest → save.snapshot = tabs

/-- An edit puts another revision in front. -/
theorem Pending.edited {persisted latest : Nat} {tabs : List WorkspaceTab} {save : QueuedWorkspaceSave}
    (pending : Pending persisted latest tabs save) (nextTabs : List WorkspaceTab) :
    Pending persisted (latest + 1) nextTabs save where
  unsaved := pending.unsaved
  known := pending.known.trans (Nat.le_succ _)
  snapshot := by
    intro same
    have known := pending.known
    omega

/-- Where the drain loop and a discard stand, and what is in flight then. -/
inductive Phase (persisted latest : Nat) (tabs : List WorkspaceTab) (queuedSave : Option QueuedWorkspaceSave) (drain : Drain)
    (discard : Discard) (revision : Option Nat) (inFlight : List SaveRequest) : Prop
  | idle (still : drain = .idle) (free : discard ≠ .saving) (nothing : inFlight = []) (none_ : revision = none)
      (empty : queuedSave = none)
  | discarding (still : drain = .idle) (busy : discard = .saving) (one : inFlight = [discardRequest]) (none_ : revision = none)
      (empty : queuedSave = none)
  | saving (save : QueuedWorkspaceSave) (busy : drain = .saving save) (free : discard ≠ .saving)
      (one : inFlight = [saveRequest save]) (some_ : revision = some save.revision) (pending : Pending persisted latest tabs save)
      (behind : ∀ next, queuedSave = some next → save.revision < next.revision)
  | leaving (left : drain = .leaving) (free : discard ≠ .saving) (nothing : inFlight = []) (none_ : revision = none)

/-- The invariant of the save queue. `somewhere` and `stored`: until a discard is
requested the newest tabs are stored, on their way or waited for, or the user sees an
error. `emptied`: a discard that succeeded leaves an empty snapshot behind. -/
structure Sound (localeCompare : String → String → Ordering) (hook : WorkspacePersistence) : Prop where
  phase : Phase hook.persistedRevision hook.latestRevision hook.tabs hook.queuedSave hook.drain hook.discard
    hook.inFlightRevision hook.inFlight
  persisted : hook.persistedRevision ≤ hook.latestRevision
  sorted : (revisions hook.sent).Pairwise (· ≤ ·)
  latest : ∀ revision ∈ revisions hook.sent, revision ≤ hook.latestRevision
  queued : ∀ save, hook.queuedSave = some save →
    Pending hook.persistedRevision hook.latestRevision hook.tabs save ∧ ∀ revision ∈ revisions hook.sent, revision ≤ save.revision
  edited : 0 < hook.latestRevision → sanitizeWorkspaceTabs localeCompare hook.tabs = hook.tabs
  requested : hook.discard ≠ .idle → hook.discarding = true
  quiet : hook.discarding = true → hook.discarded = true ∧ hook.timer = false ∧ hook.queuedSave = none
  emptied : hook.discarding = true → hook.discard = .idle → hook.drain = .idle ∧ hook.stored = []
  somewhere : hook.discarded = false → hook.mounted = true → hook.timer = true ∨ hook.screen.saveError ≠ none ∨
    (∃ save, (hook.queuedSave = some save ∨ hook.drain = .saving save) ∧ save.revision = hook.latestRevision) ∨
    hook.persistedRevision = hook.latestRevision
  stored : hook.discarded = false → hook.persistedRevision = hook.latestRevision →
    sanitizeWorkspaceTabs localeCompare hook.stored = hook.tabs ∧ (0 < hook.latestRevision → hook.stored = hook.tabs)

theorem Sound.saving_revision (sound : Sound localeCompare hook) {save : QueuedWorkspaceSave} (busy : hook.drain = .saving save) :
    hook.inFlightRevision = some save.revision := by
  cases sound.phase with
  | idle still | discarding still | leaving still =>
    rw [busy] at still
    cases still
  | saving save' busy' _ _ revision =>
    obtain rfl := Drain.saving.inj (busy.symm.trans busy')
    exact revision

/-- An edit that is taken starts the quiet period over and keeps the rest. -/
theorem Sound.updateTabs (sound : Sound localeCompare hook) (nextTabs : List WorkspaceTab) :
    Sound localeCompare (hook.updateTabs localeCompare nextTabs) := by
  rw [WorkspacePersistence.updateTabs]
  split
  · exact sound
  case isFalse allowed =>
  obtain ⟨-, allowed⟩ := Bool.or_eq_false_iff.mp (Bool.eq_false_of_not_eq_true allowed)
  have active : ¬ hook.discarding = true := by
    rw [allowed]
    decide
  have below := sound.persisted
  exact { sound with
    phase := by
      cases sound.phase with
      | idle still free nothing none_ empty => exact .idle still free nothing none_ empty
      | discarding _ busy => exact absurd (sound.requested (by rw [busy]; decide)) active
      | saving save busy free one some_ pending behind => exact .saving save busy free one some_ (pending.edited _) behind
      | leaving left free nothing none_ => exact .leaving left free nothing none_
    persisted := below.trans (Nat.le_succ _)
    latest := fun revision member => (sound.latest revision member).trans (Nat.le_succ _)
    queued := fun save queued => ⟨(sound.queued save queued).1.edited _, (sound.queued save queued).2⟩
    edited := fun _ => sanitize_renumbered localeCompare _
    quiet := fun discarding => absurd discarding active
    somewhere := fun _ _ => Or.inl rfl
    stored := fun _ same => by
      dsimp only at same
      omega }

/-- The drain loop at its head: nothing is in flight, and it may take the queued save. -/
structure Head (localeCompare : String → String → Ordering) (hook : WorkspacePersistence) : Prop where
  free : hook.discard ≠ .saving
  nothing : hook.inFlight = []
  revision : hook.inFlightRevision = none
  persisted : hook.persistedRevision ≤ hook.latestRevision
  sorted : (revisions hook.sent).Pairwise (· ≤ ·)
  latest : ∀ revision ∈ revisions hook.sent, revision ≤ hook.latestRevision
  queued : ∀ save, hook.queuedSave = some save →
    Pending hook.persistedRevision hook.latestRevision hook.tabs save ∧ ∀ revision ∈ revisions hook.sent, revision ≤ save.revision
  edited : 0 < hook.latestRevision → sanitizeWorkspaceTabs localeCompare hook.tabs = hook.tabs
  requested : hook.discard ≠ .idle → hook.discarding = true
  quiet : hook.discarding = true → hook.discarded = true ∧ hook.timer = false ∧ hook.queuedSave = none
  awaited : hook.discarding = true → hook.discard ≠ .idle
  somewhere : hook.discarded = false → hook.mounted = true → hook.timer = true ∨ hook.screen.saveError ≠ none ∨
    (∃ save, hook.queuedSave = some save ∧ save.revision = hook.latestRevision) ∨ hook.persistedRevision = hook.latestRevision
  stored : hook.discarded = false → hook.persistedRevision = hook.latestRevision →
    sanitizeWorkspaceTabs localeCompare hook.stored = hook.tabs ∧ (0 < hook.latestRevision → hook.stored = hook.tabs)

/-- Behind its head the loop has taken the queued save, or left. -/
theorem Head.drainSaveQueue (head : Head localeCompare hook) : Sound localeCompare hook.drainSaveQueue := by
  rw [WorkspacePersistence.drainSaveQueue]
  cases queued : hook.queuedSave with
  | none =>
    dsimp only
    exact { head with
      phase := .leaving rfl head.free head.nothing head.revision
      queued := fun _ none => by cases none
      quiet := fun discarding => ⟨(head.quiet discarding).1, (head.quiet discarding).2.1, rfl⟩
      emptied := fun discarding idle => absurd idle (head.awaited discarding)
      somewhere := by
        intro fresh mounted
        rcases head.somewhere fresh mounted with timer | error | ⟨save, contrary, -⟩ | stored
        · exact Or.inl timer
        · exact Or.inr (Or.inl error)
        · rw [queued] at contrary
          cases contrary
        · exact Or.inr (Or.inr (Or.inr stored)) }
  | some save =>
    dsimp only [callSave]
    obtain ⟨pending, behind⟩ := head.queued save queued
    have active : ¬ hook.discarding = true := by
      intro discarding
      have nothing := (head.quiet discarding).2.2
      rw [queued] at nothing
      cases nothing
    have sent : revisions (hook.sent ++ [saveRequest save]) = revisions hook.sent ++ [save.revision] := revisions_append ..
    exact { head with
      phase := .saving save rfl head.free (congrArg (· ++ [saveRequest save]) head.nothing) rfl pending (fun _ none => by cases none)
      sorted := by
        rw [sent]
        refine List.pairwise_append.mpr ⟨head.sorted, List.pairwise_singleton .., fun revision member last isLast => ?_⟩
        exact List.mem_singleton.mp isLast ▸ behind revision member
      latest := by
        rw [sent]
        exact List.forall_mem_append.mpr ⟨head.latest, List.forall_mem_singleton.mpr pending.known⟩
      queued := fun _ none => by cases none
      quiet := fun discarding => absurd discarding active
      emptied := fun discarding => absurd discarding active
      somewhere := by
        intro fresh mounted
        rcases head.somewhere fresh mounted with timer | error | ⟨next, same, newest⟩ | stored
        · exact Or.inl timer
        · exact Or.inr (Or.inl error)
        · obtain rfl := Option.some.inj (queued.symm.trans same)
          exact Or.inr (Or.inr (Or.inl ⟨save, Or.inr rfl, newest⟩))
        · exact Or.inr (Or.inr (Or.inr stored)) }

/-- Flushing queues the newest tabs, unless they are stored or on their way. -/
theorem Sound.flushWorkspace (sound : Sound localeCompare hook) (unblocked : hook.recoveryBlocked = false) :
    Sound localeCompare (hook.flushWorkspace localeCompare) := by
  rw [WorkspacePersistence.flushWorkspace]
  split
  · exact sound
  case isFalse active =>
  dsimp only
  rw [if_neg (Bool.eq_false_iff.mp unblocked)]
  split
  case isTrue saved =>
    exact { sound with
      quiet := fun discarding => absurd discarding active
      somewhere := by
        intro fresh mounted
        rcases saved with stored | underway
        · exact Or.inr (Or.inr (Or.inr (Nat.le_antisymm sound.persisted stored)))
        · cases sound.phase with
          | idle _ _ _ none_ | discarding _ _ _ none_ | leaving _ _ _ none_ =>
            have contrary := underway.trans none_
            cases contrary
          | saving save busy _ _ some_ =>
            exact Or.inr (Or.inr (Or.inl ⟨save, Or.inr busy, (Option.some.inj (underway.trans some_)).symm⟩)) }
  case isFalse unsaved =>
    obtain ⟨behind, apart⟩ := not_or.mp unsaved
    have unsaved : hook.persistedRevision < hook.latestRevision := Nat.lt_of_not_le behind
    have tabs := sound.edited (Nat.zero_lt_of_lt unsaved)
    have pending : Pending hook.persistedRevision hook.latestRevision hook.tabs
        { revision := hook.latestRevision, snapshot := sanitizeWorkspaceTabs localeCompare hook.tabs } :=
      ⟨unsaved, Nat.le_refl _, fun _ => tabs⟩
    have queued : ∀ save, some (⟨hook.latestRevision, sanitizeWorkspaceTabs localeCompare hook.tabs⟩ : QueuedWorkspaceSave) = some save →
        Pending hook.persistedRevision hook.latestRevision hook.tabs save ∧
          ∀ revision ∈ revisions hook.sent, revision ≤ save.revision := by
      rintro _ ⟨⟩
      exact ⟨pending, sound.latest⟩
    have newest : ∃ save, some (⟨hook.latestRevision, sanitizeWorkspaceTabs localeCompare hook.tabs⟩ : QueuedWorkspaceSave) = some save ∧
        save.revision = hook.latestRevision := ⟨_, rfl, rfl⟩
    rw [beginSaveDrain]
    dsimp only
    cases drain : hook.drain with
    | idle =>
      have free : hook.discard ≠ .saving := fun busy => active (sound.requested (by rw [busy]; decide))
      cases sound.phase with
      | idle _ _ nothing none_ =>
        have head : Head localeCompare { hook with
            timer := false
            queuedSave := some ⟨hook.latestRevision, sanitizeWorkspaceTabs localeCompare hook.tabs⟩
            drain := .idle } := { sound with
          free, nothing, queued
          revision := none_
          quiet := fun discarding => absurd discarding active
          awaited := fun discarding => absurd discarding active
          somewhere := fun _ _ => Or.inr (Or.inr (Or.inl newest)) }
        exact head.drainSaveQueue
      | discarding _ busy => exact absurd busy free
      | saving _ busy | leaving busy =>
        rw [drain] at busy
        cases busy
    | saving save =>
      cases sound.phase with
      | idle still | discarding still | leaving still =>
        rw [drain] at still
        cases still
      | saving save' busy free one some_ pending' _ =>
        obtain rfl := Drain.saving.inj (drain.symm.trans busy)
        exact { sound with
          phase := .saving save rfl free one some_ pending' (by
            rintro _ ⟨⟩
            exact Nat.lt_of_le_of_ne pending'.known fun same => apart (some_ ▸ congrArg some same.symm))
          queued
          quiet := fun discarding => absurd discarding active
          emptied := fun discarding => absurd discarding active
          somewhere := fun _ _ => Or.inr (Or.inr (Or.inl ⟨_, Or.inl rfl, rfl⟩)) }
    | leaving =>
      cases sound.phase with
      | idle still | discarding still | saving _ still =>
        rw [drain] at still
        cases still
      | leaving _ free nothing none_ =>
        exact { sound with
          phase := .leaving rfl free nothing none_
          queued
          quiet := fun discarding => absurd discarding active
          emptied := fun discarding => absurd discarding active
          somewhere := fun _ _ => Or.inr (Or.inr (Or.inl ⟨_, Or.inl rfl, rfl⟩)) }

theorem setSaveError_eq (saveError : Option String) : hook.setSaveError saveError =
    { hook with screen := if hook.mounted then { hook.screen with saveError } else hook.screen } := by
  rw [setSaveError]
  by_cases mounted : hook.mounted = true
  · rw [if_pos mounted, if_pos mounted]
  · rw [if_neg mounted, if_neg mounted]

/-- What the reply to a save leaves to the head of the loop. -/
theorem saveReplied_eq (save : QueuedWorkspaceSave) (stored : Bool) (revision : hook.inFlightRevision = some save.revision) :
    hook.saveReplied save stored = drainSaveQueue { hook with
      inFlight := hook.inFlight.erase (saveRequest save)
      stored := if stored then save.snapshot else hook.stored
      persistedRevision := if stored then max hook.persistedRevision save.revision else hook.persistedRevision
      screen := if save.revision = hook.latestRevision ∧ hook.mounted = true then
        { hook.screen with saveError := if stored then none else some saveErrorMessage } else hook.screen
      inFlightRevision := none } := by
  obtain ⟨tabs, latest, persisted, queued, inFlightRevision⟩ := hook
  obtain rfl : inFlightRevision = some save.revision := revision
  simp only [saveReplied, replySave, setSaveError_eq]
  by_cases newest : save.revision = latest <;> cases stored <;> simp [newest, saveRequest]

/-- The reply to a save: it is stored, behind a newer one, or the user sees the error. -/
theorem Sound.saveReplied (sound : Sound localeCompare hook) {save : QueuedWorkspaceSave} (busy : hook.drain = .saving save)
    (stored : Bool) : Sound localeCompare (hook.saveReplied save stored) := by
  cases sound.phase with
  | idle still | discarding still | leaving still =>
    rw [busy] at still
    cases still
  | saving save' busy' free one some_ pending behind =>
    obtain rfl := Drain.saving.inj (busy.symm.trans busy')
    have unsaved := pending.unsaved
    have known := pending.known
    rw [saveReplied_eq save stored some_]
    refine Head.drainSaveQueue { sound with
      free
      nothing := by
        dsimp only
        rw [one, List.erase_cons_head]
      revision := rfl
      persisted := ?_
      queued := ?_
      awaited := ?_
      somewhere := ?_
      stored := ?_ }
    · dsimp only
      split <;> omega
    · intro next queued
      obtain ⟨later, sorted⟩ := sound.queued next queued
      have after := behind next queued
      have first := later.unsaved
      refine ⟨⟨?_, later.known, later.snapshot⟩, sorted⟩
      dsimp only
      split <;> omega
    · intro discarding idle
      have still := (sound.emptied discarding idle).1
      rw [busy] at still
      cases still
    · intro fresh mounted
      by_cases newest : save.revision = hook.latestRevision
      · cases stored with
        | true => exact Or.inr (Or.inr (Or.inr (by simp only [if_true]; omega)))
        | false => exact Or.inr (Or.inl (by simp [newest, show hook.mounted = true from mounted]))
      · simp only [newest, false_and, if_false]
        rcases sound.somewhere fresh mounted with timer | error | ⟨next, queued | underway, last⟩ | contrary
        · exact Or.inl timer
        · exact Or.inr (Or.inl error)
        · exact Or.inr (Or.inr (Or.inl ⟨next, queued, last⟩))
        · obtain rfl := Drain.saving.inj (busy.symm.trans underway)
          exact absurd last newest
        · omega
    · intro fresh same
      dsimp only at same ⊢
      cases stored with
      | true =>
        have newest : save.revision = hook.latestRevision := by
          simp only [if_true] at same
          omega
        rw [if_pos rfl, pending.snapshot newest]
        exact ⟨sound.edited (by omega), fun _ => rfl⟩
      | false =>
        simp only [Bool.false_eq_true, if_false] at same
        omega

/-- The `finally` of the drain loop starts it over if a save was queued meanwhile. -/
theorem Sound.drainSettled (sound : Sound localeCompare hook) (left : hook.drain = .leaving) :
    Sound localeCompare hook.drainSettled := by
  cases sound.phase with
  | idle still | discarding still | saving _ still =>
    rw [left] at still
    cases still
  | leaving _ free nothing none_ =>
    have awaited (discarding : hook.discarding = true) (idle : hook.discard = .idle) : False := by
      have still := (sound.emptied discarding idle).1
      rw [left] at still
      cases still
    have somewhere (fresh : hook.discarded = false) (mounted : hook.mounted = true) :
        hook.timer = true ∨ hook.screen.saveError ≠ none ∨
          (∃ save, hook.queuedSave = some save ∧ save.revision = hook.latestRevision) ∨
          hook.persistedRevision = hook.latestRevision := by
      rcases sound.somewhere fresh mounted with timer | error | ⟨save, queued | underway, last⟩ | stored
      · exact Or.inl timer
      · exact Or.inr (Or.inl error)
      · exact Or.inr (Or.inr (Or.inl ⟨save, queued, last⟩))
      · rw [left] at underway
        cases underway
      · exact Or.inr (Or.inr (Or.inr stored))
    rw [WorkspacePersistence.drainSettled]
    split
    case isTrue queued =>
      have head : Head localeCompare { hook with drain := .idle } := { sound with
        free, nothing, somewhere
        revision := none_
        awaited }
      exact head.drainSaveQueue
    case isFalse empty =>
      exact { sound with
        phase := .idle rfl free nothing none_ (Option.not_isSome_iff_eq_none.mp empty)
        emptied := fun discarding idle => (awaited discarding idle).elim
        somewhere := by
          intro fresh mounted
          rcases somewhere fresh mounted with timer | error | ⟨save, queued, last⟩ | stored
          · exact Or.inl timer
          · exact Or.inr (Or.inl error)
          · exact Or.inr (Or.inr (Or.inl ⟨save, Or.inl queued, last⟩))
          · exact Or.inr (Or.inr (Or.inr stored)) }

/-- A discard stops the timer and the queue, and saves when nothing else does. -/
theorem Sound.discardWorkspace (sound : Sound localeCompare hook) : Sound localeCompare hook.discardWorkspace := by
  rw [WorkspacePersistence.discardWorkspace]
  cases discard : hook.discard with
  | draining | saving => exact sound
  | idle =>
    dsimp only
    cases drain : hook.drain with
    | idle =>
      cases sound.phase with
      | discarding _ busy =>
        rw [discard] at busy
        cases busy
      | saving _ still | leaving still =>
        rw [drain] at still
        cases still
      | idle _ _ nothing none_ =>
        have sent : revisions (hook.sent ++ [discardRequest]) = revisions hook.sent := by
          rw [revisions_append, discardRequest, Option.toList_none, List.append_nil]
        exact { sound with
          phase := .discarding rfl rfl (congrArg (· ++ [discardRequest]) nothing) none_ rfl
          sorted := sent.symm ▸ sound.sorted
          latest := sent.symm ▸ sound.latest
          queued := fun _ none => by cases none
          requested := fun _ => rfl
          quiet := fun _ => ⟨rfl, rfl, rfl⟩
          emptied := fun _ idle => by cases idle
          somewhere := fun fresh => by cases fresh
          stored := fun fresh => by cases fresh }
    | saving save =>
      cases sound.phase with
      | idle still | discarding still | leaving still =>
        rw [drain] at still
        cases still
      | saving save' busy _ one some_ pending _ =>
        obtain rfl := Drain.saving.inj (drain.symm.trans busy)
        exact { sound with
          phase := .saving save rfl (fun busy => by cases busy) one some_ pending (fun _ none => by cases none)
          queued := fun _ none => by cases none
          requested := fun _ => rfl
          quiet := fun _ => ⟨rfl, rfl, rfl⟩
          emptied := fun _ idle => by cases idle
          somewhere := fun fresh => by cases fresh
          stored := fun fresh => by cases fresh }
    | leaving =>
      cases sound.phase with
      | idle still | discarding still | saving _ still =>
        rw [drain] at still
        cases still
      | leaving _ _ nothing none_ =>
        exact { sound with
          phase := .leaving rfl (fun busy => by cases busy) nothing none_
          queued := fun _ none => by cases none
          requested := fun _ => rfl
          quiet := fun _ => ⟨rfl, rfl, rfl⟩
          emptied := fun _ idle => by cases idle
          somewhere := fun fresh => by cases fresh
          stored := fun fresh => by cases fresh }

/-- A discard that waited saves its empty snapshot once the drain loop is gone. -/
theorem Sound.discardContinued (sound : Sound localeCompare hook) (waiting : hook.discard = .draining) :
    Sound localeCompare hook.discardContinued := by
  have discarding : hook.discarding = true := sound.requested (by rw [waiting]; decide)
  obtain ⟨discarded, timer, queued⟩ := sound.quiet discarding
  rw [WorkspacePersistence.discardContinued]
  cases drain : hook.drain with
  | saving _ | leaving => exact sound
  | idle =>
    cases sound.phase with
    | discarding _ busy =>
      rw [waiting] at busy
      cases busy
    | saving _ still | leaving still =>
      rw [drain] at still
      cases still
    | idle _ _ nothing none_ =>
      have sent : revisions (hook.sent ++ [discardRequest]) = revisions hook.sent := by
        rw [revisions_append, discardRequest, Option.toList_none, List.append_nil]
      exact { sound with
        phase := .discarding rfl rfl (congrArg (· ++ [discardRequest]) nothing) none_ queued
        sorted := sent.symm ▸ sound.sorted
        latest := sent.symm ▸ sound.latest
        queued := fun save some_ => absurd (queued.symm.trans some_) (by simp)
        requested := fun _ => discarding
        emptied := fun _ idle => by cases idle
        somewhere := fun fresh => absurd (discarded.symm.trans fresh) (by decide)
        stored := fun fresh => absurd (discarded.symm.trans fresh) (by decide) }

/-- Flushing does not look at the promise of a discard. -/
theorem flushWorkspace_discard (discard : Discard) :
    { hook.flushWorkspace localeCompare with discard } = { hook with discard }.flushWorkspace localeCompare := by
  simp only [flushWorkspace, beginSaveDrain, drainSaveQueue, callSave]
  split
  · rfl
  split
  · rfl
  split
  · rfl
  cases hook.drain <;> rfl

/-- The reply to a discard: the empty snapshot is stored, or the user sees the error
and the newest tabs are queued again. -/
theorem Sound.discardReplied (sound : Sound localeCompare hook) (unblocked : hook.recoveryBlocked = false)
    (busy : hook.discard = .saving) (stored : Bool) : Sound localeCompare (hook.discardReplied localeCompare stored) := by
  obtain ⟨discarded, timer, queued⟩ := sound.quiet (sound.requested (by rw [busy]; decide))
  have requested {P : Prop} (fresh : hook.discarded = false) : P := absurd (discarded.symm.trans fresh) (by decide)
  cases sound.phase with
  | idle _ free | saving _ _ free | leaving _ free => exact absurd busy free
  | discarding still _ one none_ _ =>
    have erased : hook.inFlight.erase { revision := none, tabs := [] } = [] := by
      rw [one, discardRequest, List.erase_cons_head]
    rw [WorkspacePersistence.discardReplied]
    cases stored with
    | true =>
      exact { sound with
        phase := .idle still (fun busy => by cases busy) erased none_ queued
        requested := fun contrary => absurd rfl contrary
        emptied := fun _ _ => ⟨still, rfl⟩
        somewhere := requested
        stored := requested }
    | false =>
      simp only [Bool.false_eq_true, if_false, flushWorkspace_discard, setSaveError_eq, replySave]
      refine Sound.flushWorkspace ?_ unblocked
      exact { sound with
        phase := .idle still (fun busy => by cases busy) erased none_ queued
        requested := fun contrary => absurd rfl contrary
        quiet := fun contrary => by cases contrary
        emptied := fun contrary => by cases contrary
        somewhere := requested
        stored := requested }

end Pipa.WorkspacePersistence
