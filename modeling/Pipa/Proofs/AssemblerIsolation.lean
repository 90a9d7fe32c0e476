import Mathlib.Data.List.DropRight
import Pipa.Proofs.AssemblerExtents

/-! Isolation of transactions at their start boundaries. A GTID event settles its
predecessor; a BEGIN keeps whatever is open. The law therefore holds of exactly
the runs in which a BEGIN meets nothing but the GTID header announcing it. -/

namespace Pipa
open TransactionAssembler

/-- An explicit BEGIN: the parser's own entry point or a statement. -/
def AssemblerEvent.begins : AssemblerEvent → Bool
  | .begin _ => true
  | .query _ statement _ => isBegin (normalizeQuery statement)
  | _ => false

/-- A transaction-start boundary: a GTID event, a BEGIN or a START TRANSACTION. -/
def AssemblerEvent.starts : AssemblerEvent → Bool
  | .gtid .. => true
  | event => event.begins

/-- A transaction has begun once it was marked by a BEGIN or has changes; before
that it is only the GTID header of the transaction about to begin. -/
def PendingTransaction.Begun (pending : PendingTransaction) : Prop :=
  pending.explicit = true ∨ pending.changes ≠ []

/-- The pending transaction is a predecessor of the one the boundary starts. -/
def Precedes (pending : PendingTransaction) (event : AssemblerEvent) : Prop :=
  event.begins = true → pending.Begun

/-- The events after the latest transaction-start boundary. -/
def sinceStart (history : List AssemblerEvent) : List AssemblerEvent :=
  history.rtakeWhile fun event => !event.starts

/-- The assembler after a history. -/
abbrev assembled (analysisId : Uuid) (history : List AssemblerEvent) : TransactionAssembler :=
  Runs.run TransactionAssembler.step (.new analysisId) history

/-- The event made the assembler report the transaction. -/
def Reports (analysisId : Uuid) (history : List AssemblerEvent) (event : AssemblerEvent)
    (transaction : BinlogTransaction) : Prop :=
  (assembled analysisId (history ++ [event])).transactions =
    (assembled analysisId history).transactions ++ [transaction]

/-- The boundary law. A committed transaction holds only changes handed in since
the latest start boundary before its commit, and a predecessor still open at a
start boundary is reported there as incomplete. -/
structure Isolated (analysisId : Uuid) (events : List AssemblerEvent) : Prop where
  committed : ∀ transaction ∈ assemble analysisId events, transaction.status = .committed →
    ∃ history commit rest, events = history ++ commit :: rest ∧ Reports analysisId history commit transaction ∧
      ∃ handed, handed <:+ handedIn (sinceStart (history ++ [commit])) ∧
        List.Forall₂ Carries handed transaction.changes
  separate : ∀ history event rest, events = history ++ event :: rest → event.starts = true →
    ∀ pending, (assembled analysisId history).pending = some pending → Precedes pending event →
      ∃ transaction ∈ assemble analysisId events, Reports analysisId history event transaction ∧
        transaction.status = .incomplete ∧ transaction.changes = pending.changes

/-- A BEGIN is timely when nothing has begun before it. -/
def TimelyBegin (state : TransactionAssembler) (event : AssemblerEvent) : Prop :=
  event.begins = true → ∀ pending, state.pending = some pending → ¬ pending.Begun

/-- Every boundary is a BEGIN or a GTID event, with the step of its own. -/
theorem step_begins (state : TransactionAssembler) {event : AssemblerEvent} (begins : event.begins = true) :
    ∃ location, state.step event = state.onBegin location := by
  cases event with
  | begin location => exact ⟨location, rfl⟩
  | query schema statement location =>
    refine ⟨location, ?_⟩
    simp only [AssemblerEvent.begins] at begins
    simp only [TransactionAssembler.step, onQuery, begins, ↓reduceIte]
  | gtid | rowsQuery | rows | xid | updateEnd => cases begins

theorem begins_or_gtid {event : AssemblerEvent} (starts : event.starts = true) :
    event.begins = true ∨ ∃ gtid location, event = .gtid gtid location := by
  cases event with
  | gtid gtid location => exact Or.inr ⟨gtid, location, rfl⟩
  | begin | rowsQuery | rows | query | xid | updateEnd => exact Or.inl starts

theorem TimelyBegin.idle {state : TransactionAssembler} {event : AssemblerEvent}
    (timely : TimelyBegin state event) (begins : event.begins = true) : state.openChanges = [] := by
  cases held : state.pending with
  | none => simp [openChanges, held]
  | some pending =>
    have fresh := timely begins pending held
    simp only [PendingTransaction.Begun, not_or, not_not] at fresh
    simp [openChanges, held, fresh.2]

/-- The open changes were all handed in since the latest start boundary. -/
def OpenSince (history : List AssemblerEvent) (state : TransactionAssembler) : Prop :=
  ∃ handed, handed <:+ handedIn (sinceStart history) ∧ List.Forall₂ Carries handed state.openChanges

theorem OpenSince.empty (history : List AssemblerEvent) {state : TransactionAssembler}
    (empty : state.openChanges = []) : OpenSince history state :=
  ⟨[], List.nil_suffix, by rw [empty]; exact .nil⟩

theorem sinceStart_concat {history : List AssemblerEvent} {event : AssemblerEvent}
    (inside : event.starts = false) : sinceStart (history ++ [event]) = sinceStart history ++ [event] := by
  simp [sinceStart, inside]

/-- Changes absorbed by an event inside a transaction were handed in since its start. -/
theorem absorbed_since {history : List AssemblerEvent} {state : TransactionAssembler}
    (since : OpenSince history state) {event : AssemblerEvent} (inside : event.starts = false)
    {absorbed : List BinlogChange} (carried : List.Forall₂ Carries event.change?.toList absorbed) :
    ∃ handed, handed <:+ handedIn (sinceStart (history ++ [event])) ∧
      List.Forall₂ Carries handed (state.openChanges ++ absorbed) := by
  obtain ⟨handed, suffix, carries⟩ := since
  refine ⟨handed ++ event.change?.toList, ?_, List.rel_append carries carried⟩
  rw [sinceStart_concat inside, handedIn_concat]
  exact List.suffix_append_self_iff.mpr suffix

/-- While every BEGIN is timely, open changes never reach across a start boundary. -/
theorem OpenSince.step {history : List AssemblerEvent} {state : TransactionAssembler}
    (since : OpenSince history state) {event : AssemblerEvent} (timely : TimelyBegin state event) :
    OpenSince (history ++ [event]) (state.step event) := by
  cases starts : event.starts with
  | true =>
    apply OpenSince.empty
    rcases begins_or_gtid starts with begins | ⟨gtid, location, rfl⟩
    · obtain ⟨location, same⟩ := step_begins state begins
      rw [same, onBegin_openChanges]
      exact timely.idle begins
    · simp [TransactionAssembler.step, onGtid, openChanges, PendingTransaction.new]
  | false =>
    obtain ⟨absorbed, carried, effect⟩ := state.step_effect event
    have joined := absorbed_since since starts carried
    cases effect with
    | keeps _ _ _ changes =>
      rw [OpenSince, changes]
      exact joined
    | settles _ _ _ _ _ _ _ _ emptied => exact OpenSince.empty _ (by simp [openChanges, emptied])
    | displaces _ _ _ _ _ _ fresh => exact OpenSince.empty _ fresh

/-- A committed transaction is reported by an event inside it, together with the
changes open before that event. -/
theorem committed_since {analysisId : Uuid} {history : List AssemblerEvent} {commit : AssemblerEvent}
    {transaction : BinlogTransaction} (since : OpenSince history (assembled analysisId history))
    (reports : Reports analysisId history commit transaction) (committed : transaction.status = .committed) :
    ∃ handed, handed <:+ handedIn (sinceStart (history ++ [commit])) ∧
      List.Forall₂ Carries handed transaction.changes := by
  rw [Reports, assembled, Runs.run_concat] at reports
  cases starts : commit.starts with
  | true =>
    exfalso
    rcases begins_or_gtid starts with begins | ⟨gtid, location, rfl⟩
    · obtain ⟨location, same⟩ := step_begins (assembled analysisId history) begins
      simp [same, onBegin] at reports
    · cases held : (assembled analysisId history).pending with
      | none => simp [TransactionAssembler.step, onGtid, held] at reports
      | some pending =>
        simp only [TransactionAssembler.step, onGtid, held, Option.isSome_some, ↓reduceIte,
          finish_open _ _ held, List.append_cancel_left_eq, List.cons.injEq, and_true] at reports
        rw [← reports] at committed
        cases committed
  | false =>
    obtain ⟨absorbed, carried, effect⟩ := (assembled analysisId history).step_effect commit
    obtain ⟨handed, suffix, carries⟩ := absorbed_since since starts carried
    cases effect with
    | keeps _ transactions => simp [transactions] at reports
    | settles pending status settled changes extended analysis transactions =>
      rw [transactions, List.append_cancel_left_eq, List.cons.injEq] at reports
      obtain ⟨rfl, -⟩ := reports
      exact ⟨handed, suffix, by rw [PendingTransaction.close, changes]; exact carries⟩
    | displaces pending held nothing analysis transactions =>
      rw [transactions, List.append_cancel_left_eq, List.cons.injEq] at reports
      obtain ⟨rfl, -⟩ := reports
      cases committed

/-- Every transaction in the state was reported by some event of the history. -/
theorem reported_by_step (analysisId : Uuid) (events : List AssemblerEvent) :
    ∀ transaction ∈ (assembled analysisId events).transactions,
      ∃ history event rest, events = history ++ event :: rest ∧ Reports analysisId history event transaction := by
  induction events using List.reverseRecOn with
  | nil => simp [TransactionAssembler.new]
  | append_singleton history event ih =>
    intro transaction member
    have earlier (inside : transaction ∈ (assembled analysisId history).transactions) :
        ∃ before current rest, history ++ [event] = before ++ current :: rest ∧
          Reports analysisId before current transaction := by
      obtain ⟨before, current, rest, rfl, reports⟩ := ih transaction inside
      exact ⟨before, current, rest ++ [event], by simp, reports⟩
    rw [assembled, Runs.run_concat] at member
    rcases step_transactions (assembled analysisId history) event with kept | ⟨reported, appended⟩
    · exact earlier (kept ▸ member)
    · rw [appended] at member
      rcases List.mem_append.mp member with inside | last
      · exact earlier inside
      · obtain rfl := List.mem_singleton.mp last
        exact ⟨history, event, [], rfl, by rw [Reports, assembled, Runs.run_concat]; exact appended⟩

/-- What an event makes the assembler report stays in the produced transactions. -/
theorem Reports.mem_assemble {analysisId : Uuid} {history : List AssemblerEvent} {event : AssemblerEvent}
    {transaction : BinlogTransaction} (reports : Reports analysisId history event transaction)
    (rest : List AssemblerEvent) : transaction ∈ assemble analysisId (history ++ event :: rest) := by
  have kept : transaction ∈ (assembled analysisId (history ++ [event] ++ rest)).transactions := by
    induction rest using List.reverseRecOn with
    | nil =>
      rw [List.append_nil, reports]
      exact List.mem_append_right _ (List.mem_singleton_self transaction)
    | append_singleton rest next ih =>
      rw [← List.append_assoc, assembled, Runs.run_concat]
      rcases step_transactions (assembled analysisId (history ++ [event] ++ rest)) next with same | ⟨reported, appended⟩
      · exact same ▸ ih
      · exact appended ▸ List.mem_append_left _ ih
  rw [assemble, intoTransactions_eq]
  exact List.mem_append_left _ (by simpa using kept)

/-- A GTID event reports the transaction it finds open as incomplete. -/
theorem onGtid_reports {state : TransactionAssembler} {pending : PendingTransaction}
    (held : state.pending = some pending) (gtid : String) (location : EventLocation) :
    (state.onGtid gtid location).transactions =
      state.transactions ++ [pending.close state.analysisId state.nextSequence .incomplete] := by
  simp [onGtid, held, finish_open _ _ held]

/-- While every BEGIN is timely, transactions are isolated at their boundaries. -/
theorem isolated_of_timely {analysisId : Uuid} {events : List AssemblerEvent}
    (timely : Runs.Permitted TransactionAssembler.step TimelyBegin (.new analysisId) events) :
    Isolated analysisId events := by
  constructor
  · intro transaction member committed
    rw [assemble, intoTransactions_eq] at member
    rcases List.mem_append.mp member with settled | unfinished
    · obtain ⟨history, commit, rest, rfl, reports⟩ := reported_by_step analysisId events transaction settled
      have since : OpenSince history (assembled analysisId history) :=
        @Runs.permitted_history _ _ TransactionAssembler.step TimelyBegin (.new analysisId) OpenSince
          (OpenSince.empty [] rfl) (fun _ _ permitted since => since.step permitted) history
          (Runs.permitted_initial _ timely)
      exact ⟨history, commit, rest, rfl, reports, committed_since since reports committed⟩
    · obtain ⟨pending, -, rfl⟩ := by simpa using unfinished
      cases committed
  · intro history event rest same starts pending held precedes
    rcases begins_or_gtid starts with begins | ⟨gtid, location, rfl⟩
    · exact absurd (precedes begins) (timely history event rest same begins pending held)
    · let state := assembled analysisId history
      have reports : Reports analysisId history (.gtid gtid location)
          (pending.close state.analysisId state.nextSequence .incomplete) := by
        rw [Reports, assembled, Runs.run_concat]
        exact onGtid_reports held gtid location
      exact ⟨_, same ▸ reports.mem_assemble rest, reports, rfl, rfl⟩

/-- An untimely BEGIN merges the predecessor into its own transaction. -/
theorem Isolated.timely {analysisId : Uuid} {events : List AssemblerEvent} (isolated : Isolated analysisId events) :
    Runs.Permitted TransactionAssembler.step TimelyBegin (.new analysisId) events := by
  intro history event rest same begins pending held begun
  have starts : event.starts = true := by
    cases event with
    | gtid => rfl
    | begin | rowsQuery | rows | query | xid | updateEnd => exact begins
  obtain ⟨transaction, -, reports, -⟩ := isolated.separate history event rest same starts pending held (fun _ => begun)
  obtain ⟨location, kept⟩ := step_begins (assembled analysisId history) begins
  rw [Reports, assembled, Runs.run_concat, kept] at reports
  simp [onBegin] at reports

/-- Transactions are isolated in exactly the runs whose every BEGIN is timely. -/
theorem isolated_iff_timely (analysisId : Uuid) (events : List AssemblerEvent) :
    Isolated analysisId events ↔
      Runs.Permitted TransactionAssembler.step TimelyBegin (.new analysisId) events :=
  ⟨Isolated.timely, isolated_of_timely⟩

/-- Two BEGINs with no end between them: the rows of the first transaction are
committed with the second. -/
theorem begin_merges_predecessor : ¬ ∀ analysisId events, Isolated analysisId events := by
  intro isolated
  let location : EventLocation := ⟨"2024-01-01 00:00:00", 1, "mysql-bin.000001", 4, 120⟩
  let change : BinlogChange := ⟨"shop", "orders", .insert, 1, [], [], .exact, none⟩
  have timely := (isolated ⟨"run"⟩ [.begin location, .rows change location, .begin location, .rows change location,
    .xid 7 location]).timely
  refine timely [.begin location, .rows change location] (.begin location) _ rfl rfl _ rfl ?_
  exact Or.inl rfl

end Pipa
