import Pipa.Assembler

/-! What one event can do to the assembler. Every entry point either keeps the
open transaction, possibly absorbing one change, or closes it after absorbing,
or closes it untouched and opens its successor. All later laws rest on this
inversion and never unfold an entry point again. -/

namespace Pipa
open BinlogTransactionStatus

/-- The change an event hands to the assembler: a rows event, or a statement
that is classified as a change. -/
def AssemblerEvent.change? : AssemblerEvent → Option BinlogChange
  | .rows change _ => some change
  | .query schema statement _ =>
    let normalized := TransactionAssembler.normalizeQuery statement
    if TransactionAssembler.isBegin normalized || Text.eqIgnoreAsciiCase normalized "COMMIT" ||
        Text.eqIgnoreAsciiCase normalized "ROLLBACK" then none
    else Assembler.classifyStatement schema normalized
  | _ => none

/-- The physical place of an event; a RowsQuery text is retained without one. -/
def AssemblerEvent.location? : AssemblerEvent → Option EventLocation
  | .rowsQuery _ => none
  | .gtid _ location | .begin location | .rows _ location | .query _ _ location | .xid _ location
  | .updateEnd location => some location

/-- The changes handed in by a list of events, in arrival order. -/
def handedIn (events : List AssemblerEvent) : List BinlogChange := events.filterMap AssemblerEvent.change?

theorem handedIn_concat (history : List AssemblerEvent) (event : AssemblerEvent) :
    handedIn (history ++ [event]) = handedIn history ++ event.change?.toList := by
  cases change : event.change? <;> simp [handedIn, change]

/-- A reported change is the one handed in, up to a statement text that a
RowsQuery event supplied for it. -/
def Carries (handed reported : BinlogChange) : Prop :=
  reported = handed ∨ handed.sql = none ∧ ∃ text, reported = { handed with sql := some text }

theorem Carries.refl (change : BinlogChange) : Carries change change := Or.inl rfl

namespace TransactionAssembler

/-- The changes of the transaction that is still open. -/
def openChanges (self : TransactionAssembler) : List BinlogChange :=
  self.pending.elim [] PendingTransaction.changes

/-- The physical range after an event: it starts where the transaction was
opened and ends with the last event that has a place. -/
def Extended : Option EventLocation → Option PendingTransaction → PendingTransaction → Prop
  | some location, none, after => after.fileName = location.fileName ∧
      after.startPosition = location.startPosition ∧ after.endPosition = location.endPosition
  | some location, some before, after => after.fileName = before.fileName ∧
      after.startPosition = before.startPosition ∧ after.endPosition = location.endPosition
  | none, before, after => before = some after

/-- What a step at `place` did: `absorbed` joined the open transaction, which then
stayed open or was settled; or a successor displaced it, still incomplete. -/
inductive Effect (place : Option EventLocation) (before : TransactionAssembler) (absorbed : List BinlogChange)
    (after : TransactionAssembler) : Prop where
  | keeps (analysis : after.analysisId = before.analysisId)
      (transactions : after.transactions = before.transactions)
      (sequence : after.nextSequence = before.nextSequence)
      (changes : after.openChanges = before.openChanges ++ absorbed)
      (kept : before.pending.isSome → after.pending.isSome)
      (extended : ∀ pending, after.pending = some pending → Extended place before.pending pending)
  | settles (pending : PendingTransaction) (status : BinlogTransactionStatus)
      (settled : status = committed ∨ status = rolledBack)
      (changes : pending.changes = before.openChanges ++ absorbed)
      (extended : Extended place before.pending pending)
      (analysis : after.analysisId = before.analysisId)
      (transactions : after.transactions =
        before.transactions ++ [pending.close before.analysisId before.nextSequence status])
      (sequence : after.nextSequence = before.nextSequence + 1)
      (emptied : after.pending = none)
  | displaces (pending : PendingTransaction)
      (held : before.pending = some pending) (nothing : absorbed = [])
      (analysis : after.analysisId = before.analysisId)
      (transactions : after.transactions =
        before.transactions ++ [pending.close before.analysisId before.nextSequence incomplete])
      (sequence : after.nextSequence = before.nextSequence + 1)
      (fresh : after.openChanges = [])
      (successor : ∃ pending, after.pending = some pending ∧ Extended place none pending)

section Operations

variable (self : TransactionAssembler) (location : EventLocation)

@[simp]
theorem modifyPending_transactions (edit : PendingTransaction → PendingTransaction) :
    (self.modifyPending edit).transactions = self.transactions := rfl

@[simp]
theorem modifyPending_analysisId (edit : PendingTransaction → PendingTransaction) :
    (self.modifyPending edit).analysisId = self.analysisId := rfl

@[simp]
theorem modifyPending_nextSequence (edit : PendingTransaction → PendingTransaction) :
    (self.modifyPending edit).nextSequence = self.nextSequence := rfl

@[simp]
theorem modifyPending_pending (edit : PendingTransaction → PendingTransaction) :
    (self.modifyPending edit).pending = self.pending.map edit := rfl

@[simp]
theorem ensurePending_transactions : (self.ensurePending location).transactions = self.transactions := by
  unfold ensurePending
  split <;> rfl

@[simp]
theorem ensurePending_analysisId : (self.ensurePending location).analysisId = self.analysisId := by
  unfold ensurePending
  split <;> rfl

@[simp]
theorem ensurePending_nextSequence : (self.ensurePending location).nextSequence = self.nextSequence := by
  unfold ensurePending
  split <;> rfl

/-- After `ensure_pending` a transaction is open, with the changes it had; any
edit that moves its end to the event extends it. -/
theorem ensurePending_pending :
    ∃ pending, (self.ensurePending location).pending = some pending ∧ pending.changes = self.openChanges ∧
      ∀ edited : PendingTransaction, edited.fileName = pending.fileName →
        edited.startPosition = pending.startPosition → edited.endPosition = location.endPosition →
        Extended (some location) self.pending edited := by
  cases held : self.pending with
  | none =>
    refine ⟨.new location, by simp [ensurePending, held], by simp [openChanges, held, PendingTransaction.new], ?_⟩
    intro edited file start last
    exact ⟨file, start, last⟩
  | some pending =>
    refine ⟨pending, by simp [ensurePending, held], by simp [openChanges, held], ?_⟩
    intro edited file start last
    exact ⟨file, start, last⟩

@[simp]
theorem updateEnd_openChanges : (self.updateEnd location).openChanges = self.openChanges := by
  cases held : self.pending <;> simp [updateEnd, openChanges, held]

/-- Closing an open transaction reports it and leaves nothing open. -/
theorem finish_open (status : BinlogTransactionStatus) {pending : PendingTransaction}
    (held : self.pending = some pending) :
    self.finish status = { self with
      pending := none
      pendingRowsQuery := none
      nextSequence := self.nextSequence + 1
      transactions := self.transactions ++ [pending.close self.analysisId self.nextSequence status] } := by
  simp [finish, held]

theorem finish_idle (status : BinlogTransactionStatus) (idle : self.pending = none) :
    self.finish status = self := by
  simp [finish, idle]

/-- Closing at a commit or rollback is a settling step, whatever was applied
to the open transaction before it. -/
theorem finish_settles {before : TransactionAssembler} {absorbed : List BinlogChange}
    {pending : PendingTransaction} {status : BinlogTransactionStatus} {place : Option EventLocation}
    (settled : status = committed ∨ status = rolledBack) (held : self.pending = some pending)
    (changes : pending.changes = before.openChanges ++ absorbed)
    (extended : Extended place before.pending pending)
    (analysis : self.analysisId = before.analysisId) (transactions : self.transactions = before.transactions)
    (sequence : self.nextSequence = before.nextSequence) :
    Effect place before absorbed (self.finish status) := by
  rw [finish_open _ _ held]
  exact .settles pending status settled changes extended analysis (by simp [transactions, analysis, sequence])
    (by simp [sequence]) rfl

/-- The end of input reports what is still open as incomplete. -/
theorem intoTransactions_eq : self.intoTransactions = self.transactions ++
    (self.pending.map (fun pending => pending.close self.analysisId self.nextSequence incomplete)).toList := by
  cases held : self.pending <;> simp [intoTransactions, finishInput, finish, held]

end Operations

theorem onBegin_effect (self : TransactionAssembler) (location : EventLocation) :
    Effect (some location) self [] (self.onBegin location) := by
  obtain ⟨pending, held, changes, extends_⟩ := self.ensurePending_pending location
  refine .keeps (by simp [onBegin]) (by simp [onBegin]) (by simp [onBegin]) ?_ ?_ ?_
  · simp [onBegin, openChanges, held, changes]
  · simp [onBegin, held]
  · intro after opened
    simp only [onBegin, modifyPending_pending, held, Option.map_some, Option.some.injEq] at opened
    subst after
    exact extends_ _ rfl rfl rfl

theorem onBegin_openChanges (self : TransactionAssembler) (location : EventLocation) :
    (self.onBegin location).openChanges = self.openChanges := by
  obtain ⟨pending, held, changes, -⟩ := self.ensurePending_pending location
  rw [← changes]
  simp [onBegin, openChanges, held]

theorem updateEnd_effect (self : TransactionAssembler) (location : EventLocation) :
    Effect (some location) self [] (self.updateEnd location) := by
  refine .keeps rfl rfl rfl (by simp) (by simp [updateEnd]) ?_
  intro after opened
  obtain ⟨pending, held, rfl⟩ := Option.map_eq_some_iff.mp opened
  rw [held]
  exact ⟨rfl, rfl, rfl⟩

theorem onGtid_effect (self : TransactionAssembler) (gtid : String) (location : EventLocation) :
    Effect (some location) self [] (self.onGtid gtid location) := by
  cases held : self.pending with
  | none =>
    refine .keeps ?_ ?_ ?_ ?_ ?_ ?_
    all_goals simp [onGtid, openChanges, held, PendingTransaction.new, Extended]
  | some pending =>
    refine .displaces pending held rfl ?_ ?_ ?_ ?_ ?_
    all_goals simp [onGtid, openChanges, held, finish_open, PendingTransaction.new, Extended]

/-- Closing at a COMMIT or ROLLBACK statement; without an open transaction it does nothing. -/
theorem updateEnd_finish_effect (self : TransactionAssembler) (location : EventLocation)
    (status : BinlogTransactionStatus) (settled : status = committed ∨ status = rolledBack) :
    Effect (some location) self [] ((self.updateEnd location).finish status) := by
  cases held : self.pending with
  | none =>
    rw [finish_idle _ _ (by simp [updateEnd, held])]
    exact self.updateEnd_effect location
  | some pending =>
    have moved : (self.updateEnd location).pending = some { pending with endPosition := location.endPosition } := by
      simp [updateEnd, held]
    exact finish_settles _ settled moved (by simp [openChanges, held]) (by rw [held]; exact ⟨rfl, rfl, rfl⟩) rfl rfl rfl

theorem onXid_effect (self : TransactionAssembler) (xid : Nat) (location : EventLocation) :
    Effect (some location) self [] (self.onXid xid location) := by
  obtain ⟨pending, held, changes, extends_⟩ := self.ensurePending_pending location
  have marked : ((self.ensurePending location).modifyPending fun pending =>
      { pending with xid := some (toString xid), endPosition := location.endPosition }).pending =
      some { pending with xid := some (toString xid), endPosition := location.endPosition } := by
    simp [held]
  exact finish_settles _ (Or.inl rfl) marked (by simp [changes]) (extends_ _ rfl rfl rfl) (by simp) (by simp) (by simp)

/-- Recording after `ensure_pending` appends the change to the open transaction. -/
theorem record_pending (self : TransactionAssembler) (change : BinlogChange) (location : EventLocation) :
    ∃ pending, ((self.ensurePending location).record change location).pending = some pending ∧
      pending.changes = self.openChanges ++ [change] ∧ Extended (some location) self.pending pending := by
  obtain ⟨pending, held, changes, extends_⟩ := self.ensurePending_pending location
  exact ⟨{ pending with endPosition := location.endPosition, changes := pending.changes ++ [change] },
    by simp only [record, modifyPending_pending, held, Option.map_some], by simp [changes], extends_ _ rfl rfl rfl⟩

/-- Recording in a state that differs from `ensure_pending` in the retained
RowsQuery text only keeps the transaction open with the change in it. -/
private theorem record_effect (self : TransactionAssembler) (change : BinlogChange) (location : EventLocation)
    (retained : Option String) :
    Effect (some location) self [change]
      (({ self.ensurePending location with pendingRowsQuery := retained }).record change location) := by
  obtain ⟨pending, held, changes, extended⟩ := self.record_pending change location
  have held' : (({ self.ensurePending location with pendingRowsQuery := retained }).record change location).pending =
      some pending := held
  refine .keeps (by simp [record]) (by simp [record]) (by simp [record]) ?_ ?_ ?_
  · rw [openChanges, held']
    exact changes
  · rw [held']
    exact fun _ => rfl
  · intro after opened
    rw [held'] at opened
    exact Option.some.inj opened ▸ extended

theorem onRows_effect (self : TransactionAssembler) (change : BinlogChange) (location : EventLocation) :
    ∃ reported, Carries change reported ∧ Effect (some location) self [reported] (self.onRows change location) := by
  cases text : change.sql with
  | some sql =>
    refine ⟨change, Carries.refl change, ?_⟩
    simp only [onRows, text, Option.isNone_some, Bool.false_eq_true, ↓reduceIte]
    exact self.record_effect change location (self.ensurePending location).pendingRowsQuery
  | none =>
    refine ⟨{ change with sql := (self.ensurePending location).pendingRowsQuery }, ?_, ?_⟩
    · cases retained : (self.ensurePending location).pendingRowsQuery with
      | none => exact Or.inl (by rw [← text])
      | some query => exact Or.inr ⟨text, query, rfl⟩
    · simp only [onRows, text, Option.isNone_none, ↓reduceIte]
      exact self.record_effect _ location none

/-- A classified statement joins the open transaction and may commit it at once. -/
theorem onQuery_change_effect (self : TransactionAssembler) {schema query : String}
    (location : EventLocation) {change : BinlogChange}
    (handed : (AssemblerEvent.query schema query location).change? = some change) :
    Effect (some location) self [change] (self.onQuery schema query location) := by
  simp only [AssemblerEvent.change?, Option.ite_none_left_eq_some, Bool.or_eq_true, not_or,
    Bool.not_eq_true] at handed
  obtain ⟨⟨⟨begins, commits⟩, rollsBack⟩, classified⟩ := handed
  obtain ⟨pending, held, changes, extended⟩ := self.record_pending change location
  simp only [onQuery, begins, commits, rollsBack, classified, held, Bool.false_eq_true, ↓reduceIte]
  split
  · exact finish_settles _ (Or.inl rfl) held changes extended (by simp [record]) (by simp [record]) (by simp [record])
  · exact self.record_effect change location (self.ensurePending location).pendingRowsQuery

theorem onQuery_boundary_effect (self : TransactionAssembler) {schema query : String}
    (location : EventLocation) (boundary : (AssemblerEvent.query schema query location).change? = none) :
    Effect (some location) self [] (self.onQuery schema query location) := by
  simp only [AssemblerEvent.change?] at boundary
  unfold onQuery
  simp only
  split
  · exact self.onBegin_effect location
  split
  · exact self.updateEnd_finish_effect location committed (Or.inl rfl)
  split
  · exact self.updateEnd_finish_effect location rolledBack (Or.inr rfl)
  next begins commits rollsBack =>
    have classified : Assembler.classifyStatement schema (normalizeQuery query) = none := by
      simpa [begins, commits, rollsBack] using boundary
    rw [classified]
    exact self.updateEnd_effect location

/-- The inversion: every event absorbs the change it hands in, if any, and then
keeps, settles or displaces the open transaction. -/
theorem step_effect (self : TransactionAssembler) (event : AssemblerEvent) :
    ∃ absorbed, List.Forall₂ Carries event.change?.toList absorbed ∧
      Effect event.location? self absorbed (self.step event) := by
  cases event with
  | gtid gtid location => exact ⟨[], .nil, self.onGtid_effect gtid location⟩
  | begin location => exact ⟨[], .nil, self.onBegin_effect location⟩
  | rowsQuery query =>
    exact ⟨[], .nil, .keeps rfl rfl rfl (by simp [step, onRowsQuery, openChanges]) id (fun _ same => same)⟩
  | rows change location =>
    obtain ⟨reported, carried, effect⟩ := self.onRows_effect change location
    exact ⟨[reported], .cons carried .nil, effect⟩
  | query schema query location =>
    cases handed : (AssemblerEvent.query schema query location).change? with
    | none =>
      have effect := self.onQuery_boundary_effect location handed
      exact ⟨[], .nil, effect⟩
    | some change =>
      have effect := self.onQuery_change_effect location handed
      exact ⟨[change], .cons (Carries.refl change) .nil, effect⟩
  | xid xid location => exact ⟨[], .nil, self.onXid_effect xid location⟩
  | updateEnd location => exact ⟨[], .nil, self.updateEnd_effect location⟩

/-- A step reports at most one transaction, behind those reported before. -/
theorem step_transactions (self : TransactionAssembler) (event : AssemblerEvent) :
    (self.step event).transactions = self.transactions ∨
      ∃ reported, (self.step event).transactions = self.transactions ++ [reported] := by
  obtain ⟨absorbed, -, effect⟩ := self.step_effect event
  cases effect with
  | keeps _ transactions => exact Or.inl transactions
  | settles _ _ _ _ _ _ transactions => exact Or.inr ⟨_, transactions⟩
  | displaces _ _ _ _ transactions => exact Or.inr ⟨_, transactions⟩

end TransactionAssembler
end Pipa
