import Pipa.Proofs.AssemblerIsolation

/-! The text of a RowsQuery event. It is retained until a rows event takes it or a
transaction is closed; a boundary that closes none leaves it to the next transaction. -/

namespace Pipa
open TransactionAssembler

/-- A statement that ends a transaction. -/
def AssemblerEvent.concludes : AssemblerEvent → Bool
  | .query _ statement _ =>
    Text.eqIgnoreAsciiCase (normalizeQuery statement) "COMMIT" || Text.eqIgnoreAsciiCase (normalizeQuery statement) "ROLLBACK"
  | _ => false

def AssemblerEvent.isXid : AssemblerEvent → Bool
  | .xid .. => true
  | _ => false

/-- A GTID event, a BEGIN, a COMMIT, a ROLLBACK or an XID. -/
def AssemblerEvent.bounds (event : AssemblerEvent) : Bool := event.starts || event.concludes || event.isXid

/-- A rows event without a statement of its own, which takes the retained text. -/
def AssemblerEvent.takesText : AssemblerEvent → Bool
  | .rows change _ => change.sql.isNone
  | _ => false

/-- The text is that of the latest RowsQuery event, no boundary has come since, and no
rows event has taken it. -/
def Attributable (history : List AssemblerEvent) (text : String) : Prop :=
  ∃ before between, history = before ++ .rowsQuery text :: between ∧
    ∀ event ∈ between, event.bounds = false ∧ event.takesText = false ∧ ∀ query, event ≠ .rowsQuery query

/-- A boundary meets no retained text, or closes the transaction it was retained in. -/
def ClearsText (state : TransactionAssembler) (event : AssemblerEvent) : Prop :=
  event.bounds = true → state.pendingRowsQuery = none ∨ event.isXid = true ∨ state.pending.isSome = true ∧ event.begins = false

variable {state : TransactionAssembler}

theorem finish_pendingRowsQuery (status : BinlogTransactionStatus) :
    (state.finish status).pendingRowsQuery = if state.pending.isSome then none else state.pendingRowsQuery := by
  rw [TransactionAssembler.finish]
  cases state.pending <;> simp

theorem ensurePending_pendingRowsQuery (location : EventLocation) :
    (state.ensurePending location).pendingRowsQuery = state.pendingRowsQuery := by
  rw [TransactionAssembler.ensurePending]
  split <;> rfl

theorem onBegin_pendingRowsQuery (location : EventLocation) : (state.onBegin location).pendingRowsQuery = state.pendingRowsQuery :=
  ensurePending_pendingRowsQuery location

theorem onGtid_pendingRowsQuery (gtid : String) (location : EventLocation) :
    (state.onGtid gtid location).pendingRowsQuery = if state.pending.isSome then none else state.pendingRowsQuery := by
  rw [TransactionAssembler.onGtid]
  dsimp only
  split
  case isTrue opened => rw [finish_pendingRowsQuery, if_pos opened]
  case isFalse => rfl

theorem onXid_pendingRowsQuery (xid : Nat) (location : EventLocation) : (state.onXid xid location).pendingRowsQuery = none := by
  obtain ⟨pending, held, -, -⟩ := state.ensurePending_pending location
  rw [TransactionAssembler.onXid, finish_pendingRowsQuery, modifyPending_pending, held]
  rfl

theorem updateEnd_finish_pendingRowsQuery (location : EventLocation) (status : BinlogTransactionStatus) :
    ((state.updateEnd location).finish status).pendingRowsQuery = if state.pending.isSome then none else state.pendingRowsQuery := by
  rw [finish_pendingRowsQuery, TransactionAssembler.updateEnd, modifyPending_pending, Option.isSome_map]
  rfl

/-- A boundary leaves no text behind exactly when it meets none or closes its transaction. -/
theorem step_clears_iff {event : AssemblerEvent} (bounds : event.bounds = true) :
    (state.step event).pendingRowsQuery = none ↔ ClearsText state event := by
  have closing (status : TransactionAssembler) (outcome : status.pendingRowsQuery =
      if state.pending.isSome then none else state.pendingRowsQuery) (other : event.isXid = false) (inside : event.begins = false) :
      status.pendingRowsQuery = none ↔ ClearsText state event := by
    rw [outcome, ClearsText, other, inside]
    cases state.pending <;> simp [bounds]
  cases begins : event.begins with
  | true =>
    obtain ⟨location, same⟩ := step_begins state begins
    have other : event.isXid = false := by
      cases event with
      | xid => cases begins
      | gtid | begin | rowsQuery | rows | query | updateEnd => rfl
    rw [same, onBegin_pendingRowsQuery, ClearsText, other, begins]
    simp [bounds]
  | false =>
    cases event with
    | gtid gtid location => exact closing _ (onGtid_pendingRowsQuery gtid location) rfl rfl
    | xid xid location => exact iff_of_true (onXid_pendingRowsQuery xid location) fun _ => .inr (.inl rfl)
    | query schema statement location =>
      have apart : isBegin (normalizeQuery statement) = false := begins
      refine closing _ ?_ rfl begins
      rw [TransactionAssembler.step, onQuery]
      dsimp only
      rw [if_neg (by simp [apart])]
      split
      · exact updateEnd_finish_pendingRowsQuery location .committed
      split
      · exact updateEnd_finish_pendingRowsQuery location .rolledBack
      case isFalse commits rollsBack =>
        have concludes : (Text.eqIgnoreAsciiCase (normalizeQuery statement) "COMMIT" ||
            Text.eqIgnoreAsciiCase (normalizeQuery statement) "ROLLBACK") = true := by
          simpa [AssemblerEvent.bounds, AssemblerEvent.starts, begins, AssemblerEvent.concludes, AssemblerEvent.isXid] using bounds
        simp [commits, rollsBack] at concludes
    | begin => cases begins
    | rowsQuery | rows | updateEnd => cases bounds

theorem onQuery_keeps_text {schema statement text : String} {location : EventLocation}
    (inside : (AssemblerEvent.query schema statement location).bounds = false)
    (retained : (state.onQuery schema statement location).pendingRowsQuery = some text) : state.pendingRowsQuery = some text := by
  have apart : isBegin (normalizeQuery statement) = false ∧ Text.eqIgnoreAsciiCase (normalizeQuery statement) "COMMIT" = false ∧
      Text.eqIgnoreAsciiCase (normalizeQuery statement) "ROLLBACK" = false := by
    simpa [AssemblerEvent.bounds, AssemblerEvent.starts, AssemblerEvent.begins, AssemblerEvent.concludes, AssemblerEvent.isXid]
      using inside
  obtain ⟨begins, commits, rollsBack⟩ := apart
  rw [onQuery] at retained
  simp only [begins, commits, rollsBack, Bool.false_eq_true, ↓reduceIte] at retained
  split at retained
  · exact retained
  case h_2 change classified =>
    have recorded : ((state.ensurePending location).record change location).pendingRowsQuery = state.pendingRowsQuery :=
      ensurePending_pendingRowsQuery location
    split at retained
    · exact recorded.symm.trans retained
    case h_2 pending opened =>
      split at retained
      · rw [finish_pendingRowsQuery, opened] at retained
        cases retained
      · exact recorded.symm.trans retained

/-- Inside a transaction a text that is still retained was there before and was not taken. -/
theorem step_keeps_text {event : AssemblerEvent} {text : String} (inside : event.bounds = false)
    (other : ∀ query, event ≠ .rowsQuery query) (retained : (state.step event).pendingRowsQuery = some text) :
    state.pendingRowsQuery = some text ∧ event.takesText = false := by
  cases event with
  | gtid | begin | xid => cases inside
  | rowsQuery query => exact absurd rfl (other query)
  | updateEnd location => exact ⟨retained, rfl⟩
  | query schema statement location => exact ⟨onQuery_keeps_text inside retained, rfl⟩
  | rows change location =>
    rw [TransactionAssembler.step, onRows] at retained
    split at retained
    · cases retained
    case isFalse own =>
      exact ⟨(ensurePending_pendingRowsQuery location).symm.trans retained, Bool.eq_false_iff.mpr own⟩

/-- The text that would be attached is attributable. -/
theorem run_attributable (analysisId : Uuid) (events : List AssemblerEvent)
    (clears : Runs.Permitted TransactionAssembler.step ClearsText (.new analysisId) events) :
    ∀ text, (assembled analysisId events).pendingRowsQuery = some text → Attributable events text := by
  refine @Runs.permitted_history _ _ TransactionAssembler.step ClearsText (.new analysisId)
    (fun history state => ∀ text, state.pendingRowsQuery = some text → Attributable history text) ?_ ?_ events clears
  · intro text retained
    cases retained
  · intro history event permitted held text retained
    cases bounds : event.bounds with
    | true =>
      rw [(step_clears_iff bounds).mpr permitted] at retained
      cases retained
    | false =>
      by_cases query : ∃ query, event = .rowsQuery query
      · obtain ⟨query, rfl⟩ := query
        obtain rfl := Option.some.inj retained
        exact ⟨history, [], rfl, by simp⟩
      have other : ∀ query, event ≠ .rowsQuery query := fun text same => query ⟨text, same⟩
      obtain ⟨before, untaken⟩ := step_keeps_text bounds other retained
      obtain ⟨earlier, between, rfl, since⟩ := held text before
      refine ⟨earlier, between ++ [event], by simp, fun later member => ?_⟩
      rcases List.mem_append.mp member with inside | last
      · exact since later inside
      · obtain rfl := List.mem_singleton.mp last
        exact ⟨bounds, untaken, other⟩

/-- The change a rows event without a statement adds has the retained text. -/
theorem onRows_attaches {change : BinlogChange} (bare : change.sql = none) (location : EventLocation) :
    (state.step (.rows change location)).openChanges = state.openChanges ++ [{ change with sql := state.pendingRowsQuery }] := by
  have bareRows : change.sql.isNone = true := by rw [bare]; rfl
  obtain ⟨pending, held, changes, -⟩ := state.record_pending { change with sql := (state.ensurePending location).pendingRowsQuery } location
  rw [TransactionAssembler.step, onRows, if_pos bareRows, openChanges]
  have same : (({ state.ensurePending location with pendingRowsQuery := none }).record
      { change with sql := (state.ensurePending location).pendingRowsQuery } location).pending = some pending := held
  rw [same, Option.elim_some, changes, ensurePending_pendingRowsQuery]

/-- The last event is the one at the split or lies behind it. -/
theorem last_or_mem {α : Type} {before earlier between : List α} {event middle : α}
    (split : before ++ [event] = earlier ++ middle :: between) : event = middle ∨ event ∈ between := by
  have reversed : event :: before.reverse = between.reverse ++ middle :: earlier.reverse := by
    simpa using congrArg List.reverse split
  cases others : between.reverse with
  | nil =>
    rw [others] at reversed
    exact .inl (List.cons.inj reversed).1
  | cons last rest =>
    rw [others] at reversed
    refine .inr (List.mem_reverse.mp ?_)
    rw [others, (List.cons.inj reversed).1]
    exact List.mem_cons_self

def bareLocation : EventLocation := ⟨"2024-01-01 00:00:00", 1, "mysql-bin.000001", 4, 120⟩
def bareChange : BinlogChange := ⟨"shop", "orders", .insert, 1, [], [], .exact, none⟩

/-- Whatever rows event comes after a part of a run, the text it receives is attributable,
exactly when every boundary of the run meets no text or closes a transaction. -/
theorem attributed_iff (analysisId : Uuid) (events : List AssemblerEvent) :
    (∀ first rest, events = first ++ rest → ∀ change location text, change.sql = none →
        ((assembled analysisId first).step (.rows change location)).openChanges =
          (assembled analysisId first).openChanges ++ [{ change with sql := some text }] → Attributable first text) ↔
      Runs.Permitted TransactionAssembler.step ClearsText (.new analysisId) events := by
  have attached (history : List AssemblerEvent) (change : BinlogChange) (location : EventLocation) (text : String)
      (bare : change.sql = none) : ((assembled analysisId history).step (.rows change location)).openChanges =
        (assembled analysisId history).openChanges ++ [{ change with sql := some text }] ↔
          (assembled analysisId history).pendingRowsQuery = some text := by
    rw [onRows_attaches bare, List.append_right_inj, List.singleton_inj, BinlogChange.mk.injEq]
    simp
  constructor
  · intro attributed before event after same bounds
    by_contra stale
    have left : (assembled analysisId (before ++ [event])).pendingRowsQuery ≠ none := by
      rw [assembled, Runs.run_concat]
      exact fun cleared => stale ((step_clears_iff bounds).mp cleared bounds)
    obtain ⟨text, retained⟩ := Option.ne_none_iff_exists'.mp left
    obtain ⟨earlier, between, split, since⟩ := attributed (before ++ [event]) after (by simp [same]) bareChange bareLocation text rfl
      ((attached _ _ _ _ rfl).mpr retained)
    rcases last_or_mem split with rfl | inside
    · cases bounds
    · rw [(since event inside).1] at bounds
      cases bounds
  · rintro clears first rest rfl change location text bare received
    exact run_attributable analysisId first (Runs.permitted_initial _ clears) text ((attached _ _ _ _ bare).mp received)

/-- A RowsQuery event before the BEGIN that opens a transaction: the text goes to the rows behind it. -/
theorem begin_keeps_text : ¬ ∀ analysisId events, ∀ first rest, events = first ++ rest → ∀ change location text, change.sql = none →
    ((assembled analysisId first).step (.rows change location)).openChanges =
      (assembled analysisId first).openChanges ++ [{ change with sql := some text }] → Attributable first text := by
  intro attributed
  obtain ⟨earlier, between, split, since⟩ := attributed ⟨"run"⟩ ([.rowsQuery "INSERT INTO a VALUES (1)"] ++ [.begin bareLocation])
    _ [] (List.append_nil _).symm bareChange bareLocation "INSERT INTO a VALUES (1)" rfl rfl
  rcases last_or_mem split with same | inside
  · cases same
  · cases (since _ inside).1

end Pipa
