import Mathlib.Data.List.Nodup
import Pipa.Assembler
import Pipa.Proofs.AssemblerExtents
import Std.Data.String.ToNat

/-! The table list of a transaction: one entry for each named table, holding the
sums over the changes of that table. -/

namespace Pipa.Assembler

theorem compareKeys_eq {left right : TableKey} (same : compareKeys left right = .eq) : left = right := by
  simp only [compareKeys, compareLex, compareOn, Ordering.then_eq_eq, Std.LawfulEqCmp.compare_eq_iff_eq] at same
  exact Prod.ext same.1 same.2

instance : Std.TransCmp compareKeys := by
  unfold compareKeys
  infer_instance

instance : Std.LawfulEqCmp compareKeys where
  eq_of_compare := compareKeys_eq

/-- The change is attributed to this table. -/
def Names (key : TableKey) (change : BinlogChange) : Prop := change.database = key.1 ∧ change.table = key.2

instance (key : TableKey) : DecidablePred (Names key) := fun change =>
  inferInstanceAs (Decidable (change.database = key.1 ∧ change.table = key.2))

/-- The rows that changes of one operation affected in one table. -/
def rowsOf (key : TableKey) (operation : BinlogOperation) (changes : List BinlogChange) : Nat :=
  ((changes.filter (fun change => Names key change ∧ change.operation = operation)).map BinlogChange.rowCount).sum

/-- The entry a table is due: its sums over all changes. -/
def tableTotals (changes : List BinlogChange) (key : TableKey) : BinlogTransactionTable where
  database := key.1
  table := key.2
  insertCount := rowsOf key .insert changes
  updateCount := rowsOf key .update changes
  deleteCount := rowsOf key .delete changes
  ddlCount := (changes.filter (fun change => Names key change ∧ change.operation = .ddl)).length
  rowChangeCount := ((changes.filter (fun change => Names key change)).map BinlogChange.rowCount).sum

theorem tallyChange_totals (changes : List BinlogChange) (change : BinlogChange) :
    tallyChange (tableTotals changes (change.database, change.table)) change =
      tableTotals (changes ++ [change]) (change.database, change.table) := by
  cases operation : change.operation
  all_goals simp [tallyChange, tableTotals, rowsOf, Names, operation]

theorem tableTotals_other (changes : List BinlogChange) (change : BinlogChange) {key : TableKey}
    (other : ¬ Names key change) : tableTotals (changes ++ [change]) key = tableTotals changes key := by
  simp [tableTotals, rowsOf, other]

theorem tableTotals_absent {changes : List BinlogChange} {change : BinlogChange}
    (absent : ¬ ∃ earlier ∈ changes, Names (change.database, change.table) earlier) :
    tableTotals changes (change.database, change.table) = emptyTable change := by
  have unnamed : ∀ earlier ∈ changes, ¬ Names (change.database, change.table) earlier :=
    fun earlier member names => absent ⟨earlier, member, names⟩
  have operations (operation : BinlogOperation) : changes.filter (fun earlier =>
      Names (change.database, change.table) earlier ∧ earlier.operation = operation) = [] :=
    List.filter_eq_nil_iff.mpr fun earlier member => by simp [unnamed earlier member]
  have named : changes.filter (fun earlier => Names (change.database, change.table) earlier) = [] :=
    List.filter_eq_nil_iff.mpr fun earlier member => by simp [unnamed earlier member]
  simp only [tableTotals, rowsOf, operations, named, emptyTable, List.map_nil, List.sum_nil, List.length_nil]

/-- The running map holds, after any list of changes, exactly the totals of the
named tables met so far. -/
theorem tallyTable_totals (changes : List BinlogChange) (key : TableKey) :
    (changes.foldl tallyTable ∅)[key]? =
      if key.2 ≠ "" ∧ ∃ change ∈ changes, Names key change then some (tableTotals changes key) else none := by
  induction changes using List.reverseRecOn generalizing key with
  | nil => simp
  | append_singleton changes change ih =>
    rw [List.foldl_concat, tallyTable]
    by_cases nameless : change.table = ""
    · rw [if_pos (by simp [nameless]), ih key]
      have other : key.2 ≠ "" → ¬ Names key change := fun named same => named (same.2.symm.trans nameless)
      by_cases named : key.2 = ""
      · simp [named]
      · simp [named, other named, tableTotals_other changes change (other named)]
    · rw [if_neg (by simpa [String.isEmpty_iff] using nameless)]
      simp only [Std.TreeMap.getElem?_insert]
      split
      next same =>
        obtain rfl := compareKeys_eq same
        have member : ∃ other ∈ changes ++ [change], Names (change.database, change.table) other :=
          ⟨change, by simp, rfl, rfl⟩
        rw [if_pos ⟨nameless, member⟩, ih, ← tallyChange_totals]
        by_cases seen : ∃ earlier ∈ changes, Names (change.database, change.table) earlier
        · rw [if_pos ⟨nameless, seen⟩, Option.getD_some]
        · rw [if_neg (fun both => seen both.2), Option.getD_none, tableTotals_absent seen]
      next different =>
        have other : ¬ Names key change := by
          rintro ⟨database, table⟩
          exact different (by rw [database, table]; exact Std.ReflCmp.compare_self)
        rw [ih key]
        simp [other, tableTotals_other changes change other]

/-- Exactly the named tables of the changes are listed, each with its totals. -/
theorem mem_summarizeTransactionTables (changes : List BinlogChange) (entry : BinlogTransactionTable) :
    entry ∈ summarizeTransactionTables changes ↔
      (entry.table ≠ "" ∧ ∃ change ∈ changes, Names (entry.database, entry.table) change) ∧
        entry = tableTotals changes (entry.database, entry.table) := by
  simp only [summarizeTransactionTables, List.mem_map, Prod.exists, exists_eq_right,
    Std.TreeMap.mem_toList_iff_getElem?_eq_some, tallyTable_totals]
  constructor
  · rintro ⟨database, table, found⟩
    obtain ⟨listed, same⟩ := Option.ite_none_right_eq_some.mp found
    obtain rfl := Option.some.inj same
    exact ⟨listed, rfl⟩
  · rintro ⟨listed, same⟩
    exact ⟨entry.database, entry.table, by rw [if_pos listed, ← same]⟩

/-- No table is listed twice. -/
theorem summarizeTransactionTables_nodup (changes : List BinlogChange) :
    ((summarizeTransactionTables changes).map fun entry => (entry.database, entry.table)).Nodup := by
  have keyed : ∀ pair ∈ (changes.foldl tallyTable ∅).toList, (pair.2.database, pair.2.table) = pair.1 := by
    rintro ⟨key, entry⟩ member
    rw [Std.TreeMap.mem_toList_iff_getElem?_eq_some, tallyTable_totals] at member
    obtain ⟨-, same⟩ := Option.ite_none_right_eq_some.mp member
    obtain rfl := Option.some.inj same
    rfl
  have keys : (summarizeTransactionTables changes).map (fun entry => (entry.database, entry.table)) =
      (changes.foldl tallyTable ∅).toList.map Prod.fst := by
    rw [summarizeTransactionTables, List.map_map]
    exact List.map_congr_left keyed
  rw [keys, List.Nodup, List.pairwise_map]
  exact Std.TreeMap.distinct_keys_toList.imp fun different same =>
    different (by rw [same]; exact Std.ReflCmp.compare_self)

end Pipa.Assembler

/-! Conservation: the produced transactions together hold the changes handed in,
once each and in order, under consecutive sequence numbers and exact totals. -/

namespace Pipa
open TransactionAssembler

/-- A reported transaction closed some pending state under this sequence number. -/
def ClosedAs (analysisId : Uuid) (sequence : Nat) (transaction : BinlogTransaction) : Prop :=
  ∃ pending status, transaction = PendingTransaction.close pending analysisId sequence status

/-- Where the changes of a history are: in the reported transactions, numbered
from one, and in the open transaction behind them. -/
structure Accounted (analysisId : Uuid) (history : List AssemblerEvent) (state : TransactionAssembler) : Prop where
  analysis : state.analysisId = analysisId
  sequence : state.nextSequence = state.transactions.length + 1
  numbered : List.Forall₂ (ClosedAs analysisId) (List.range' 1 state.transactions.length) state.transactions
  conserved : List.Forall₂ Carries (handedIn history)
    (state.transactions.flatMap BinlogTransaction.changes ++ state.openChanges)

/-- Reporting one more transaction continues the numbering. -/
private theorem numbered_concat {analysisId : Uuid} {transactions : List BinlogTransaction}
    (numbered : List.Forall₂ (ClosedAs analysisId) (List.range' 1 transactions.length) transactions)
    (pending : PendingTransaction) (status : BinlogTransactionStatus) :
    List.Forall₂ (ClosedAs analysisId)
      (List.range' 1 (transactions ++ [pending.close analysisId (transactions.length + 1) status]).length)
      (transactions ++ [pending.close analysisId (transactions.length + 1) status]) := by
  rw [List.length_append, List.length_singleton, List.range'_1_concat, Nat.add_comm 1]
  exact List.rel_append numbered (.cons ⟨pending, status, rfl⟩ .nil)

private theorem conserved_concat {history : List AssemblerEvent} {reported absorbed : List BinlogChange}
    (conserved : List.Forall₂ Carries (handedIn history) reported) {event : AssemblerEvent}
    (carried : List.Forall₂ Carries event.change?.toList absorbed) :
    List.Forall₂ Carries (handedIn (history ++ [event])) (reported ++ absorbed) := by
  rw [handedIn_concat]
  exact List.rel_append conserved carried

/-- One event keeps the account, whichever of its three effects it has. -/
theorem Accounted.step {analysisId : Uuid} {history : List AssemblerEvent} {state : TransactionAssembler}
    (accounted : Accounted analysisId history state) (event : AssemblerEvent) :
    Accounted analysisId (history ++ [event]) (state.step event) := by
  obtain ⟨analysis, sequence, numbered, conserved⟩ := accounted
  obtain ⟨absorbed, carried, effect⟩ := state.step_effect event
  have handed := conserved_concat conserved carried
  cases effect with
  | keeps same transactions next changes =>
    refine ⟨same.trans analysis, by rw [next, transactions, sequence], by rw [transactions]; exact numbered, ?_⟩
    rw [transactions, changes, ← List.append_assoc]
    exact handed
  | settles pending status _ changes _ same transactions next emptied =>
    rw [analysis, sequence] at transactions
    refine ⟨same.trans analysis, by rw [next, transactions, sequence]; simp, ?_, ?_⟩
    · rw [transactions]
      exact numbered_concat numbered pending status
    · simpa [transactions, openChanges, emptied, PendingTransaction.close, changes] using handed
  | displaces pending held nothing same transactions next fresh =>
    rw [analysis, sequence] at transactions
    refine ⟨same.trans analysis, by rw [next, transactions, sequence]; simp, ?_, ?_⟩
    · rw [transactions]
      exact numbered_concat numbered pending _
    · rw [transactions, fresh]
      simpa [nothing, PendingTransaction.close, openChanges, held] using handed

theorem run_accounted (analysisId : Uuid) (events : List AssemblerEvent) :
    Accounted analysisId events (Runs.run TransactionAssembler.step (.new analysisId) events) :=
  @Runs.run_history _ _ TransactionAssembler.step (.new analysisId) (Accounted analysisId)
    ⟨rfl, rfl, .nil, .nil⟩ (fun _ event accounted => accounted.step event) events

/-- The end of input reports the open transaction last. -/
theorem assemble_numbered (analysisId : Uuid) (events : List AssemblerEvent) :
    List.Forall₂ (ClosedAs analysisId) (List.range' 1 (assemble analysisId events).length)
      (assemble analysisId events) := by
  obtain ⟨analysis, sequence, numbered, -⟩ := run_accounted analysisId events
  rw [assemble, intoTransactions_eq, analysis, sequence]
  cases held : (Runs.run TransactionAssembler.step (.new analysisId) events).pending with
  | none => simpa using numbered
  | some pending => exact numbered_concat numbered pending _

/-- Every transaction closed some pending state. -/
theorem assemble_closed {analysisId : Uuid} {events : List AssemblerEvent} {transaction : BinlogTransaction}
    (member : transaction ∈ assemble analysisId events) : ∃ sequence, ClosedAs analysisId sequence transaction := by
  have numbered := assemble_numbered analysisId events
  obtain ⟨index, rfl⟩ := List.mem_iff_get.mp member
  exact ⟨_, numbered.get (numbered.length_eq.symm ▸ index.isLt) index.isLt⟩

theorem assemble_sequences (analysisId : Uuid) (events : List AssemblerEvent) :
    (assemble analysisId events).map BinlogTransaction.sequence = List.range' 1 (assemble analysisId events).length := by
  have paired : List.Forall₂ Eq (List.range' 1 (assemble analysisId events).length)
      ((assemble analysisId events).map BinlogTransaction.sequence) := by
    refine List.forall₂_map_right_iff.mpr ((assemble_numbered analysisId events).imp ?_)
    rintro sequence transaction ⟨pending, status, rfl⟩
    rfl
  rw [List.forall₂_eq_eq_eq] at paired
  exact paired.symm

theorem assemble_counted {analysisId : Uuid} {events : List AssemblerEvent} {transaction : BinlogTransaction}
    (member : transaction ∈ assemble analysisId events) :
    transaction.rowChangeCount = (transaction.changes.map BinlogChange.rowCount).sum := by
  obtain ⟨sequence, pending, status, rfl⟩ := assemble_closed member
  rfl

theorem assemble_conserved (analysisId : Uuid) (events : List AssemblerEvent) :
    List.Forall₂ Carries (handedIn events) ((assemble analysisId events).flatMap BinlogTransaction.changes) := by
  obtain ⟨-, -, -, conserved⟩ := run_accounted analysisId events
  rw [assemble, intoTransactions_eq]
  cases held : (Runs.run TransactionAssembler.step (.new analysisId) events).pending with
  | none => simpa [openChanges, held] using conserved
  | some pending => simpa [openChanges, held, PendingTransaction.close] using conserved

end Pipa
