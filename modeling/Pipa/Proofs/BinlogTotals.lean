import Pipa.BinlogRows
import Pipa.Library.Tallies
import Pipa.Proofs.AssemblerConservation

/-! The totals of an analysis agree with those of its transactions: changes, table
entries and the summary count the same rows, and the counters of a table split its rows. -/

namespace Pipa.Assembler
open Tallies

def changeKey (change : BinlogChange) : TableKey := (change.database, change.table)

def entryKey (entry : BinlogTransactionTable) : TableKey := (entry.database, entry.table)

/-- A counter of a table entry and what one change adds to it. -/
structure Counter where
  read : BinlogTransactionTable → Nat
  weight : BinlogChange → Nat
  totals : ∀ changes key, read (tableTotals changes key) = total changeKey weight changes key

private theorem filter_key (changes : List BinlogChange) (key : TableKey) :
    changes.filter (fun change => Names key change) = changes.filter (fun change => changeKey change = key) := by
  refine List.filter_congr fun change _ => decide_eq_decide.mpr ?_
  exact (@Prod.ext_iff _ _ (changeKey change) key).symm

/-- The changes of one operation, each with its weight, as one total. -/
private theorem sum_filter (weight : BinlogChange → Nat) (changes : List BinlogChange) (key : TableKey)
    (operation : BinlogOperation) :
    ((changes.filter (fun change => Names key change ∧ change.operation = operation)).map weight).sum =
      total changeKey (fun change => if change.operation = operation then weight change else 0) changes key := by
  induction changes with
  | nil => rfl
  | cons change changes ih =>
    rw [total_cons, ← ih]
    by_cases named : changeKey change = key
    · have names : Names key change := Prod.ext_iff.mp named
      by_cases same : change.operation = operation
      · simp [named, names, same]
      · simp [named, same]
    · have other : ¬ Names key change := fun names => named (Prod.ext_iff.mpr names)
      simp [named, other]

def insertCounter : Counter where
  read := BinlogTransactionTable.insertCount
  weight change := if change.operation = .insert then change.rowCount else 0
  totals changes key := sum_filter BinlogChange.rowCount changes key .insert

def updateCounter : Counter where
  read := BinlogTransactionTable.updateCount
  weight change := if change.operation = .update then change.rowCount else 0
  totals changes key := sum_filter BinlogChange.rowCount changes key .update

def deleteCounter : Counter where
  read := BinlogTransactionTable.deleteCount
  weight change := if change.operation = .delete then change.rowCount else 0
  totals changes key := sum_filter BinlogChange.rowCount changes key .delete

def ddlCounter : Counter where
  read := BinlogTransactionTable.ddlCount
  weight change := if change.operation = .ddl then 1 else 0
  totals changes key := by
    rw [← sum_filter (fun _ => 1), List.map_const', List.sum_replicate_nat, Nat.mul_one]
    rfl

def rowCounter : Counter where
  read := BinlogTransactionTable.rowChangeCount
  weight := BinlogChange.rowCount
  totals changes key := by rw [tableTotals, filter_key, total]

theorem entries_distinct (changes : List BinlogChange) : ((summarizeTransactionTables changes).map entryKey).Nodup :=
  summarizeTransactionTables_nodup changes

theorem entry_totals {changes : List BinlogChange} {entry : BinlogTransactionTable}
    (member : entry ∈ summarizeTransactionTables changes) : entry = tableTotals changes (entryKey entry) :=
  ((mem_summarizeTransactionTables changes entry).mp member).2

theorem mem_entries {changes : List BinlogChange} {key : TableKey} :
    key ∈ (summarizeTransactionTables changes).map entryKey ↔ key.2 ≠ "" ∧ ∃ change ∈ changes, changeKey change = key := by
  constructor
  · intro listed
    obtain ⟨entry, member, rfl⟩ := List.mem_map.mp listed
    obtain ⟨⟨named, change, inside, names⟩, -⟩ := (mem_summarizeTransactionTables changes entry).mp member
    exact ⟨named, change, inside, Prod.ext_iff.mpr names⟩
  · intro ⟨named, change, inside, same⟩
    apply List.mem_map.mpr
    exact ⟨tableTotals changes key, (mem_summarizeTransactionTables changes _).mpr
      ⟨⟨named, change, inside, Prod.ext_iff.mp same⟩, rfl⟩, rfl⟩

/-- What the entries of one named table count is what its changes come to. -/
theorem total_entries (counter : Counter) (changes : List BinlogChange) {key : TableKey} (named : key.2 ≠ "") :
    total entryKey counter.read (summarizeTransactionTables changes) key = total changeKey counter.weight changes key := by
  by_cases listed : key ∈ (summarizeTransactionTables changes).map entryKey
  · obtain ⟨entry, member, rfl⟩ := List.mem_map.mp listed
    rw [total_unique (entries_distinct changes) member, ← counter.totals, ← entry_totals member]
  · have unlisted : ∀ entry ∈ summarizeTransactionTables changes, entryKey entry ≠ key := by
      intro entry member same
      exact listed (List.mem_map.mpr ⟨entry, member, same⟩)
    have unchanged : ∀ change ∈ changes, changeKey change ≠ key := by
      intro change member same
      exact listed (mem_entries.mpr ⟨named, change, member, same⟩)
    rw [total_absent unlisted, total_absent unchanged]

/-- An entry of all transactions counts what their own entries of that table count together. -/
theorem read_entry (counter : Counter) {parts : List (List BinlogChange)} {entry : BinlogTransactionTable}
    (member : entry ∈ summarizeTransactionTables parts.flatten) :
    counter.read entry =
      (parts.map fun changes => total entryKey counter.read (summarizeTransactionTables changes) (entryKey entry)).sum := by
  have named : (entryKey entry).2 ≠ "" := (mem_entries.mp (List.mem_map.mpr ⟨entry, member, rfl⟩)).1
  have whole : counter.read entry = total changeKey counter.weight parts.flatten (entryKey entry) := by
    rw [← counter.totals, ← entry_totals member]
  rw [whole, ← List.flatMap_id', total_flatMap]
  exact congrArg List.sum (List.map_congr_left fun changes _ => (total_entries counter changes named).symm)

/-- Where only named tables have rows, the table entries count every row. -/
theorem sum_rowChangeCount {changes : List BinlogChange} (named : ∀ change ∈ changes, change.table = "" → change.rowCount = 0) :
    ((summarizeTransactionTables changes).map BinlogTransactionTable.rowChangeCount).sum =
      (changes.map BinlogChange.rowCount).sum := by
  have entries : (summarizeTransactionTables changes).map BinlogTransactionTable.rowChangeCount =
      ((summarizeTransactionTables changes).map entryKey).map (total changeKey BinlogChange.rowCount changes) := by
    rw [List.map_map]
    refine List.map_congr_left fun entry member => ?_
    have counted := rowCounter.totals changes (entryKey entry)
    rw [← entry_totals member] at counted
    exact counted
  rw [entries]
  apply sum_totals (entries_distinct changes)
  intro change member heavy
  exact mem_entries.mpr ⟨fun nameless => heavy (named change member nameless), change, member, rfl⟩

/-- Where data definition changes no rows, the rows of a table are its inserted,
updated and deleted ones. -/
theorem balanced {changes : List BinlogChange} (definitions : ∀ change ∈ changes, change.operation = .ddl → change.rowCount = 0)
    {entry : BinlogTransactionTable} (member : entry ∈ summarizeTransactionTables changes) :
    entry.insertCount + entry.updateCount + entry.deleteCount = entry.rowChangeCount := by
  have counted (counter : Counter) : counter.read entry = total changeKey counter.weight changes (entryKey entry) := by
    rw [← counter.totals, ← entry_totals member]
  change insertCounter.read entry + updateCounter.read entry + deleteCounter.read entry = rowCounter.read entry
  rw [counted, counted, counted, counted, ← total_add, ← total_add]
  refine total_congr fun change inside => ?_
  cases operation : change.operation with
  | insert => simp [insertCounter, updateCounter, deleteCounter, rowCounter, operation]
  | update => simp [insertCounter, updateCounter, deleteCounter, rowCounter, operation]
  | delete => simp [insertCounter, updateCounter, deleteCounter, rowCounter, operation]
  | ddl => simp [insertCounter, updateCounter, deleteCounter, rowCounter, operation, definitions change inside operation]

end Pipa.Assembler

namespace Pipa.BinlogParser
open Tallies Assembler

section Handed
variable {Reader Rows Value : Type} (mysql : RowsEvents Reader Rows Value)

/-- What is handed to the assembler as rows was decoded from rows events. -/
def Decoded (events : List AssemblerEvent) : Prop :=
  ∀ change location, AssemblerEvent.rows change location ∈ events →
    ∃ reader rows, change = (BinlogRows.decodeRowsEvent mysql reader rows location).1

variable {mysql} {events : List AssemblerEvent}

/-- A statement has no rows, whatever it is. -/
theorem classifyStatement_rowCount {schema query : String} {change : BinlogChange}
    (classified : classifyStatement schema query = some change) : change.rowCount = 0 := by
  obtain ⟨first, -, chosen⟩ := Option.bind_eq_some_iff.mp classified
  dsimp only at chosen
  split at chosen
  · obtain rfl := Option.some.inj chosen
    rfl
  split at chosen
  · obtain rfl := Option.some.inj chosen
    rfl
  split at chosen
  · obtain rfl := Option.some.inj chosen
    rfl
  split at chosen
  · obtain rfl := Option.some.inj chosen
    rfl
  · cases chosen

theorem handedIn_definitions (decoded : Decoded mysql events) :
    ∀ change ∈ handedIn events, change.operation = .ddl → change.rowCount = 0 := by
  intro change member definition
  obtain ⟨event, inside, handed⟩ := List.mem_filterMap.mp member
  cases event with
  | rows other location =>
    obtain rfl := Option.some.inj handed
    obtain ⟨reader, rows, rfl⟩ := decoded _ _ inside
    exact absurd definition (BinlogRows.decodeRowsEvent_operation mysql reader rows location)
  | query schema query location =>
    simp only [AssemblerEvent.change?, Option.ite_none_left_eq_some] at handed
    exact classifyStatement_rowCount handed.2
  | gtid | begin | rowsQuery | xid | updateEnd => cases handed

theorem assemble_definitions (decoded : Decoded mysql events) (analysisId : Uuid) :
    ∀ change ∈ (assemble analysisId events).flatMap BinlogTransaction.changes,
      change.operation = .ddl → change.rowCount = 0 := by
  intro change member
  obtain ⟨index, rfl⟩ := List.mem_iff_get.mp member
  have conserved := assemble_conserved analysisId events
  have carried := conserved.get (conserved.length_eq.symm ▸ index.isLt) index.isLt
  have source := handedIn_definitions decoded _ (List.get_mem (handedIn events) ⟨index, conserved.length_eq.symm ▸ index.isLt⟩)
  rcases carried with same | ⟨-, text, same⟩
  · exact (congrArg (fun change : BinlogChange => change.operation = .ddl → change.rowCount = 0) same).mpr source
  · exact (congrArg (fun change : BinlogChange => change.operation = .ddl → change.rowCount = 0) same).mpr source

end Handed

def summaryKey (table : BinlogTableSummary) : TableKey := (table.database, table.table)

/-- The counters of one table over the entries that transactions have for it. -/
def summed (counter : BinlogTransactionTable → Nat) (transactions : List BinlogTransaction) (key : TableKey) : Nat :=
  (transactions.map fun transaction => total entryKey counter transaction.tables key).sum

/-- A summary counts what the transactions count, as a whole and table by table. -/
structure Agrees (summary : BinlogSummary) (transactions : List BinlogTransaction) : Prop where
  rows : summary.rowChangeCount = (transactions.map BinlogTransaction.rowChangeCount).sum
  tableRows : summary.rowChangeCount = (summary.tables.map BinlogTableSummary.rowChangeCount).sum
  listed : ∀ key, key ∈ summary.tables.map summaryKey ↔
    ∃ transaction ∈ transactions, key ∈ transaction.tables.map entryKey
  distinct : (summary.tables.map summaryKey).Nodup
  inserts : ∀ table ∈ summary.tables,
    table.insertCount = summed BinlogTransactionTable.insertCount transactions (summaryKey table)
  updates : ∀ table ∈ summary.tables,
    table.updateCount = summed BinlogTransactionTable.updateCount transactions (summaryKey table)
  deletes : ∀ table ∈ summary.tables,
    table.deleteCount = summed BinlogTransactionTable.deleteCount transactions (summaryKey table)
  definitions : ∀ table ∈ summary.tables,
    table.ddlCount = summed BinlogTransactionTable.ddlCount transactions (summaryKey table)
  balanced : ∀ table ∈ summary.tables, table.insertCount + table.updateCount + table.deleteCount = table.rowChangeCount

/-- The table summary of an entry. -/
def tableSummary (entry : BinlogTransactionTable) : BinlogTableSummary where
  database := entry.database
  table := entry.table
  insertCount := entry.insertCount
  updateCount := entry.updateCount
  deleteCount := entry.deleteCount
  ddlCount := entry.ddlCount
  rowChangeCount := entry.rowChangeCount

private theorem summary_keys {timestampFromSeconds : Nat → String} {analysisId : Uuid} {files : List BinlogFileSummary}
    {startedAt endedAt : String} {status : BinlogAnalysisStatus} {state : ParserState} {transactions : List BinlogTransaction} :
    (buildSummary timestampFromSeconds analysisId files startedAt endedAt status state transactions).tables.map summaryKey =
      (summarizeTransactionTables (transactions.flatMap BinlogTransaction.changes)).map entryKey := by
  rw [buildSummary, List.map_map]
  rfl

section Summary
variable {Reader Rows Value : Type}

/-- The totals of a summary agree with its transactions, where the rows that an assembler was
handed come from rows events and changes without a table name have no rows. -/
theorem summary_agrees (mysql : RowsEvents Reader Rows Value) (timestampFromSeconds : Nat → String) (analysisId : Uuid)
    (files : List BinlogFileSummary) (startedAt endedAt : String) (status : BinlogAnalysisStatus) (state : ParserState)
    (events : List AssemblerEvent) (decoded : Decoded mysql events)
    (named : ∀ transaction ∈ assemble analysisId events, ∀ change ∈ transaction.changes,
      change.table = "" → change.rowCount = 0) :
    Agrees (buildSummary timestampFromSeconds analysisId files startedAt endedAt status state (assemble analysisId events))
      (assemble analysisId events) := by
  have tables : ∀ transaction ∈ assemble analysisId events,
      transaction.tables = summarizeTransactionTables transaction.changes := by
    intro transaction member
    obtain ⟨sequence, pending, status, rfl⟩ := assemble_closed member
    rfl
  have counted : ∀ transaction ∈ assemble analysisId events,
      transaction.rowChangeCount = (transaction.changes.map BinlogChange.rowCount).sum := fun _ => assemble_counted
  have definitions := assemble_definitions decoded analysisId
  generalize assemble analysisId events = transactions at *
  have rows : (transactions.map BinlogTransaction.rowChangeCount).sum =
      ((transactions.flatMap BinlogTransaction.changes).map BinlogChange.rowCount).sum := by
    rw [List.map_congr_left counted, List.map_flatMap, List.flatMap, List.sum_flatten, List.map_map]
    rfl
  have same (counter : Counter) {entry : BinlogTransactionTable}
      (member : entry ∈ summarizeTransactionTables (transactions.flatMap BinlogTransaction.changes)) :
      counter.read entry = summed counter.read transactions (entryKey entry) := by
    rw [read_entry counter member, summed, List.map_map]
    refine congrArg List.sum (List.map_congr_left fun transaction inside => ?_)
    rw [Function.comp_apply, tables transaction inside]
  have entries {motive : BinlogTableSummary → Prop}
      (each : ∀ entry ∈ summarizeTransactionTables (transactions.flatMap BinlogTransaction.changes),
        motive (tableSummary entry)) : ∀ table ∈ (buildSummary timestampFromSeconds analysisId files startedAt endedAt
        status state transactions).tables, motive table := by
    intro table member
    obtain ⟨entry, inside, rfl⟩ := List.mem_map.mp member
    exact each entry inside
  constructor
  case rows => rfl
  case tableRows =>
    have attributed : ∀ change ∈ transactions.flatMap BinlogTransaction.changes, change.table = "" → change.rowCount = 0 := by
      intro change member nameless
      obtain ⟨transaction, inside, held⟩ := List.mem_flatMap.mp member
      exact named transaction inside change held nameless
    have listed := sum_rowChangeCount attributed
    exact rows.trans (listed.symm.trans (by rw [buildSummary, List.map_map]; rfl))
  case listed =>
    intro key
    rw [summary_keys, mem_entries]
    constructor
    · intro ⟨nonempty, change, member, names⟩
      obtain ⟨transaction, inside, held⟩ := List.mem_flatMap.mp member
      refine ⟨transaction, inside, ?_⟩
      rw [tables transaction inside]
      exact mem_entries.mpr ⟨nonempty, change, held, names⟩
    · intro ⟨transaction, inside, listed⟩
      rw [tables transaction inside] at listed
      obtain ⟨nonempty, change, held, names⟩ := mem_entries.mp listed
      exact ⟨nonempty, change, List.mem_flatMap.mpr ⟨transaction, inside, held⟩, names⟩
  case distinct =>
    rw [summary_keys]
    exact entries_distinct _
  case inserts => exact entries fun entry member => same insertCounter member
  case updates => exact entries fun entry member => same updateCounter member
  case deletes => exact entries fun entry member => same deleteCounter member
  case definitions => exact entries fun entry member => same ddlCounter member
  case balanced => exact entries fun entry member => balanced definitions member

/-- A decoder whose every rows event inserts one row into `shop.orders`. -/
def orderRows : RowsEvents Unit Unit Unit where
  kind _ := .writeRows
  numColumns _ := 1
  columnsBeforeImage _ := none
  columnsAfterImage _ := some [true]
  tableMap _ _ := some ⟨"shop", "orders", some [some "id"]⟩
  rows _ _ := [some (none, some [()])]
  decodeBinlogValue _ := .null

def orderLocation : EventLocation := ⟨"2024-01-01T00:00:00Z", 1, "mysql-bin.000001", 4, 120⟩

def orderEvents : List AssemblerEvent :=
  [.rows (BinlogRows.decodeRowsEvent orderRows () () orderLocation).1 orderLocation, .xid 7 orderLocation]

theorem summary_agrees_order :
    Agrees (buildSummary (fun _ => "") ⟨"run"⟩ [] "" "" .complete (.new ⟨"run"⟩) (assemble ⟨"run"⟩ orderEvents))
      (assemble ⟨"run"⟩ orderEvents) := by
  apply summary_agrees orderRows
  · intro change location member
    rcases List.mem_cons.mp member with same | later
    · obtain ⟨rfl, rfl⟩ := AssemblerEvent.rows.inj same
      exact ⟨(), (), rfl⟩
    · cases List.mem_singleton.mp later
  · intro transaction member change held nameless
    obtain rfl := List.mem_singleton.mp member
    obtain rfl := List.mem_singleton.mp held
    exact absurd nameless (by decide)

end Summary

end Pipa.BinlogParser
