import Pipa.Library.Decimal
import Pipa.Library.Sorting
import Pipa.LocalStore
import Mathlib.Data.Prod.Lex
import Mathlib.Data.String.Basic
import Mathlib.Data.List.Lex

/-! The query history keeps the newest entries, whatever the order in which they come:
texts of timestamps stand in the order of time, and every call prunes what all the calls
so far would prune together. -/

namespace Pipa.WorkspaceRepository
open Statements LocalStore Decimal Sorting

/-! ### The order of time -/

/-- A timestamp from its largest unit to its smallest. -/
def Timestamp.fields (timestamp : Timestamp) : List Nat :=
  [timestamp.year, timestamp.month, timestamp.day, timestamp.hour, timestamp.minute, timestamp.second, timestamp.nanosecond]

/-- The numbers as they are written: a leap second is the sixtieth. -/
def Timestamp.shown (timestamp : Timestamp) : List Nat :=
  [timestamp.year, timestamp.month, timestamp.day, timestamp.hour, timestamp.minute,
    timestamp.second + timestamp.nanosecond / 1000000000, timestamp.nanosecond % 1000000000]

def timestampShape : List (Nat × Char) := [(4, '-'), (2, '-'), (2, 'T'), (2, ':'), (2, ':'), (2, '.'), (9, 'Z')]

theorem Timestamp.fits (timestamp : Timestamp) : Fits timestampShape timestamp.shown := by
  obtain ⟨year, month, day, hour, minute, second, nanosecond, years, months, days, hours, minutes, seconds, nanoseconds, -⟩ := timestamp
  refine .cons ?_ (.cons ?_ (.cons ?_ (.cons ?_ (.cons ?_ (.cons ?_ (.cons ?_ .nil))))))
  all_goals
    dsimp only
    omega

theorem zeroPadded_toList {width number : Nat} (positive : 0 < width) (fits : number < 10 ^ width) :
    (Text.zeroPadded width number).toList = padded width number := by
  rw [← padded_toDigits positive fits, Text.zeroPadded, String.toList_ofList]

theorem formatTimestamp_written (timestamp : Timestamp) :
    (formatTimestamp timestamp).toList = written timestampShape timestamp.shown := by
  obtain ⟨year, month, day, hour, minute, second, nanosecond, years, months, days, hours, minutes, seconds, nanoseconds, -⟩ := timestamp
  have parts : (Text.zeroPadded 4 year).toList = padded 4 year ∧ (Text.zeroPadded 2 month).toList = padded 2 month ∧
      (Text.zeroPadded 2 day).toList = padded 2 day ∧ (Text.zeroPadded 2 hour).toList = padded 2 hour ∧
      (Text.zeroPadded 2 minute).toList = padded 2 minute ∧
      (Text.zeroPadded 2 (second + nanosecond / 1000000000)).toList = padded 2 (second + nanosecond / 1000000000) ∧
      (Text.zeroPadded 9 (nanosecond % 1000000000)).toList = padded 9 (nanosecond % 1000000000) := by
    refine ⟨?_, ?_, ?_, ?_, ?_, ?_, ?_⟩
    all_goals
      apply zeroPadded_toList (by omega)
      omega
  have marks : "-".toList = ['-'] ∧ "T".toList = ['T'] ∧ ":".toList = [':'] ∧ ".".toList = ['.'] ∧ "Z".toList = ['Z'] :=
    ⟨rfl, rfl, rfl, rfl, rfl⟩
  simp only [formatTimestamp, Timestamp.shown, timestampShape, written, String.toList_append, parts, marks, List.append_assoc,
    List.cons_append, List.nil_append]

/-- Texts of timestamps stand in the order of time. -/
theorem formatTimestamp_lt {earlier later : Timestamp} :
    formatTimestamp earlier < formatTimestamp later ↔ earlier.fields < later.fields := by
  rw [String.lt_iff_toList_lt, formatTimestamp_written, formatTimestamp_written, written_lt earlier.fits later.fits]
  have bound := earlier.second_bound
  have bound' := later.second_bound
  have small := earlier.nanosecond_bound
  have small' := later.nanosecond_bound
  have leap := earlier.leap
  have leap' := later.leap
  simp only [Timestamp.shown, Timestamp.fields, List.cons_lt_cons_iff, List.not_lt_nil, and_false, or_false]
  omega

/-! ### One call -/

/-- What a row is kept by. -/
def age (row : QueryHistoryEntry) : String ×ₗ String := toLex (row.executedAt, row.id.hyphenated)

theorem newerFirst_iff {left right : QueryHistoryEntry} : newerFirst left right = true ↔ age right ≤ age left := by
  rw [newerFirst, age, age, Prod.Lex.toLex_le_toLex, Bool.or_eq_true, Bool.and_eq_true, decide_eq_true_eq, decide_eq_true_eq,
    decide_eq_true_eq]

theorem newerFirst_total (left right : QueryHistoryEntry) : newerFirst left right = true ∨ newerFirst right left = true := by
  rw [newerFirst_iff, newerFirst_iff]
  exact le_total _ _

theorem newerFirst_trans (left middle right : QueryHistoryEntry) (before : newerFirst left middle = true)
    (behind : newerFirst middle right = true) : newerFirst left right = true := by
  rw [newerFirst_iff] at before behind ⊢
  exact behind.trans before

theorem newerFirst_id {left right : QueryHistoryEntry} (before : newerFirst left right = true)
    (behind : newerFirst right left = true) : left.id = right.id := by
  rw [newerFirst_iff] at before behind
  have same := toLex.injective (le_antisymm behind before)
  have texts := (Prod.mk.inj same).2
  cases hid : left.id
  cases hid' : right.id
  rw [hid, hid'] at texts
  exact congrArg Uuid.mk texts

theorem rows_antisymm {rows : List QueryHistoryEntry} (distinct : (rows.map QueryHistoryEntry.id).Nodup) :
    ∀ left ∈ rows, ∀ right ∈ rows, newerFirst left right = true → newerFirst right left = true → left = right :=
  fun _ here _ there before behind => List.inj_on_of_nodup_map distinct here there (newerFirst_id before behind)

abbrev HistoryTable := KeyedTable QueryHistoryEntry.id

/-- The table with the entry, unless its id is there already. -/
def inserted (entry : QueryHistoryEntry) (table : HistoryTable) : HistoryTable := (table.insert entry).getD table

/-- The table without the rows behind the thousandth. -/
def pruned (table : HistoryTable) : HistoryTable :=
  table.deleteWhere fun row => row.id ∈ ((table.rows.mergeSort newerFirst).drop 1000).map QueryHistoryEntry.id

theorem recordQueryHistory_ok {entry : QueryHistoryEntry} {faults : Faults} {store next : LocalStore}
    (ended : recordQueryHistory entry faults store = (.ok (), next)) : next.queryHistory = pruned (inserted entry store.queryHistory) := by
  rw [recordQueryHistory, mapError_ok, transaction_ok] at ended
  obtain ⟨_, begun, first, ended⟩ := bind_ok.mp ended
  obtain ⟨_, filled, second, ended⟩ := bind_ok.mp ended
  obtain ⟨_, trimmed, third, last⟩ := bind_ok.mp ended
  have opened := (execute_ok.mp first).2
  have stored := (execute_ok.mp second).2
  have deleted := (execute_ok.mp third).2
  have committed := (execute_ok.mp last).2
  obtain rfl := (Prod.mk.inj (Except.ok.inj opened)).2
  obtain rfl := (Prod.mk.inj (Except.ok.inj stored)).2
  obtain rfl := (Prod.mk.inj (Except.ok.inj deleted)).2
  obtain rfl := (Prod.mk.inj (Except.ok.inj committed)).2
  dsimp only
  rw [inserted]
  cases store.queryHistory.insert entry with
  | none => rfl
  | some queryHistory => rfl

/-- A pruned table holds the first thousand of its rows. -/
theorem pruned_sorted (table : HistoryTable) :
    (pruned table).rows.mergeSort newerFirst = (table.rows.mergeSort newerFirst).take 1000 := by
  have sorted := @List.pairwise_mergeSort _ newerFirst newerFirst_trans
    (fun left right => Bool.or_eq_true_iff.mpr (newerFirst_total left right)) table.rows
  apply mergeSort_unique newerFirst_total newerFirst_trans ?_ (sorted.sublist (List.take_sublist _ _)) (rows_antisymm (pruned table).distinct)
  have perm := List.mergeSort_perm table.rows newerFirst
  have parted := List.take_append_drop 1000 (table.rows.mergeSort newerFirst)
  rw [pruned, KeyedTable.deleteWhere]
  generalize (table.rows.mergeSort newerFirst).take 1000 = front at parted ⊢
  generalize (table.rows.mergeSort newerFirst).drop 1000 = back at parted ⊢
  rw [← parted] at perm
  have kept := perm.filter fun row => !decide (row.id ∈ back.map QueryHistoryEntry.id)
  rw [KeyedTable.filter_front ((perm.map QueryHistoryEntry.id).nodup_iff.mpr table.distinct)] at kept
  exact kept.symm

/-- A new row comes to the first thousand as it does to all rows. -/
theorem inserted_sorted {entry : QueryHistoryEntry} {table : HistoryTable} (fresh : ∀ row ∈ table.rows, row.id ≠ entry.id) :
    (inserted entry table).rows.mergeSort newerFirst =
      (table.rows.mergeSort newerFirst).orderedInsert (fun left right => newerFirst left right = true) entry := by
  cases added : table.insert entry with
  | none =>
    obtain ⟨row, listed, same⟩ := KeyedTable.insert_none added
    exact absurd same (fresh row listed)
  | some after =>
    have rows := (KeyedTable.insert_some added).2
    rw [inserted, added, Option.getD_some, rows]
    apply mergeSort_cons newerFirst_total newerFirst_trans
    rw [← rows]
    exact rows_antisymm after.distinct

/-! ### Runs -/

/-- Calls of the store that record these entries, the last one first; a call that fails
records nothing. -/
inductive Records (store : LocalStore) : List QueryHistoryEntry → LocalStore → Prop
  | start : Records store [] store
  | recorded {entries : List QueryHistoryEntry} {between after : LocalStore} {entry : QueryHistoryEntry} {faults : Faults}
      (earlier : Records store entries between) (ended : recordQueryHistory entry faults between = (.ok (), after)) :
    Records store (entry :: entries) after
  | failed {entries : List QueryHistoryEntry} {between after : LocalStore} {entry : QueryHistoryEntry} {faults : Faults}
      {error : AppError} (earlier : Records store entries between)
      (ended : recordQueryHistory entry faults between = (.error error, after)) : Records store entries after

theorem recordQueryHistory_clean (entry : QueryHistoryEntry) (faults : Faults) : (recordQueryHistory entry faults).Clean :=
  (clean_transaction _).mapError _

/-- The history is the first thousand of all the entries recorded. -/
theorem records_sorted {store after : LocalStore} {entries : List QueryHistoryEntry} (empty : store.queryHistory.rows = [])
    (records : Records store entries after) (distinct : (entries.map QueryHistoryEntry.id).Nodup) :
    after.queryHistory.rows.mergeSort newerFirst = (entries.mergeSort newerFirst).take 1000 := by
  induction records with
  | start => rw [empty, List.mergeSort_nil, List.take_nil]
  | @recorded entries between after entry faults earlier ended ih =>
    obtain ⟨new, distinct'⟩ := List.nodup_cons.mp distinct
    have sorted := ih distinct'
    have fresh : ∀ row ∈ between.queryHistory.rows, row.id ≠ entry.id := by
      intro row listed same
      apply new
      have inside : row ∈ (entries.mergeSort newerFirst).take 1000 := sorted ▸ (List.mergeSort_perm ..).mem_iff.mpr listed
      rw [← same]
      exact List.mem_map_of_mem ((List.mergeSort_perm ..).mem_iff.mp (List.mem_of_mem_take inside))
    rw [recordQueryHistory_ok ended, pruned_sorted, inserted_sorted fresh, sorted, take_orderedInsert,
      mergeSort_cons newerFirst_total newerFirst_trans (rows_antisymm distinct)]
  | failed earlier ended ih =>
    rw [recordQueryHistory_clean _ _ _ _ _ ended]
    exact ih distinct

/-! ### The newest entries -/

/-- An entry as it comes to a call, with its time. -/
structure HistoryEntry where
  id : Uuid
  connectionId : Uuid
  sqlText : String
  executedAt : Timestamp
deriving DecidableEq, Repr

def HistoryEntry.row (entry : HistoryEntry) : QueryHistoryEntry where
  id := entry.id
  connectionId := entry.connectionId
  sqlText := entry.sqlText
  executedAt := formatTimestamp entry.executedAt

/-- Later, or with a greater id at the same time. -/
def HistoryEntry.newer (other entry : HistoryEntry) : Bool :=
  entry.executedAt.fields < other.executedAt.fields ||
    (entry.executedAt.fields = other.executedAt.fields && entry.id.hyphenated < other.id.hyphenated)

theorem formatTimestamp_eq_iff {first second : Timestamp} :
    formatTimestamp first = formatTimestamp second ↔ first.fields = second.fields := by
  constructor
  · intro same
    rcases lt_trichotomy first.fields second.fields with before | equal | after
    · exact absurd same (ne_of_lt (formatTimestamp_lt.mpr before))
    · exact equal
    · exact absurd same.symm (ne_of_lt (formatTimestamp_lt.mpr after))
  · intro same
    rcases lt_trichotomy (formatTimestamp first) (formatTimestamp second) with before | equal | after
    · exact absurd same (ne_of_lt (formatTimestamp_lt.mp before))
    · exact equal
    · exact absurd same.symm (ne_of_lt (formatTimestamp_lt.mp after))

theorem newer_iff {other entry : HistoryEntry} : other.newer entry = true ↔ age entry.row < age other.row := by
  rw [age, age, Prod.Lex.toLex_lt_toLex, HistoryEntry.newer, Bool.or_eq_true, Bool.and_eq_true, decide_eq_true_eq,
    decide_eq_true_eq, decide_eq_true_eq]
  exact or_congr formatTimestamp_lt.symm (and_congr_left fun _ => formatTimestamp_eq_iff.symm)

/-- The rows with fewer than a thousand newer ones come first. -/
theorem mem_newest {entries : List QueryHistoryEntry} (distinct : (entries.map QueryHistoryEntry.id).Nodup) {row : QueryHistoryEntry} :
    row ∈ (entries.mergeSort newerFirst).take 1000 ↔
      row ∈ entries ∧ entries.countP (fun other => decide (age row < age other)) < 1000 := by
  have sorted := @List.pairwise_mergeSort _ newerFirst newerFirst_trans
    (fun left right => Bool.or_eq_true_iff.mpr (newerFirst_total left right)) entries
  have perm := List.mergeSort_perm entries newerFirst
  have apart := List.pairwise_map.mp ((perm.map QueryHistoryEntry.id).nodup_iff.mpr distinct)
  have strict : (entries.mergeSort newerFirst).Pairwise fun left right =>
      decide (age right < age left) = true ∧ decide (age left < age right) = false := by
    refine (sorted.and apart).imp fun {left right} both => ?_
    obtain ⟨before, different⟩ := both
    have ordered := newerFirst_iff.mp before
    have behind : ¬ age left ≤ age right := fun behind => different (newerFirst_id before (newerFirst_iff.mpr behind))
    exact ⟨decide_eq_true (not_le.mp behind), decide_eq_false (not_lt.mpr ordered)⟩
  rw [@mem_take_iff _ (fun other row => decide (age row < age other)) _ (fun row => decide_eq_false (lt_irrefl _)) strict,
    perm.mem_iff, perm.countP_eq]

section Recorded
variable {store after : LocalStore} {entries : List HistoryEntry} (empty : store.queryHistory.rows = [])
  (records : Records store (entries.map HistoryEntry.row) after) (distinct : (entries.map HistoryEntry.id).Nodup)
include empty records distinct

theorem records_perm : after.queryHistory.rows.Perm (((entries.map HistoryEntry.row).mergeSort newerFirst).take 1000) := by
  have ids : ((entries.map HistoryEntry.row).map QueryHistoryEntry.id).Nodup := by
    rwa [List.map_map]
  rw [← records_sorted empty records ids]
  exact (List.mergeSort_perm ..).symm

theorem records_mem (row : QueryHistoryEntry) : row ∈ after.queryHistory.rows ↔
    ∃ entry ∈ entries, entry.row = row ∧ entries.countP (fun other => other.newer entry) < 1000 := by
  have ids : ((entries.map HistoryEntry.row).map QueryHistoryEntry.id).Nodup := by
    rwa [List.map_map]
  rw [(records_perm empty records distinct).mem_iff, mem_newest ids, List.mem_map, List.countP_map]
  have counts (entry : HistoryEntry) : entries.countP ((fun other => decide (age entry.row < age other)) ∘ HistoryEntry.row) =
      entries.countP fun other => other.newer entry := by
    apply List.countP_congr
    intro other _
    rw [newer_iff, Function.comp_apply, decide_eq_true_eq]
  constructor
  · intro listed
    obtain ⟨written, few⟩ := listed
    obtain ⟨entry, member, same⟩ := written
    rw [← same, counts] at few
    exact ⟨entry, member, same, few⟩
  · intro listed
    obtain ⟨entry, member, same, few⟩ := listed
    rw [← counts, same] at few
    exact ⟨⟨entry, member, same⟩, few⟩

theorem records_length : after.queryHistory.rows.length = min 1000 entries.length := by
  rw [(records_perm empty records distinct).length_eq, List.length_take, (List.mergeSort_perm ..).length_eq, List.length_map]

end Recorded

/-- Recording an id that is held changes nothing, as long as there is nothing to prune. -/
theorem recordQueryHistory_again {store next : LocalStore} {entry : QueryHistoryEntry} {faults : Faults}
    (held : ∃ row ∈ store.queryHistory.rows, row.id = entry.id) (few : store.queryHistory.rows.length ≤ 1000)
    (ended : recordQueryHistory entry faults store = (.ok (), next)) : next.queryHistory.rows = store.queryHistory.rows := by
  have same : inserted entry store.queryHistory = store.queryHistory := by
    cases added : store.queryHistory.insert entry with
    | none => rw [inserted, added, Option.getD_none]
    | some after =>
      obtain ⟨row, listed, taken⟩ := held
      exact absurd (taken ▸ List.mem_map_of_mem listed) (KeyedTable.insert_some added).1
  have nothing : (store.queryHistory.rows.mergeSort newerFirst).drop 1000 = [] := by
    apply List.drop_eq_nil_of_le
    rwa [(List.mergeSort_perm ..).length_eq]
  rw [recordQueryHistory_ok ended, same, pruned, KeyedTable.deleteWhere, nothing]
  exact List.filter_eq_self.mpr fun row _ => rfl

/-- The history holds the thousand newest of the recorded entries, in whatever order they were
recorded; an id that it holds is not recorded again. -/
theorem records_newest {store after : LocalStore} {entries : List HistoryEntry} (empty : store.queryHistory.rows = [])
    (records : Records store (entries.map HistoryEntry.row) after) (distinct : (entries.map HistoryEntry.id).Nodup) :
    (∀ row, row ∈ after.queryHistory.rows ↔
      ∃ entry ∈ entries, entry.row = row ∧ entries.countP (fun other => other.newer entry) < 1000) ∧
    after.queryHistory.rows.length = min 1000 entries.length ∧
    (∀ (store' after' : LocalStore) (entries' : List HistoryEntry), entries'.Perm entries → store'.queryHistory.rows = [] →
      Records store' (entries'.map HistoryEntry.row) after' →
      ∀ row, row ∈ after'.queryHistory.rows ↔ row ∈ after.queryHistory.rows) ∧
    ∀ (entry : QueryHistoryEntry) (faults : Faults) (next : LocalStore), (∃ row ∈ after.queryHistory.rows, row.id = entry.id) →
      recordQueryHistory entry faults after = (.ok (), next) → next.queryHistory.rows = after.queryHistory.rows := by
  refine ⟨records_mem empty records distinct, records_length empty records distinct, ?_, ?_⟩
  · intro store' after' entries' perm empty' records' row
    have distinct' := (perm.map HistoryEntry.id).nodup_iff.mpr distinct
    rw [records_mem empty' records' distinct', records_mem empty records distinct]
    apply exists_congr
    intro entry
    rw [perm.mem_iff, perm.countP_eq]
  · intro entry faults next held ended
    refine recordQueryHistory_again held ?_ ended
    rw [records_length empty records distinct]
    exact Nat.min_le_left 1000 _

/-- A leap second, and the second behind it. -/
def leapSecond : HistoryEntry where
  id := ⟨"a"⟩
  connectionId := ⟨"c"⟩
  sqlText := "SELECT 1"
  executedAt := ⟨2016, 12, 31, 23, 59, 59, 1500000000, by decide, by decide, by decide, by decide, by decide, by decide, by decide, by decide⟩

def newYear : HistoryEntry where
  id := ⟨"b"⟩
  connectionId := ⟨"c"⟩
  sqlText := "SELECT 2"
  executedAt := ⟨2017, 1, 1, 0, 0, 0, 0, by decide, by decide, by decide, by decide, by decide, by decide, by decide, by decide⟩

theorem records_newest_leap : ∃ after, Records default [leapSecond.row, newYear.row] after ∧
    after.queryHistory.rows.length = 2 ∧ newYear.newer leapSecond = true := by
  have first : ∃ between, recordQueryHistory newYear.row (fun _ => none) default = (.ok (), between) := ⟨_, rfl⟩
  obtain ⟨between, first⟩ := first
  have second : ∃ after, recordQueryHistory leapSecond.row (fun _ => none) between = (.ok (), after) := ⟨_, rfl⟩
  obtain ⟨after, second⟩ := second
  have records : Records default ([leapSecond, newYear].map HistoryEntry.row) after := .recorded (.recorded .start first) second
  exact ⟨after, records, (records_newest rfl records (by decide)).2.1, by decide⟩

end Pipa.WorkspaceRepository
