import Pipa.BinlogRepository
import Pipa.Library.Pages

/-! Paging through a timeline: a client that follows the cursors sees exactly the
matching transactions, in order and each once. -/

namespace Pipa.BinlogRepository

/-- What a filter asks of a transaction: nothing, or a change that meets each of
its restrictions. -/
def Matches (filter : BinlogTransactionFilter) (transaction : BinlogTransaction) : Prop :=
  ((filter.database = none ∨ filter.database = some "") ∧ (filter.table = none ∨ filter.table = some "") ∧
      filter.operation = none) ∨
    ∃ change ∈ transaction.changes,
      (∀ database, filter.database = some database → database ≠ "" → change.database = database) ∧
      (∀ table, filter.table = some table → table ≠ "" → change.table = table) ∧
      ∀ operation, filter.operation = some operation → change.operation = operation

theorem optionalExactMatch_iff {filter : Option String} {actual : String} :
    optionalExactMatch filter actual = true ↔ ∀ expected, filter = some expected → expected ≠ "" → actual = expected := by
  cases filter with
  | none => simp [optionalExactMatch]
  | some expected =>
    by_cases empty : expected = ""
    · subst empty
      simp [optionalExactMatch, Option.filter]
    · have kept : (some expected).filter (fun value => !value.isEmpty) = some expected := by
        simp [Option.filter, empty]
      simp only [optionalExactMatch, kept, beq_iff_eq, Option.some.injEq]
      constructor
      · rintro rfl _ rfl _
        rfl
      · intro all
        exact (all expected rfl empty).symm

theorem optionalOperationMatch_iff {expected : Option BinlogOperation} {actual : BinlogOperation} :
    optionalOperationMatch expected actual = true ↔ ∀ operation, expected = some operation → actual = operation := by
  cases expected with
  | none => simp [optionalOperationMatch]
  | some expected =>
    simp only [optionalOperationMatch, beq_iff_eq, Option.some.injEq]
    constructor
    · rintro rfl _ rfl
      rfl
    · intro all
      exact (all expected rfl).symm

theorem unfiltered_iff {filter : BinlogTransactionFilter} :
    unfiltered filter = true ↔ (filter.database = none ∨ filter.database = some "") ∧
      (filter.table = none ∨ filter.table = some "") ∧ filter.operation = none := by
  have blank (value : Option String) : value.any (fun text => !text.isEmpty) = false ↔ value = none ∨ value = some "" := by
    cases value <;> simp
  simp only [unfiltered, Bool.and_eq_true, Bool.not_eq_true', blank, Option.isNone_iff_eq_none, and_assoc]

theorem changeMatches_iff {filter : BinlogTransactionFilter} {change : BinlogChange} :
    changeMatches filter change = true ↔
      (∀ database, filter.database = some database → database ≠ "" → change.database = database) ∧
      (∀ table, filter.table = some table → table ≠ "" → change.table = table) ∧
      ∀ operation, filter.operation = some operation → change.operation = operation := by
  simp only [changeMatches, Bool.and_eq_true, optionalExactMatch_iff, optionalOperationMatch_iff, and_assoc]

theorem summarizeTransaction_isSome {transaction : BinlogTransaction} {filter : BinlogTransactionFilter} :
    (summarizeTransaction transaction filter).isSome = true ↔ Matches filter transaction := by
  rw [Matches, ← unfiltered_iff]
  simp only [← changeMatches_iff, summarizeTransaction, matchingRowChangeCount]
  by_cases all : unfiltered filter = true
  · simp [all]
  · by_cases empty : transaction.changes.filter (changeMatches filter) = []
    · simpa [all, empty] using List.filter_eq_nil_iff.mp empty
    · obtain ⟨change, member⟩ := List.exists_mem_of_ne_nil _ empty
      obtain ⟨inside, matching⟩ := List.mem_filter.mp member
      simpa [all, empty] using ⟨change, inside, matching⟩

instance (filter : BinlogTransactionFilter) : DecidablePred (Matches filter) :=
  fun _ => decidable_of_iff _ summarizeTransaction_isSome

theorem summarizeTransaction_sequence {transaction : BinlogTransaction} {filter : BinlogTransactionFilter}
    {summary : BinlogTransactionSummary} (summarized : summarizeTransaction transaction filter = some summary) :
    summary.sequence = transaction.sequence := by
  rw [summarizeTransaction] at summarized
  obtain ⟨count, _, shape⟩ := Option.bind_eq_some_iff.mp summarized
  rw [← Option.some.inj shape]

section Client
variable (timeline : Timeline) (filter : BinlogTransactionFilter)

/-- The summaries that a filter shows of the transactions behind a sequence. -/
def behind (sequence : Nat) : List BinlogTransactionSummary :=
  (timeline.transactions.filter (fun transaction => sequence < transaction.sequence)).filterMap (summarizeTransaction · filter)

/-- The sequence that a cursor stands for. -/
def cursorSequence (cursor : Option String) : Nat := (cursor.bind Text.parseU64).getD 0

/-- A cursor that paging can have led to. -/
def Issued (cursor : Option String) : Prop :=
  ∀ text, cursor = some text → ∃ sequence < 18446744073709551616, text = toString sequence

theorem paginateTransactions_issued {cursor : Option String} (issued : Issued cursor) (limit : Option Nat) :
    paginateTransactions timeline.transactions { filter with cursor, limit } = .ok {
      items := (behind timeline filter (cursorSequence cursor)).take (clampedLimit limit)
      nextCursor :=
        if clampedLimit limit < (behind timeline filter (cursorSequence cursor)).length then
          ((behind timeline filter (cursorSequence cursor)).take (clampedLimit limit)).getLast?.map
            (fun last => toString last.sequence)
        else none } := by
  have cut (matching : List BinlogTransactionSummary) (size : Nat) : size < (matching.take (size + 1)).length ↔ size < matching.length := by
    rw [List.length_take]
    omega
  cases cursor with
  | none =>
    simp only [paginateTransactions, pure, Except.pure, bind, Except.bind, Pages.take_succ_cut]
    simp only [cut]
    rfl
  | some text =>
    obtain ⟨sequence, small, rfl⟩ := issued text rfl
    simp only [paginateTransactions, Text.parseU64_toString small, pure, Except.pure, bind, Except.bind, Pages.take_succ_cut,
      cursorSequence, Option.bind_some, Option.getD_some]
    simp only [cut]
    rfl

theorem behind_increasing (sequence : Nat) :
    (behind timeline filter sequence).Pairwise (fun earlier later => earlier.sequence < later.sequence) := by
  refine List.Pairwise.filterMap _ ?_ (timeline.increasing.filter _)
  intro earlier later less first summarized second other
  rw [summarizeTransaction_sequence summarized, summarizeTransaction_sequence other]
  exact less

theorem behind_behind {earlier later : Nat} (le : earlier ≤ later) :
    behind timeline filter later = (behind timeline filter earlier).filter (fun summary => later < summary.sequence) := by
  rw [behind, behind, List.filter_filterMap, List.filterMap_filter, List.filterMap_filter]
  refine List.filterMap_congr fun transaction _ => ?_
  cases summarized : summarizeTransaction transaction filter with
  | none => simp
  | some summary =>
    have same := summarizeTransaction_sequence summarized
    by_cases after : later < transaction.sequence
    · simp [after, same, Nat.lt_of_le_of_lt le after, Option.filter]
    · by_cases between : earlier < transaction.sequence
      · simp [after, between, same, Option.filter]
      · simp [after, between]

theorem behind_small {sequence : Nat} {summary : BinlogTransactionSummary} (member : summary ∈ behind timeline filter sequence) :
    sequence < summary.sequence ∧ summary.sequence < 18446744073709551616 := by
  obtain ⟨transaction, inside, summarized⟩ := List.mem_filterMap.mp member
  obtain ⟨present, after⟩ := List.mem_filter.mp inside
  rw [summarizeTransaction_sequence summarized]
  exact ⟨of_decide_eq_true after, timeline.small transaction present⟩

theorem behind_zero : behind timeline filter 0 = timeline.transactions.filterMap (summarizeTransaction · filter) := by
  rw [behind, List.filter_eq_self.mpr]
  intro transaction member
  exact decide_eq_true (timeline.positive transaction member)

/-- The requests of a client that pages through a timeline with a limit for each turn. -/
def fetch (limits : Nat → Option Nat) (turn : Nat) (cursor : Option String) :
    Option (Pages.Page BinlogTransactionSummary String) :=
  match paginateTransactions timeline.transactions { filter with cursor, limit := limits turn } with
  | .ok page => some ⟨page.items, page.nextCursor⟩
  | .error _ => none

theorem one_le_clampedLimit (limit : Option Nat) : 1 ≤ clampedLimit limit := Nat.le_max_left _ _

theorem clampedLimit_le (limit : Option Nat) : clampedLimit limit ≤ 500 :=
  Nat.max_le.mpr ⟨by decide, Nat.min_le_right _ _⟩

/-- A page holds the front of what its cursor leaves open. Its last entry is where
the next page begins, and there is a next page when more is left. -/
theorem fetch_accounts (limits : Nat → Option Nat) (turn : Nat) {cursor : Option String} (issued : Issued cursor) :
    ∃ page, fetch timeline filter limits turn cursor = some page ∧ page.shown.length ≤ clampedLimit (limits turn) ∧
      Pages.Accounts (fun cursor => behind timeline filter (cursorSequence cursor)) Issued cursor page := by
  have answer := paginateTransactions_issued timeline filter issued (limits turn)
  have increasing := behind_increasing timeline filter (cursorSequence cursor)
  have beyond {later : Nat} := @behind_behind timeline filter (cursorSequence cursor) later
  have known {summary : BinlogTransactionSummary} := @behind_small timeline filter (cursorSequence cursor) summary
  generalize remaining : behind timeline filter (cursorSequence cursor) = left at answer increasing beyond known
  refine ⟨_, by rw [fetch, answer], (List.length_take_le ..), ?_⟩
  rcases Nat.lt_or_ge (clampedLimit (limits turn)) left.length with more | done
  · have nonempty : left.take (clampedLimit (limits turn)) ≠ [] := by
      have positive := one_le_clampedLimit (limits turn)
      rw [ne_eq, List.take_eq_nil_iff, not_or]
      exact ⟨by omega, List.ne_nil_of_length_pos (by omega)⟩
    obtain ⟨front, last, cut⟩ := (List.eq_nil_or_concat _).resolve_left nonempty
    rw [List.concat_eq_append] at cut
    have whole : left = front ++ last :: left.drop (clampedLimit (limits turn)) := by
      calc left = left.take (clampedLimit (limits turn)) ++ left.drop (clampedLimit (limits turn)) := (List.take_append_drop ..).symm
        _ = front ++ last :: left.drop (clampedLimit (limits turn)) := by rw [cut, List.append_assoc]; rfl
    obtain ⟨after, small⟩ := known (whole ▸ List.mem_append_right front (List.mem_cons_self ..))
    have rest : behind timeline filter last.sequence = left.drop (clampedLimit (limits turn)) := by
      rw [beyond (Nat.le_of_lt after)]
      rw [whole] at increasing
      conv_lhs => rw [whole]
      exact Pages.filter_behind increasing
    constructor
    · intro absent
      simp [more, cut] at absent
    · intro next named
      obtain rfl : toString last.sequence = next := by simpa [more, cut] using named
      have sequence : cursorSequence (some (toString last.sequence)) = last.sequence := by
        rw [cursorSequence, Option.bind_some, Text.parseU64_toString small, Option.getD_some]
      refine ⟨?_, nonempty, ?_, ?_⟩
      · intro text same
        exact ⟨last.sequence, small, (Option.some.inj same).symm⟩
      · rw [sequence, rest]
        exact List.ne_nil_of_length_pos (by rw [List.length_drop]; omega)
      · rw [sequence, rest, remaining]
        exact (List.take_append_drop ..).symm
  · constructor
    · intro _
      exact remaining.trans (List.take_of_length_le done).symm
    · intro next named
      simp [Nat.not_lt.mpr done] at named

theorem behind_zero_sequences : (behind timeline filter 0).map BinlogTransactionSummary.sequence =
    (timeline.transactions.filter (Matches filter)).map BinlogTransaction.sequence := by
  rw [behind_zero, List.map_filterMap, ← List.filterMap_eq_map, List.filterMap_filter]
  refine List.filterMap_congr fun transaction _ => ?_
  cases summarized : summarizeTransaction transaction filter with
  | none =>
    have other : ¬ Matches filter transaction := by simp [← summarizeTransaction_isSome, summarized]
    simp [other]
  | some summary =>
    have matching : Matches filter transaction := by simp [← summarizeTransaction_isSome, summarized]
    simp [matching, summarizeTransaction_sequence summarized]

end Client

/-- Following the cursors of a timeline from none ends, whatever limits are asked for.
The pages show the matching transactions in order and each once, none holds more than
its clamped limit, and only the page behind which none is left has no next cursor. -/
theorem pages_show_matching (timeline : Timeline) (filter : BinlogTransactionFilter) (limits : Nat → Option Nat) :
    ∃ pages, Pages.follow (fetch timeline filter limits) (timeline.transactions.length + 1) 0 none = some pages ∧
      Pages.shown pages = timeline.transactions.filterMap (summarizeTransaction · filter) ∧
      (Pages.shown pages).map BinlogTransactionSummary.sequence =
        (timeline.transactions.filter (Matches filter)).map BinlogTransaction.sequence ∧
      ∀ turn page, pages[turn]? = some page →
        1 ≤ clampedLimit (limits turn) ∧ clampedLimit (limits turn) ≤ 500 ∧ page.shown.length ≤ clampedLimit (limits turn) ∧
        (page.next = none ↔ ∀ transaction ∈ timeline.transactions, Matches filter transaction →
          ∃ summary ∈ Pages.shown (pages.take (turn + 1)), summary.sequence = transaction.sequence) := by
  have enough : (behind timeline filter (cursorSequence none)).length < timeline.transactions.length + 1 := by
    refine Nat.lt_succ_of_le ?_
    change (behind timeline filter 0).length ≤ _
    rw [behind_zero]
    exact List.length_filterMap_le ..
  have serves (turn : Nat) (cursor : Option String) (issued : Issued cursor) :
      ∃ page, fetch timeline filter limits turn cursor = some page ∧
        Pages.Accounts (fun cursor => behind timeline filter (cursorSequence cursor)) Issued cursor page := by
    obtain ⟨page, fetched, _, accounts⟩ := fetch_accounts timeline filter limits turn issued
    exact ⟨page, fetched, accounts⟩
  obtain ⟨pages, followed, all, each⟩ := Pages.follow_all serves (timeline.transactions.length + 1) 0 none (by simp [Issued]) enough
  change Pages.shown pages = behind timeline filter 0 at all
  refine ⟨pages, followed, all.trans (behind_zero timeline filter), by rw [all, behind_zero_sequences], ?_⟩
  intro turn page found
  obtain ⟨⟨asked, issued, answer⟩, ends⟩ := each turn page found
  have bounded : page.shown.length ≤ clampedLimit (limits turn) := by
    obtain ⟨_, fetched, bounded, _⟩ := fetch_accounts timeline filter limits (0 + turn) issued
    obtain rfl := Option.some.inj (fetched.symm.trans answer)
    rwa [Nat.zero_add] at bounded
  refine ⟨one_le_clampedLimit _, clampedLimit_le _, bounded, ends.trans ?_⟩
  change Pages.shown (pages.take (turn + 1)) = behind timeline filter 0 ↔ _
  have member_iff {sequence : Nat} : sequence ∈ (behind timeline filter 0).map BinlogTransactionSummary.sequence ↔
      ∃ transaction ∈ timeline.transactions, Matches filter transaction ∧ transaction.sequence = sequence := by
    rw [behind_zero_sequences]
    simp [List.mem_map, List.mem_filter, and_assoc]
  constructor
  · intro whole transaction member matching
    rw [whole]
    exact List.mem_map.mp (member_iff.mpr ⟨transaction, member, matching, rfl⟩)
  · intro shown
    have split : Pages.shown (pages.take (turn + 1)) ++ Pages.shown (pages.drop (turn + 1)) = behind timeline filter 0 := by
      rw [← all, Pages.shown, Pages.shown, ← List.flatMap_append, List.take_append_drop, Pages.shown]
    have increasing := behind_increasing timeline filter 0
    rw [← split] at increasing
    have apart := (List.pairwise_append.mp increasing).2.2
    -- an entry behind the page would be shown twice
    have nothing : Pages.shown (pages.drop (turn + 1)) = [] := by
      refine List.eq_nil_iff_forall_not_mem.mpr fun later member => ?_
      have present : later.sequence ∈ (behind timeline filter 0).map BinlogTransactionSummary.sequence :=
        List.mem_map_of_mem (split ▸ List.mem_append_right _ member)
      obtain ⟨transaction, inside, matching, same⟩ := member_iff.mp present
      obtain ⟨earlier, before, equal⟩ := shown transaction inside matching
      have less := apart earlier before later member
      omega
    rw [← split, nothing, List.append_nil]

end Pipa.BinlogRepository
