import Mathlib.Data.List.Lex
import Pipa.Library.Sorting
import Pipa.ResultView

/-! Sorting result rows by a column. Two rules compare cells, by numbers and by the
collator, and they make one order together exactly where no other text stands between two
numbers the wrong way round. -/

namespace Pipa.ResultView
open ResultExport

section Compare
variable (floatText : UInt64 → String) (collator : Collator)

def plainText (cell : Option CellValue) : String := cellValueToPlainText floatText cell

/-- The number by which a cell is compared with other numbers. -/
def cellNumber (cell : Option CellValue) : Option ℚ :=
  if isNull cell then none else finiteNumber (plainText floatText cell)

section Cases
variable {floatText collator} {left right : Option CellValue}

theorem cellNumber_some {number : ℚ} (reads : cellNumber floatText left = some number) :
    isNull left = false ∧ finiteNumber (plainText floatText left) = some number := by
  rw [cellNumber] at reads
  split at reads
  · cases reads
  next solid => exact ⟨Bool.eq_false_iff.mpr solid, reads⟩

theorem compare_nulls (here : isNull left = true) (there : isNull right = true) :
    compareCellValues floatText collator left right = 0 := if_pos ⟨here, there⟩

theorem compare_null_left (here : isNull left = true) (there : isNull right = false) :
    compareCellValues floatText collator left right = 1 := by
  simp [compareCellValues, here, there]

theorem compare_null_right (here : isNull left = false) (there : isNull right = true) :
    compareCellValues floatText collator left right = -1 := by
  simp [compareCellValues, here, there]

theorem compare_numbers {number number' : ℚ} (here : cellNumber floatText left = some number)
    (there : cellNumber floatText right = some number') :
    compareCellValues floatText collator left right = number - number' := by
  obtain ⟨solid, reads⟩ := cellNumber_some here
  obtain ⟨solid', reads'⟩ := cellNumber_some there
  rw [plainText] at reads reads'
  simp [compareCellValues, solid, solid', reads, reads']

theorem compare_texts (here : isNull left = false) (there : isNull right = false)
    (other : cellNumber floatText left = none ∨ cellNumber floatText right = none) :
    compareCellValues floatText collator left right = collator.compare (plainText floatText left) (plainText floatText right) := by
  simp only [cellNumber, here, there, Bool.false_eq_true, if_false] at other
  simp only [compareCellValues, here, there, Bool.false_eq_true, and_self, if_false]
  split
  next reads reads' =>
    rw [plainText] at other
    rw [plainText] at other
    rw [reads, reads'] at other
    rcases other with impossible | impossible <;> cases impossible
  next => rfl

end Cases

/-- The comparison of cells is an order up to ties, with the nulls at its end. -/
structure Preordered (cells : List (Option CellValue)) : Prop where
  reflexive : ∀ cell ∈ cells, compareCellValues floatText collator cell cell = 0
  opposite : ∀ left ∈ cells, ∀ right ∈ cells,
    compareCellValues floatText collator left right < 0 ↔ 0 < compareCellValues floatText collator right left
  trans : ∀ left ∈ cells, ∀ middle ∈ cells, ∀ right ∈ cells, compareCellValues floatText collator left middle ≤ 0 →
    compareCellValues floatText collator middle right ≤ 0 → compareCellValues floatText collator left right ≤ 0
  nullsLast : ∀ left ∈ cells, ∀ right ∈ cells, isNull left = false → isNull right = true →
    compareCellValues floatText collator left right < 0

/-- No text that is no number stands behind the greater and before the lesser of two
numbers, unless all three are tied. -/
def Aligned (cells : List (Option CellValue)) : Prop :=
  ∀ lesser ∈ cells, ∀ greater ∈ cells, ∀ text ∈ cells, ∀ number number', cellNumber floatText lesser = some number →
    cellNumber floatText greater = some number' → number ≤ number' → isNull text = false → cellNumber floatText text = none →
    collator.compare (plainText floatText greater) (plainText floatText text) ≤ 0 →
    collator.compare (plainText floatText text) (plainText floatText lesser) ≤ 0 →
    number = number' ∧ collator.compare (plainText floatText text) (plainText floatText greater) ≤ 0 ∧
      collator.compare (plainText floatText lesser) (plainText floatText text) ≤ 0

section Preordered
variable {floatText collator} {cells : List (Option CellValue)}

theorem Collator.self (text : String) : collator.compare text text = 0 := by
  have opposite := collator.opposite text text
  omega

theorem Collator.nonpos_of_not {left right : String} (after : ¬collator.compare left right ≤ 0) :
    collator.compare right left ≤ 0 :=
  Int.le_of_lt ((collator.opposite right left).mpr (Int.not_le.mp after))

theorem compare_self (cell : Option CellValue) : compareCellValues floatText collator cell cell = 0 := by
  by_cases here : isNull cell = true
  · exact compare_nulls here here
  · cases reads : cellNumber floatText cell with
    | none => rw [compare_texts (Bool.eq_false_iff.mpr here) (Bool.eq_false_iff.mpr here) (.inl reads), Collator.self, Int.cast_zero]
    | some number => rw [compare_numbers reads reads, sub_self]

theorem compare_opposite (left right : Option CellValue) :
    compareCellValues floatText collator left right < 0 ↔ 0 < compareCellValues floatText collator right left := by
  cases here : isNull left with
  | true =>
    cases there : isNull right with
    | true => simp [compare_nulls here there, compare_nulls there here]
    | false => simp [compare_null_left here there, compare_null_right there here]
  | false =>
    cases there : isNull right with
    | true => simp [compare_null_right here there, compare_null_left there here]
    | false =>
      cases reads : cellNumber floatText left with
      | none =>
        rw [compare_texts here there (.inl reads), compare_texts there here (.inr reads), Int.cast_lt_zero, Int.cast_pos]
        exact collator.opposite _ _
      | some number =>
        cases reads' : cellNumber floatText right with
        | none =>
          rw [compare_texts here there (.inr reads'), compare_texts there here (.inl reads'), Int.cast_lt_zero, Int.cast_pos]
          exact collator.opposite _ _
        | some number' => rw [compare_numbers reads reads', compare_numbers reads' reads, sub_neg, sub_pos]

/-- Cells that are not null, of which one is no number, compare as their texts. -/
theorem nonpos_texts {left right : Option CellValue} (here : isNull left = false) (there : isNull right = false)
    (other : cellNumber floatText left = none ∨ cellNumber floatText right = none) :
    compareCellValues floatText collator left right ≤ 0 ↔
      collator.compare (plainText floatText left) (plainText floatText right) ≤ 0 := by
  rw [compare_texts here there other, Int.cast_nonpos]

theorem nonpos_numbers {left right : Option CellValue} {number number' : ℚ} (here : cellNumber floatText left = some number)
    (there : cellNumber floatText right = some number') :
    compareCellValues floatText collator left right ≤ 0 ↔ number ≤ number' := by
  rw [compare_numbers here there, sub_nonpos]

/-- Of three cells that are not null, two may be numbers and the third another text. -/
theorem Aligned.trans_solid (aligned : Aligned floatText collator cells) {left middle right : Option CellValue}
    (first : left ∈ cells) (second : middle ∈ cells) (third : right ∈ cells) (solid : isNull left = false)
    (solid' : isNull middle = false) (solid'' : isNull right = false)
    (before : compareCellValues floatText collator left middle ≤ 0)
    (behind : compareCellValues floatText collator middle right ≤ 0) :
    compareCellValues floatText collator left right ≤ 0 := by
  cases reads : cellNumber floatText left with
  | none =>
    rw [nonpos_texts solid solid' (.inl reads)] at before
    rw [nonpos_texts solid solid'' (.inl reads)]
    cases reads' : cellNumber floatText middle with
    | none =>
      rw [nonpos_texts solid' solid'' (.inl reads')] at behind
      exact collator.trans _ _ _ before behind
    | some number =>
      cases reads'' : cellNumber floatText right with
      | none =>
        rw [nonpos_texts solid' solid'' (.inr reads'')] at behind
        exact collator.trans _ _ _ before behind
      | some number' =>
        rw [nonpos_numbers reads' reads''] at behind
        by_contra after
        exact after (aligned middle second right third left first number number' reads' reads'' behind solid reads
          (Collator.nonpos_of_not after) before).2.1
  | some number =>
    cases reads' : cellNumber floatText middle with
    | none =>
      rw [nonpos_texts solid solid' (.inr reads')] at before
      rw [nonpos_texts solid' solid'' (.inl reads')] at behind
      cases reads'' : cellNumber floatText right with
      | none =>
        rw [nonpos_texts solid solid'' (.inr reads'')]
        exact collator.trans _ _ _ before behind
      | some number' =>
        rw [nonpos_numbers reads reads'']
        by_contra less
        have greater := le_of_lt (not_le.mp less)
        exact less (aligned right third left first middle second number' number reads'' reads greater solid' reads'
          before behind).1.symm.le
    | some number' =>
      rw [nonpos_numbers reads reads'] at before
      cases reads'' : cellNumber floatText right with
      | none =>
        rw [nonpos_texts solid' solid'' (.inr reads'')] at behind
        rw [nonpos_texts solid solid'' (.inr reads'')]
        by_contra after
        exact after (aligned left first middle second right third number number' reads reads' before solid'' reads'' behind
          (Collator.nonpos_of_not after)).2.2
      | some number'' =>
        rw [nonpos_numbers reads' reads''] at behind
        rw [nonpos_numbers reads reads'']
        exact before.trans behind

theorem Aligned.trans (aligned : Aligned floatText collator cells) {left middle right : Option CellValue}
    (first : left ∈ cells) (second : middle ∈ cells) (third : right ∈ cells)
    (before : compareCellValues floatText collator left middle ≤ 0)
    (behind : compareCellValues floatText collator middle right ≤ 0) :
    compareCellValues floatText collator left right ≤ 0 := by
  have later {null solid : Option CellValue} (here : isNull null = true) (there : isNull solid = false) :
      ¬compareCellValues floatText collator null solid ≤ 0 := by
    rw [compare_null_left here there]
    decide
  cases here : isNull right with
  | true =>
    cases there : isNull left with
    | true => exact (compare_nulls there here).le
    | false => rw [compare_null_right there here]; decide
  | false =>
    cases middleNull : isNull middle with
    | true => exact absurd behind (later middleNull here)
    | false =>
      cases there : isNull left with
      | true => exact absurd before (later there middleNull)
      | false => exact aligned.trans_solid first second third there middleNull here before behind

/-- The two rules make one order exactly where texts do not separate numbers the wrong way. -/
theorem preordered_iff : Preordered floatText collator cells ↔ Aligned floatText collator cells := by
  constructor
  · intro preordered lesser first greater second text third number number' reads reads' le solid other behind before
    obtain ⟨lesserSolid, -⟩ := cellNumber_some reads
    obtain ⟨greaterSolid, -⟩ := cellNumber_some reads'
    have ordered := (@nonpos_numbers floatText collator _ _ _ _ reads reads').mpr le
    rw [← nonpos_texts greaterSolid solid (.inr other)] at behind
    rw [← nonpos_texts solid lesserSolid (.inl other)] at before
    have reversed := preordered.trans greater second text third lesser first behind before
    have left := preordered.trans text third lesser first greater second before ordered
    have right := preordered.trans lesser first greater second text third ordered behind
    rw [nonpos_numbers reads' reads] at reversed
    rw [nonpos_texts solid greaterSolid (.inl other)] at left
    rw [nonpos_texts lesserSolid solid (.inr other)] at right
    exact ⟨le_antisymm le reversed, left, right⟩
  · intro aligned
    constructor
    · exact fun cell _ => compare_self cell
    · exact fun left _ right _ => compare_opposite left right
    · exact fun left first middle second right third => aligned.trans first second third
    · intro left _ right _ here there
      rw [compare_null_right here there]
      decide

end Preordered

/-! ### Sorting -/

def columnCells (rows : List (List CellValue)) (column : Nat) : List (Option CellValue) := rows.map (·[column]?)

/-- A column is sorted by an order, and into the same order up to ties from every order of the rows. -/
structure SortsColumn (toLocaleLowerCase : String → String) (rows : List (List CellValue)) (column : Nat) : Prop where
  preordered : Preordered floatText collator (columnCells rows column)
  settled : ∀ shuffled, rows.Perm shuffled → ∀ search direction,
    List.Forall₂ (fun left right => compareCellValues floatText collator left.cells[column]? right.cells[column]? = 0)
      (buildResultView floatText collator toLocaleLowerCase rows search (some ⟨column, direction⟩)).rows
      (buildResultView floatText collator toLocaleLowerCase shuffled search (some ⟨column, direction⟩)).rows

section Sorting
variable {floatText collator} {rows : List (List CellValue)}

theorem Preordered.orders {column : Nat} (preordered : Preordered floatText collator (columnCells rows column))
    (direction : SortDirection) : Sorting.Orders (inOrder floatText collator ⟨column, direction⟩) rows := by
  have cell {row : List CellValue} (member : row ∈ rows) : row[column]? ∈ columnCells rows column := List.mem_map_of_mem member
  have reversed {left right : Option CellValue} : 0 ≤ compareCellValues floatText collator left right ↔
      compareCellValues floatText collator right left ≤ 0 := by
    rw [← not_lt, ← not_lt, compare_opposite]
  constructor
  · intro left _ right _
    simp only [inOrder, decide_eq_true_eq]
    cases direction with
    | asc =>
      rw [directionFactor, one_mul, one_mul, ← reversed]
      exact (le_total _ _).symm
    | desc =>
      rw [directionFactor, neg_one_mul, neg_one_mul, neg_nonpos, neg_nonpos, reversed]
      exact (le_total _ _).symm
  · intro left here middle between right there
    simp only [inOrder, decide_eq_true_eq]
    cases direction with
    | asc =>
      rw [directionFactor, one_mul, one_mul, one_mul]
      exact preordered.trans _ (cell here) _ (cell between) _ (cell there)
    | desc =>
      rw [directionFactor, neg_one_mul, neg_one_mul, neg_one_mul, neg_nonpos, neg_nonpos, neg_nonpos, reversed, reversed, reversed]
      intro before behind
      exact preordered.trans _ (cell there) _ (cell between) _ (cell here) behind before

theorem inOrder_tied {sort : ResultSortState} {left right : List CellValue} (before : inOrder floatText collator sort left right = true)
    (behind : inOrder floatText collator sort right left = true) :
    compareCellValues floatText collator left[sort.columnIndex]? right[sort.columnIndex]? = 0 := by
  have opposite := @compare_opposite floatText collator left[sort.columnIndex]? right[sort.columnIndex]?
  simp only [inOrder, decide_eq_true_eq] at before behind
  cases direction : sort.direction with
  | asc =>
    rw [direction, directionFactor, one_mul] at before behind
    exact le_antisymm before (not_lt.mp (mt opposite.mp (not_lt.mpr behind)))
  | desc =>
    rw [direction, directionFactor, neg_one_mul, neg_nonpos] at before behind
    exact le_antisymm (not_lt.mp (mt (compare_opposite _ _).mpr (not_lt.mpr behind))) before

/-- The search leaves a row. -/
def kept (floatText : UInt64 → String) (toLocaleLowerCase : String → String) (search : String) (cells : List CellValue) : Bool :=
  decide (toLocaleLowerCase (Text.jsTrim search) = "" ∨
    0 < rowMatches floatText toLocaleLowerCase (toLocaleLowerCase (Text.jsTrim search)) cells)

/-- The sorted view holds the sorted cells of the rows that the search leaves. -/
theorem view_cells (toLocaleLowerCase : String → String) (rows : List (List CellValue)) (search : String) (sort : ResultSortState) :
    (buildResultView floatText collator toLocaleLowerCase rows search (some sort)).rows.map (·.cells) =
      (rows.filter (kept floatText toLocaleLowerCase search)).mergeSort (inOrder floatText collator sort) := by
  have numbered : (rows.zipIdx.map fun entry => ({ sourceIndex := entry.2, cells := entry.1 } : ResultViewRow)).map (·.cells) = rows := by
    rw [List.map_map]
    exact List.zipIdx_map_fst 0 rows
  rw [buildResultView]
  refine (@List.map_mergeSort _ _ _ (inOrder floatText collator sort) _ _ fun left _ right _ => rfl).trans ?_
  refine congrArg (List.mergeSort · (inOrder floatText collator sort)) ?_
  by_cases unfiltered : toLocaleLowerCase (Text.jsTrim search) = ""
  · have all : rows.filter (kept floatText toLocaleLowerCase search) = rows :=
      List.filter_eq_self.mpr fun cells _ => decide_eq_true (.inl unfiltered)
    rw [if_pos unfiltered, numbered, all]
  · have same : kept floatText toLocaleLowerCase search =
        fun cells => decide (0 < rowMatches floatText toLocaleLowerCase (toLocaleLowerCase (Text.jsTrim search)) cells) := by
      funext cells
      simp only [kept, unfiltered, false_or]
    rw [if_neg unfiltered, same]
    conv_rhs => rw [← numbered, List.filter_map]
    rfl

theorem Preordered.sorts {column : Nat} (preordered : Preordered floatText collator (columnCells rows column))
    (toLocaleLowerCase : String → String) : SortsColumn floatText collator toLocaleLowerCase rows column := by
  refine ⟨preordered, fun shuffled perm search direction => ?_⟩
  have orders := preordered.orders direction
  have kept_orders : Sorting.Orders (inOrder floatText collator ⟨column, direction⟩)
      (rows.filter (kept floatText toLocaleLowerCase search)) := by
    refine ⟨fun left here right there => ?_, fun left here middle between right there => ?_⟩
    · exact orders.total left (List.mem_of_mem_filter here) right (List.mem_of_mem_filter there)
    · exact orders.trans left (List.mem_of_mem_filter here) middle (List.mem_of_mem_filter between) right
        (List.mem_of_mem_filter there)
  have ties := kept_orders.mergeSort_ties (perm.filter _)
  rw [← view_cells toLocaleLowerCase, ← view_cells toLocaleLowerCase, List.forall₂_map_left_iff, List.forall₂_map_right_iff] at ties
  exact ties.imp fun left right tied => inOrder_tied tied.1 tied.2

/-- Sorting by a column is sorting by an order exactly where its texts do not separate its
numbers the wrong way. -/
theorem sortsColumn_iff (floatText : UInt64 → String) (collator : Collator) (toLocaleLowerCase : String → String)
    (rows : List (List CellValue)) (column : Nat) :
    SortsColumn floatText collator toLocaleLowerCase rows column ↔ Aligned floatText collator (columnCells rows column) :=
  ⟨fun sorts => preordered_iff.mp sorts.preordered, fun aligned => (preordered_iff.mpr aligned).sorts toLocaleLowerCase⟩

end Sorting

end Compare

/-! ### A column in a circle -/

/-- Runs of digits count as numbers, and letters as lower case. -/
def numericKey : Option Nat → List Char → List Nat
  | none, [] => []
  | some number, [] => [0, number]
  | pending, c :: rest =>
    if c.isDigit then numericKey (some (10 * pending.getD 0 + (c.toNat - 48))) rest
    else (match pending with
      | none => []
      | some number => [0, number]) ++ 1 :: c.toLower.toNat :: numericKey none rest

def keyOf (text : String) : List Nat := numericKey none text.toList

def numericCollator : Collator where
  compare left right := if keyOf left < keyOf right then -1 else if keyOf right < keyOf left then 1 else 0
  opposite left right := by
    rcases lt_trichotomy (keyOf left) (keyOf right) with less | same | greater
    · simp [less, lt_asymm less]
    · simp [same]
    · simp [greater, lt_asymm greater]
  trans left middle right := by
    have nonpos (first second : String) :
        (if keyOf first < keyOf second then (-1 : Int) else if keyOf second < keyOf first then 1 else 0) ≤ 0 ↔
          keyOf first ≤ keyOf second := by
      rcases lt_trichotomy (keyOf first) (keyOf second) with less | same | greater
      · simp [less, less.le]
      · simp [same]
      · simp [greater, lt_asymm greater, not_le.mpr greater]
    rw [nonpos, nonpos, nonpos]
    exact le_trans

/-- 2 is less than 1e1, which stands before 1x, which stands before 2. -/
theorem sortsColumn_circle :
    ¬SortsColumn (fun _ => "") numericCollator id [[.text "2"], [.text "1e1"], [.text "1x"]] 0 := by
  intro sorts
  have before : compareCellValues (fun _ => "") numericCollator (some (.text "1e1")) (some (.text "1x")) ≤ 0 := by decide +kernel
  have behind : compareCellValues (fun _ => "") numericCollator (some (.text "1x")) (some (.text "2")) ≤ 0 := by decide +kernel
  have circle := sorts.preordered.trans _ (by simp [columnCells]) _ (by simp [columnCells]) _ (by simp [columnCells]) before behind
  exact absurd circle (by decide +kernel)

end Pipa.ResultView
