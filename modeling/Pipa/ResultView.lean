import Pipa.Library.JsNumber
import Pipa.ResultExport

/-! The visible rows of a result: filtered by a search, sorted by a column. The collator
and the lower case of a text come with the platform's locale. -/

namespace Pipa

structure ResultViewRow where
  sourceIndex : Nat
  cells : List CellValue
deriving DecidableEq, Repr

structure ResultView where
  rows : List ResultViewRow
  matchCount : Nat
deriving DecidableEq, Repr

namespace ResultView
open ResultExport Text

/-- What a collator promises: an order of texts, up to ties. -/
structure Collator where
  compare : String → String → Int
  opposite : ∀ left right, compare left right < 0 ↔ 0 < compare right left
  trans : ∀ left middle right, compare left middle ≤ 0 → compare middle right ≤ 0 → compare left right ≤ 0

inductive SortDirection where
  | asc | desc
deriving DecidableEq, Repr

structure ResultSortState where
  columnIndex : Nat
  direction : SortDirection
deriving DecidableEq, Repr

def isNull : Option CellValue → Bool
  | none | some .null => true
  | some _ => false

/-- The finite number that a text which is not blank reads as. -/
def finiteNumber (text : String) : Option ℚ :=
  if jsTrim text = "" then none else JsNumber.number (jsTrim text).toList

section Platform
variable (floatText : UInt64 → String) (collator : Collator) (toLocaleLowerCase : String → String)

/-- Compares two cells for the grid; nulls come last. The difference of two doubles has the
sign of the exact one, and only its sign is used. -/
def compareCellValues (left right : Option CellValue) : ℚ :=
  if isNull left ∧ isNull right then 0
  else if isNull left then 1
  else if isNull right then -1
  else
    let leftText := cellValueToPlainText floatText left
    let rightText := cellValueToPlainText floatText right
    match finiteNumber leftText, finiteNumber rightText with
    | some leftNumber, some rightNumber => leftNumber - rightNumber
    | _, _ => collator.compare leftText rightText

/-- How many cells of a row hold the search text. -/
def rowMatches (normalizedSearch : String) (cells : List CellValue) : Nat :=
  cells.countP fun cell =>
    (toLocaleLowerCase (cellValueToPlainText floatText (some cell))).toList.tails.any normalizedSearch.toList.isPrefixOf

def directionFactor : SortDirection → ℚ
  | .asc => 1
  | .desc => -1

/-- One row is not to come behind the other. -/
def inOrder (sort : ResultSortState) (left right : List CellValue) : Bool :=
  decide (directionFactor sort.direction *
    compareCellValues floatText collator left[sort.columnIndex]? right[sort.columnIndex]? ≤ 0)

/-- The rows that the search leaves, in the order of the column. Sorting is stable. -/
def buildResultView (rows : List (List CellValue)) (search : String) (sort : Option ResultSortState) : ResultView :=
  let normalizedSearch := toLocaleLowerCase (jsTrim search)
  let numbered := rows.zipIdx.map fun entry => ({ sourceIndex := entry.2, cells := entry.1 } : ResultViewRow)
  let found := rowMatches floatText toLocaleLowerCase normalizedSearch
  let viewRows := if normalizedSearch = "" then numbered else numbered.filter fun row => decide (0 < found row.cells)
  let matchCount := if normalizedSearch = "" then 0 else (rows.map found).foldl (· + ·) 0
  match sort with
  | none => { rows := viewRows, matchCount }
  | some sort => { rows := viewRows.mergeSort fun left right => inOrder floatText collator sort left.cells right.cells, matchCount }

end Platform

end ResultView

end Pipa
