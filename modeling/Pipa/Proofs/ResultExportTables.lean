import Pipa.Library.TextLines
import Pipa.Proofs.ResultExportCsv

/-! TSV and Markdown as tables: a line for each row and a field for each column, exactly
where no text brings its own line breaks or separators. -/

namespace Pipa.ResultExport
open Text TextLines

/-! ### Tabs -/

/-- The names and texts that a copy shows. -/
def selectionTexts (floatText : UInt64 → String) (columns : List QueryColumn) (rows : List (List CellValue))
    (selection : ResultSelectionRect) (includeHeaders : Bool) : List (List String) :=
  if includeHeaders then selectionRecords floatText columns rows selection
  else (selectionRecords floatText columns rows selection).tail

/-- No text breaks a line: only the last one of a line that others follow may end with a CR. -/
def KeepsLines (records : List (List String)) : Prop :=
  Placed (fun last fields => Placed (fun final text => Whole (last || !final) text.toList) fields) records

def tabFields (line : List Char) : List (List Char) := line.splitOn '\t'

theorem untabbed_toList (value : String) : (untabbed value).toList = value.toList.map fun c => if c = '\t' then ' ' else c := by
  rw [untabbed, replace, String.toList_ofList]
  induction value.toList with
  | nil => rfl
  | cons c text ih =>
    rw [List.flatMap_cons, ih, List.map_cons]
    split <;> rfl

theorem untabbed_free (value : String) : '\t' ∉ (untabbed value).toList := by
  rw [untabbed_toList]
  intro member
  obtain ⟨c, -, same⟩ := List.mem_map.mp member
  split at same
  · cases same
  next other => exact other same

theorem unbroken_untabbed {text : List Char} :
    Unbroken (text.map fun c => if c = '\t' then ' ' else c) ↔ Unbroken text := by
  rw [Unbroken, List.forall_mem_map]
  refine forall₂_congr fun c member => ?_
  by_cases tab : c = '\t'
  · rw [if_pos tab, tab]
    exact iff_of_true rfl rfl
  · rw [if_neg tab]

/-- A tab is no line break. -/
theorem whole_untabbed {last : Bool} (value : String) : Whole last (untabbed value).toList ↔ Whole last value.toList := by
  rw [untabbed_toList, Whole, Whole, unbroken_untabbed]
  refine or_congr_right (and_congr_right fun notLast => ?_)
  constructor
  · intro cut
    obtain ⟨front, unbroken, same⟩ := cut
    obtain ⟨before, behind, split, rfl, final⟩ := List.map_eq_append_iff.mp same
    obtain ⟨c, rfl, return_⟩ := List.map_eq_singleton_iff.mp final
    have carriage : c = '\r' := by
      split at return_
      · cases return_
      · exact return_
    exact ⟨before, unbroken_untabbed.mp unbroken, by rw [split, carriage]⟩
  · intro cut
    obtain ⟨front, unbroken, same⟩ := cut
    refine ⟨_, unbroken_untabbed.mpr unbroken, ?_⟩
    rw [same, List.map_append]
    rfl

/-- Lines of texts between tabs, whatever was done to the texts. -/
theorem tabLines_toList (records : List (List String)) :
    ("\n".intercalate (records.map fun fields => "\t".intercalate fields)).toList =
      join (records.map fun fields => row '\t' (fields.map String.toList)) := by
  rw [String.toList_intercalate, List.map_map, join]
  refine congrArg (['\n'].intercalate) (List.map_congr_left fun fields _ => ?_)
  exact String.toList_intercalate

theorem tabular_tabs {records : List (List String)} {width : Nat} (present : records ≠ []) (wide : 0 < width)
    (each : ∀ fields ∈ records, fields.length = width) :
    Tabular tabFields records.length width ("\n".intercalate (records.map fun fields => "\t".intercalate fields)).toList ↔
      KeepsLines records ∧ ∀ fields ∈ records, ∀ text ∈ fields, '\t' ∉ text.toList := by
  have filled (fields : List String) (member : fields ∈ records) : fields.map String.toList ≠ [] := by
    intro empty
    have size := each fields member
    rw [List.map_eq_nil_iff.mp empty] at size
    exact absurd size (Nat.ne_of_lt wide)
  have whole : Placed Whole (records.map fun fields => row '\t' (fields.map String.toList)) ↔ KeepsLines records := by
    rw [placed_map]
    refine placed_congr fun last fields member => ?_
    rw [whole_row rfl (filled fields member), placed_map]
  have size (fields : List String) (member : fields ∈ records) :
      (tabFields (stripReturn (row '\t' (fields.map String.toList)))).length = width ↔ ∀ text ∈ fields, '\t' ∉ text.toList := by
    have counted := @length_fields '\t' _ (filled fields member) (by decide)
    rw [List.length_map, each fields member, List.forall_mem_map] at counted
    exact counted
  have shaped := @tabular_join tabFields (records.map fun fields => row '\t' (fields.map String.toList))
    (mt List.map_eq_nil_iff.mp present) width
  rw [List.length_map, whole, List.forall_mem_map] at shaped
  rw [tabLines_toList, shaped]
  exact and_congr_right fun _ => forall₂_congr size

theorem keepsLines_untabbed {records : List (List String)} : KeepsLines (records.map (·.map untabbed)) ↔ KeepsLines records := by
  rw [KeepsLines, placed_map]
  refine placed_congr fun last fields _ => ?_
  rw [placed_map]
  exact placed_congr fun final text _ => whole_untabbed text

theorem keepsLines_of_unbroken {records : List (List String)}
    (unbroken : ∀ fields ∈ records, ∀ text ∈ fields, Unbroken text.toList) : KeepsLines records :=
  placed_of_forall fun _ fields member => placed_of_forall fun _ text inside => .inl (unbroken fields member text inside)

section Selection
variable (floatText : UInt64 → String) (columns : List QueryColumn) (rows : List (List CellValue))

theorem selectionTexts_ne_nil (selection : ResultSelectionRect) (includeHeaders : Bool) :
    selectionTexts floatText columns rows selection includeHeaders ≠ [] := by
  cases includeHeaders with
  | true => exact List.cons_ne_nil _ _
  | false => exact mt List.map_eq_nil_iff.mp (selectedRows_ne_nil selection)

theorem selectionRecords_width (selection : ResultSelectionRect) :
    ∀ fields ∈ selectionRecords floatText columns rows selection, fields.length = (selectedColumns selection).length := by
  intro fields member
  obtain rfl | later := List.mem_cons.mp member
  · exact List.length_map _
  · obtain ⟨row, listed, rfl⟩ := List.mem_map.mp later
    exact List.length_map _

theorem selectionTexts_width (selection : ResultSelectionRect) (includeHeaders : Bool) :
    ∀ fields ∈ selectionTexts floatText columns rows selection includeHeaders,
      fields.length = (selectedColumns selection).length := by
  intro fields member
  cases includeHeaders with
  | true => exact selectionRecords_width floatText columns rows selection fields member
  | false => exact selectionRecords_width floatText columns rows selection fields (List.mem_of_mem_tail member)

theorem selectionTexts_length (selection : ResultSelectionRect) (includeHeaders : Bool) :
    (selectionTexts floatText columns rows selection includeHeaders).length =
      (selectedRows selection).length + includeHeaders.toNat := by
  cases includeHeaders <;> simp [selectionTexts, selectionRecords]

theorem serializeSelectionAsTsv_eq (selection : ResultSelectionRect) (includeHeaders : Bool) :
    serializeSelectionAsTsv floatText columns rows selection includeHeaders =
      "\n".intercalate (((selectionTexts floatText columns rows selection includeHeaders).map (·.map untabbed)).map
        fun fields => "\t".intercalate fields) := by
  cases includeHeaders <;>
    simp [serializeSelectionAsTsv, selectionLines, selectionTexts, selectionRecords, Function.comp_def]

theorem tabular_selection (selection : ResultSelectionRect) (includeHeaders : Bool) :
    Tabular tabFields ((selectedRows selection).length + includeHeaders.toNat) (selectedColumns selection).length
        (serializeSelectionAsTsv floatText columns rows selection includeHeaders).toList ↔
      KeepsLines (selectionTexts floatText columns rows selection includeHeaders) := by
  have each : ∀ fields ∈ (selectionTexts floatText columns rows selection includeHeaders).map (·.map untabbed),
      fields.length = (selectedColumns selection).length := by
    refine List.forall_mem_map.mpr fun fields member => ?_
    rw [List.length_map]
    exact selectionTexts_width floatText columns rows selection includeHeaders fields member
  have free : ∀ fields ∈ (selectionTexts floatText columns rows selection includeHeaders).map (·.map untabbed),
      ∀ text ∈ fields, '\t' ∉ text.toList := by
    refine List.forall_mem_map.mpr fun fields _ => List.forall_mem_map.mpr fun text _ => untabbed_free text
  have shaped := tabular_tabs (mt List.map_eq_nil_iff.mp (selectionTexts_ne_nil floatText columns rows selection includeHeaders))
    (List.length_pos_iff.mpr (selectedColumns_ne_nil selection)) each
  rw [List.length_map, selectionTexts_length, keepsLines_untabbed, and_iff_left free] at shaped
  rw [serializeSelectionAsTsv_eq, shaped]

/-- Names keep their tabs in the copy of a whole result. -/
theorem tabular_result (present : columns ≠ []) :
    Tabular tabFields (rows.length + 1) columns.length (serializeResultAsTsv floatText columns rows).toList ↔
      KeepsLines (resultRecords floatText columns rows) ∧ ∀ column ∈ columns, '\t' ∉ column.name.toList := by
  have wide : 0 < columns.length := List.length_pos_iff.mpr present
  let names := columns.map (·.name)
  let body := rows.map fun row => (List.range columns.length).map fun column => cellValueToPlainText floatText row[column]?
  have text : serializeResultAsTsv floatText columns rows =
      "\n".intercalate ((names :: body.map (·.map untabbed)).map fun fields => "\t".intercalate fields) := by
    simp [serializeResultAsTsv, names, body, Function.comp_def]
  have each : ∀ fields ∈ names :: body.map (·.map untabbed), fields.length = columns.length := by
    refine List.forall_mem_cons.mpr ⟨List.length_map _, List.forall_mem_map.mpr fun fields member => ?_⟩
    obtain ⟨row, -, rfl⟩ := List.mem_map.mp member
    simp
  have free : ∀ fields ∈ body.map (·.map untabbed), ∀ text ∈ fields, '\t' ∉ text.toList :=
    List.forall_mem_map.mpr fun fields _ => List.forall_mem_map.mpr fun text _ => untabbed_free text
  have lines : KeepsLines (names :: body.map (·.map untabbed)) ↔ KeepsLines (names :: body) := by
    rw [KeepsLines, KeepsLines, placed_front, placed_front, List.isEmpty_map]
    exact and_congr_right fun _ => keepsLines_untabbed
  have shaped := tabular_tabs (List.cons_ne_nil _ _) wide each
  rw [lines, List.forall_mem_cons, and_iff_left free, List.length_cons, List.length_map, List.length_map] at shaped
  rw [text, shaped]
  exact and_congr_right fun _ => List.forall_mem_map

end Selection

/-! ### Bars -/

/-- A Markdown cell in one pass over its text. -/
def cellText : List Char → List Char
  | '\r' :: '\n' :: rest => ' ' :: cellText rest
  | '\n' :: rest => ' ' :: cellText rest
  | '|' :: rest => '\\' :: '|' :: cellText rest
  | c :: rest => c :: cellText rest
  | [] => []

/-- A CR that no LF follows. -/
def loneReturn : List Char → Bool
  | '\r' :: '\n' :: rest => loneReturn rest
  | '\r' :: _ => true
  | _ :: rest => loneReturn rest
  | [] => false

/-- How many bars stand behind an odd number of backslashes. -/
def bareBars : List Char → Nat
  | '\\' :: '|' :: rest => bareBars rest + 1
  | '\\' :: _ :: rest => bareBars rest
  | _ :: rest => bareBars rest
  | [] => 0

theorem cellText_pair (rest : List Char) : cellText ('\r' :: '\n' :: rest) = ' ' :: cellText rest := rfl

theorem cellText_feed (rest : List Char) : cellText ('\n' :: rest) = ' ' :: cellText rest := rfl

theorem cellText_bar (rest : List Char) : cellText ('|' :: rest) = '\\' :: '|' :: cellText rest := rfl

theorem cellText_other {c : Char} {rest : List Char} (paired : ∀ after, c = '\r' → rest = '\n' :: after → False)
    (newline : c ≠ '\n') (bar : c ≠ '|') : cellText (c :: rest) = c :: cellText rest := by
  rw [cellText]
  · exact paired
  · exact newline
  · exact bar

theorem cellText_plain {c : Char} (carriage : c ≠ '\r') (newline : c ≠ '\n') (bar : c ≠ '|') (rest : List Char) :
    cellText (c :: rest) = c :: cellText rest :=
  cellText_other (fun _ same => absurd same carriage) newline bar

/-- A cell grows by what a line break or a bar becomes, or by a character as it is. -/
theorem cellText_induction {motive : List Char → Prop} (nil : motive [])
    (pair : ∀ rest, motive rest → motive ('\r' :: '\n' :: rest)) (feed : ∀ rest, motive rest → motive ('\n' :: rest))
    (bar : ∀ rest, motive rest → motive ('|' :: rest))
    (other : ∀ c rest, (∀ after, c = '\r' → rest = '\n' :: after → False) → c ≠ '\n' → c ≠ '|' →
      cellText (c :: rest) = c :: cellText rest → motive rest → motive (c :: rest)) (text : List Char) : motive text := by
  induction text using cellText.induct with
  | case1 rest ih => exact pair rest ih
  | case2 rest ih => exact feed rest ih
  | case3 rest ih => exact bar rest ih
  | case4 c rest paired newline apart ih => exact other c rest paired newline apart (cellText_other paired newline apart) ih
  | case5 => exact nil

theorem escapeMarkdownCell_toList (value : String) : (escapeMarkdownCell value).toList = cellText value.toList := by
  rw [escapeMarkdownCell, String.toList_ofList, replace, String.toList_ofList]
  induction value.toList using cellText_induction with
  | nil => rfl
  | pair rest ih => rw [cellText_pair, ← ih]; rfl
  | feed rest ih => rw [cellText_feed, ← ih]; rfl
  | bar rest ih => rw [cellText_bar, ← ih]; rfl
  | other c rest paired newline bar same ih =>
    rw [same, ← ih, List.flatMap_cons, if_neg bar, List.singleton_append, collapseBreaks]
    · intro after carriage same
      cases rest with
      | nil => cases same
      | cons d rest =>
        rw [List.flatMap_cons] at same
        split at same
        · cases (List.cons.inj same).1
        · exact paired rest carriage (congrArg (· :: rest) (List.cons.inj same).1)
    · exact newline

/-- The ways in which a cell begins. -/
theorem cellText_cases (c : Char) (rest : List Char) :
    (∃ after, c = '\r' ∧ rest = '\n' :: after ∧ cellText (c :: rest) = ' ' :: cellText after) ∨
      c = '\n' ∧ cellText (c :: rest) = ' ' :: cellText rest ∨
      c = '|' ∧ cellText (c :: rest) = '\\' :: '|' :: cellText rest ∨
      (c = '\r' → ∀ after, rest ≠ '\n' :: after) ∧ c ≠ '\n' ∧ c ≠ '|' ∧ cellText (c :: rest) = c :: cellText rest := by
  by_cases newline : c = '\n'
  · subst newline
    exact .inr (.inl ⟨rfl, cellText_feed rest⟩)
  by_cases bar : c = '|'
  · subst bar
    exact .inr (.inr (.inl ⟨rfl, cellText_bar rest⟩))
  by_cases carriage : c = '\r'
  · subst carriage
    by_cases paired : ∃ after, rest = '\n' :: after
    · obtain ⟨after, rfl⟩ := paired
      exact .inl ⟨after, rfl, rfl, cellText_pair after⟩
    · have single (after : List Char) : rest ≠ '\n' :: after := fun same => paired ⟨after, same⟩
      exact .inr (.inr (.inr ⟨fun _ => single, newline, bar, cellText_other (fun after _ => single after) newline bar⟩))
  · exact .inr (.inr (.inr ⟨fun same => absurd same carriage, newline, bar, cellText_plain carriage newline bar rest⟩))

/-- No cell and no blank behind it begins with a bar. -/
theorem cellText_head (text rest : List Char) : ∃ c more, cellText text ++ ' ' :: rest = c :: more ∧ c ≠ '|' := by
  cases text with
  | nil => exact ⟨' ', rest, rfl, by decide⟩
  | cons c text =>
    obtain ⟨after, -, -, same⟩ | ⟨-, same⟩ | ⟨-, same⟩ | ⟨-, -, bar, same⟩ := cellText_cases c text
    · exact ⟨' ', _, by rw [same, List.cons_append], by decide⟩
    · exact ⟨' ', _, by rw [same, List.cons_append], by decide⟩
    · exact ⟨'\\', _, by rw [same, List.cons_append], by decide⟩
    · exact ⟨c, _, by rw [same, List.cons_append], bar⟩

theorem barPieces_escaped {pairs : Bool} (rest : List Char) :
    (barPieces pairs ('\\' :: '|' :: rest)).length = (barPieces pairs rest).length := by
  rw [barPieces, if_pos (by simp), length_lead]

/-- A bar directly behind a backslash is escaped. -/
theorem cell_bars (text rest : List Char) :
    (barPieces false (cellText text ++ ' ' :: rest)).length = (barPieces false rest).length := by
  induction text using cellText_induction with
  | nil => exact length_barPieces_blank rest
  | pair text ih => rw [cellText_pair, List.cons_append, length_barPieces_blank, ih]
  | feed text ih => rw [cellText_feed, List.cons_append, length_barPieces_blank, ih]
  | bar text ih => rw [cellText_bar, List.cons_append, List.cons_append, barPieces_escaped, ih]
  | other c text paired newline bar same ih =>
    rw [same, List.cons_append, ← ih]
    by_cases backslash : c = '\\'
    · obtain ⟨d, more, behind, other⟩ := cellText_head text rest
      rw [backslash, behind, barPieces, if_neg (by simpa using other), length_lead]
    · rw [barPieces_plain bar backslash, length_lead]

theorem pair_taken (c : Char) (rest : List Char) : (barPieces true ('\\' :: c :: rest)).length = (barPieces true rest).length := by
  rw [barPieces, if_pos (by simp), length_lead]

/-- Where backslashes are read in pairs, a bar behind an odd number of them is left open. -/
theorem cell_bars_paired (text rest : List Char) :
    (barPieces true (cellText text ++ ' ' :: rest)).length = bareBars text + (barPieces true rest).length := by
  induction text using bareBars.induct with
  | case1 text ih =>
    have same : cellText ('\\' :: '|' :: text) = '\\' :: '\\' :: '|' :: cellText text := by
      rw [cellText_plain (by decide) (by decide) (by decide), cellText_bar]
    rw [same, List.cons_append, List.cons_append, List.cons_append, pair_taken, length_barPieces_bar, ih, bareBars]
    omega
  | case2 c text other ih =>
    have shape : cellText ('\\' :: c :: text) = '\\' :: cellText (c :: text) :=
      cellText_plain (by decide) (by decide) (by decide) _
    have counted : bareBars ('\\' :: c :: text) = bareBars text := by
      rw [bareBars]
      exact other
    rw [shape, counted, ← ih, List.cons_append]
    obtain ⟨after, rfl, rfl, same⟩ | ⟨-, same⟩ | ⟨bar, -⟩ | ⟨-, -, -, same⟩ := cellText_cases c text
    · rw [same, cellText_feed, List.cons_append, pair_taken, length_barPieces_blank]
    · rw [same, List.cons_append, pair_taken]
    · exact absurd bar other
    · rw [same, List.cons_append, pair_taken]
  | case3 c text escaped paired ih =>
    have counted : bareBars (c :: text) = bareBars text := by
      rw [bareBars]
      · exact escaped
      · exact paired
    rw [counted, ← ih]
    obtain ⟨after, rfl, rfl, same⟩ | ⟨-, same⟩ | ⟨-, same⟩ | ⟨-, -, bar, same⟩ := cellText_cases c text
    · rw [same, cellText_feed]
    · rw [same, List.cons_append, length_barPieces_blank]
    · rw [same, List.cons_append, List.cons_append, barPieces_escaped]
    · rw [same, List.cons_append]
      by_cases backslash : c = '\\'
      · subst backslash
        cases text with
        | nil =>
          have blank := @length_barPieces_blank true rest
          exact (pair_taken ' ' rest).trans blank.symm
        | cons d text => exact absurd rfl (paired d text rfl)
      · rw [barPieces_plain bar backslash, length_lead]
  | case4 =>
    have blank := @length_barPieces_blank true rest
    rw [bareBars, Nat.zero_add]
    exact blank

/-- Only a CR without LF is left of the line breaks. -/
theorem unbroken_cellText (text : List Char) : Unbroken (cellText text) ↔ loneReturn text = false := by
  induction text using cellText_induction with
  | nil => exact iff_of_true (List.forall_mem_nil _) rfl
  | pair text ih => rw [cellText_pair, unbroken_cons, ih, and_iff_right (by decide)]; rfl
  | feed text ih => rw [cellText_feed, unbroken_cons, ih, and_iff_right (by decide)]; rfl
  | bar text ih =>
    rw [cellText_bar, unbroken_cons, unbroken_cons, ih, and_iff_right (by decide), and_iff_right (by decide)]
    rfl
  | other c text paired newline bar same ih =>
    rw [same, unbroken_cons, ih]
    by_cases carriage : c = '\r'
    · subst carriage
      have lone : loneReturn ('\r' :: text) = true := by
        rw [loneReturn]
        exact fun after same => paired after rfl same
      rw [lone]
      exact iff_of_false (fun both => absurd both.1 (by decide)) (by decide)
    · have kept : loneReturn (c :: text) = loneReturn text := by rw [loneReturn] <;> simp [carriage]
      rw [kept, and_iff_right]
      simpa [isBreak] using ⟨newline, carriage⟩

/-- What leaves cells open, where backslashes are read in pairs. -/
def spareBars (pairs : Bool) (text : List Char) : Nat := if pairs then bareBars text else 0

theorem cell_adds (pairs : Bool) (text rest : List Char) :
    (barPieces pairs (cellText text ++ ' ' :: rest)).length = spareBars pairs text + (barPieces pairs rest).length := by
  cases pairs with
  | true => exact cell_bars_paired text rest
  | false => exact (cell_bars text rest).trans (Nat.zero_add _).symm

theorem markdownLine_toList (texts : List String) :
    (markdownLine (texts.map escapeMarkdownCell)).toList = barRow (texts.map fun text => cellText text.toList) := by
  have cells : (texts.map escapeMarkdownCell).map String.toList = texts.map fun text => cellText text.toList := by
    rw [List.map_map]
    exact List.map_congr_left fun text _ => escapeMarkdownCell_toList text
  rw [markdownLine, String.toList_append, String.toList_append, String.toList_intercalate, cells, barRow]
  rfl

/-- A line between bars breaks where a cell does. -/
theorem whole_barRow {last : Bool} (cells : List (List Char)) : Whole last (barRow cells) ↔ ∀ cell ∈ cells, Unbroken cell := by
  have inner : Unbroken ([' ', '|', ' '].intercalate cells) ↔ ∀ cell ∈ cells, Unbroken cell := by
    induction cells with
    | nil => simp [Unbroken]
    | cons cell cells ih =>
      cases cells with
      | nil => simp
      | cons next cells =>
        have bar : Unbroken [' ', '|', ' '] := by simp [Unbroken, isBreak]
        rw [List.intercalate_cons_cons, unbroken_append, unbroken_append, ih]
        simp only [bar, and_true, List.forall_mem_cons]
  have bar : Whole last ['|'] := .inl (by simp [Unbroken, isBreak])
  rw [barRow, ← List.cons_append, ← List.cons_append, whole_behind (by rfl), unbroken_cons, unbroken_cons, inner]
  simp [bar, isBreak]

theorem markdown_text (lines : List (List String)) :
    ("\n".intercalate (lines.map fun texts => markdownLine (texts.map escapeMarkdownCell))).toList =
      join (lines.map fun texts => barRow (texts.map fun text => cellText text.toList)) := by
  rw [String.toList_intercalate, List.map_map, join]
  exact congrArg (['\n'].intercalate) (List.map_congr_left fun texts _ => markdownLine_toList texts)

theorem stripReturn_barRow (cells : List (List Char)) : stripReturn (barRow cells) = barRow cells := by
  refine if_neg ?_
  rw [barRow, ← List.cons_append, ← List.cons_append, List.getLast?_append]
  simp

/-- Lines of escaped cells keep their number and their cells where no cell breaks a line or
leaves a bar open. -/
theorem tabular_bars {lines : List (List String)} {width : Nat} (pairs : Bool) (present : lines ≠ []) (wide : 0 < width)
    (each : ∀ texts ∈ lines, texts.length = width) :
    Tabular (barCells pairs) lines.length width
        ("\n".intercalate (lines.map fun texts => markdownLine (texts.map escapeMarkdownCell))).toList ↔
      ∀ texts ∈ lines, ∀ text ∈ texts, loneReturn text.toList = false ∧ spareBars pairs text.toList = 0 := by
  have whole {last : Bool} (texts : List String) : Whole last (barRow (texts.map fun text => cellText text.toList)) ↔
      ∀ text ∈ texts, loneReturn text.toList = false := by
    rw [whole_barRow, List.forall_mem_map]
    exact forall₂_congr fun text _ => unbroken_cellText text.toList
  have placed : Placed Whole (lines.map fun texts => barRow (texts.map fun text => cellText text.toList)) ↔
      ∀ texts ∈ lines, ∀ text ∈ texts, loneReturn text.toList = false := by
    rw [placed_map, placed_congr fun last texts _ => whole texts]
    exact placed_constant
  have size (texts : List String) (member : texts ∈ lines) :
      (barCells pairs (barRow (texts.map fun text => cellText text.toList))).length = width ↔
        ∀ text ∈ texts, spareBars pairs text.toList = 0 := by
    have present : texts ≠ [] := by
      rintro rfl
      exact absurd (each [] member) (Nat.ne_of_lt wide)
    rw [← each texts member]
    exact length_barCells present fun text _ rest => cell_adds pairs text.toList rest
  have shaped := @tabular_join (barCells pairs) (lines.map fun texts => barRow (texts.map fun text => cellText text.toList))
    (mt List.map_eq_nil_iff.mp present) width
  rw [List.length_map, placed, List.forall_mem_map] at shaped
  rw [markdown_text, shaped]
  constructor
  · intro ⟨whole, cells⟩ texts member text inside
    have count := cells texts member
    rw [stripReturn_barRow] at count
    exact ⟨whole texts member text inside, (size texts member).mp count text inside⟩
  · intro both
    refine ⟨fun texts member text inside => (both texts member text inside).1, fun texts member => ?_⟩
    rw [stripReturn_barRow]
    exact (size texts member).mpr fun text inside => (both texts member text inside).2

theorem spareBars_dashes (pairs : Bool) : spareBars pairs "---".toList = 0 := by
  cases pairs <;> rfl

section Markdown
variable (floatText : UInt64 → String) (columns : List QueryColumn) (rows : List (List CellValue))

/-- The line below the names is a line of cells too. -/
theorem serializeSelectionAsMarkdown_eq (selection : ResultSelectionRect) :
    serializeSelectionAsMarkdown floatText columns rows selection =
      "\n".intercalate (((selectedColumns selection).map (columnName columns) ::
        ((selectedColumns selection).map fun _ => "---") :: (selectionRecords floatText columns rows selection).tail).map
          fun texts => markdownLine (texts.map escapeMarkdownCell)) := by
  have dashes : escapeMarkdownCell "---" = "---" := by decide
  simp [serializeSelectionAsMarkdown, selectionRecords, Function.comp_def, dashes]

theorem tabular_markdown (pairs : Bool) (selection : ResultSelectionRect) :
    Tabular (barCells pairs) ((selectedRows selection).length + 2) (selectedColumns selection).length
        (serializeSelectionAsMarkdown floatText columns rows selection).toList ↔
      ∀ texts ∈ selectionRecords floatText columns rows selection, ∀ text ∈ texts,
        loneReturn text.toList = false ∧ spareBars pairs text.toList = 0 := by
  let names := (selectedColumns selection).map (columnName columns)
  let dashes := (selectedColumns selection).map fun _ => "---"
  let body := (selectionRecords floatText columns rows selection).tail
  have records : selectionRecords floatText columns rows selection = names :: body := rfl
  have widths := selectionRecords_width floatText columns rows selection
  rw [records, List.forall_mem_cons] at widths
  have each : ∀ texts ∈ names :: dashes :: body, texts.length = (selectedColumns selection).length :=
    List.forall_mem_cons.mpr ⟨widths.1, List.forall_mem_cons.mpr ⟨List.length_map _, widths.2⟩⟩
  have fine : ∀ text ∈ dashes, loneReturn text.toList = false ∧ spareBars pairs text.toList = 0 := by
    refine List.forall_mem_map.mpr fun _ _ => ?_
    exact ⟨rfl, spareBars_dashes pairs⟩
  have height : (names :: dashes :: body).length = (selectedRows selection).length + 2 := by
    rw [List.length_cons, List.length_cons]
    exact congrArg (· + 2) (List.length_map _)
  have shaped := tabular_bars pairs (List.cons_ne_nil _ _) (List.length_pos_iff.mpr (selectedColumns_ne_nil selection)) each
  rw [height, List.forall_mem_cons, List.forall_mem_cons, and_iff_right fine] at shaped
  rw [serializeSelectionAsMarkdown_eq, records, List.forall_mem_cons]
  exact shaped

end Markdown

/-- Copies are tables exactly where no name and no text breaks a line by itself, no name of a
whole result holds a tab and, if backslashes are read in pairs, no bar stands behind an odd
number of them. -/
theorem copies_tabular (floatText : UInt64 → String) (columns : List QueryColumn) (rows : List (List CellValue)) :
    (∀ selection includeHeaders,
      Tabular tabFields ((selectedRows selection).length + includeHeaders.toNat) (selectedColumns selection).length
          (serializeSelectionAsTsv floatText columns rows selection includeHeaders).toList ↔
        KeepsLines (selectionTexts floatText columns rows selection includeHeaders)) ∧
    (columns ≠ [] →
      (Tabular tabFields (rows.length + 1) columns.length (serializeResultAsTsv floatText columns rows).toList ↔
        KeepsLines (resultRecords floatText columns rows) ∧ ∀ column ∈ columns, '\t' ∉ column.name.toList)) ∧
    ∀ pairs selection,
      Tabular (barCells pairs) ((selectedRows selection).length + 2) (selectedColumns selection).length
          (serializeSelectionAsMarkdown floatText columns rows selection).toList ↔
        ∀ texts ∈ selectionRecords floatText columns rows selection, ∀ text ∈ texts,
          loneReturn text.toList = false ∧ spareBars pairs text.toList = 0 :=
  ⟨tabular_selection floatText columns rows, tabular_result floatText columns rows, tabular_markdown floatText columns rows⟩

theorem copies_tabular_plain :
    Tabular tabFields 2 1 (serializeResultAsTsv (fun _ => "") [⟨"note", "text", none⟩] [[.text "a\tb"]]).toList := by
  refine ((copies_tabular (fun _ => "") [⟨"note", "text", none⟩] [[.text "a\tb"]]).2.1 (by decide)).mpr ⟨?_, ?_⟩
  · apply keepsLines_of_unbroken
    simp [resultRecords, cellValueToPlainText, Unbroken, isBreak]
  · simp

/-- A line feed in a cell makes another line. -/
theorem copies_tabular_broken :
    ¬Tabular tabFields 2 1 (serializeSelectionAsTsv (fun _ => "") [⟨"note", "text", none⟩] [[.text "a\nb"]] ⟨0, 0, 0, 0⟩ true).toList := by
  intro tabular
  exact absurd tabular.height (by decide)

end Pipa.ResultExport
