import Pipa.Library.Csv
import Pipa.ResultExport

/-! CSV exports are read back by a reader of RFC 4180, unless a single column ends with
an empty text: the line break in front of it then ends the document. -/

namespace Pipa.ResultExport
open Text

section Fields

theorem escapeCsvField_toList (value : String) : (escapeCsvField value).toList = Csv.writeField value.toList := by
  have special : value.toList.any csvQuoted = value.toList.any Csv.isSpecial := rfl
  have quotes : (replace '"' "\"\"" value).toList = Csv.doubled value.toList := by
    rw [replace, String.toList_ofList]
    rfl
  rw [escapeCsvField, Csv.writeField, special]
  split
  · rfl
  · rw [String.toList_append, String.toList_append, quotes]
    rfl

/-- The records of a document as lists of characters. -/
def characters (records : List (List String)) : List Csv.Record := records.map (·.map String.toList)

/-- Lines of escaped fields are what a writer of CSV writes. -/
theorem csvLines_toList (records : List (List String)) :
    ("\n".intercalate (records.map fun fields => ",".intercalate (fields.map escapeCsvField))).toList =
      Csv.write (characters records) := by
  have field (fields : List String) : (fields.map escapeCsvField).map String.toList =
      (fields.map String.toList).map Csv.writeField := by
    rw [List.map_map, List.map_map]
    exact List.map_congr_left fun value _ => escapeCsvField_toList value
  have line (fields : List String) : (",".intercalate (fields.map escapeCsvField)).toList =
      Csv.writeRecord (fields.map String.toList) := by
    rw [String.toList_intercalate, field, Csv.writeRecord]
    rfl
  rw [String.toList_intercalate, List.map_map, Csv.write, characters, List.map_map]
  exact congrArg ("\n".toList.intercalate) (List.map_congr_left fun fields _ => line fields)

theorem characters_nonempty {records : List (List String)} (nonempty : ∀ fields ∈ records, fields ≠ []) :
    ∀ record ∈ characters records, record ≠ [] := by
  intro record member
  obtain ⟨fields, listed, rfl⟩ := List.mem_map.mp member
  exact mt List.map_eq_nil_iff.mp (nonempty fields listed)

/-- A document of lines is read back unless its last line is empty and not its only one. -/
theorem parse_characters {records : List (List String)} (present : records ≠ []) (nonempty : ∀ fields ∈ records, fields ≠ []) :
    Csv.parse (Csv.write (characters records)) = some (characters records) ↔
      ¬(2 ≤ records.length ∧ records.getLast? = some [""]) := by
  have size : (characters records).length = records.length := List.length_map _
  have last : (characters records).getLast? = some [[]] ↔ records.getLast? = some [""] := by
    rw [characters, List.getLast?_map, Option.map_eq_some_iff]
    constructor
    · rintro ⟨fields, found, empty⟩
      obtain ⟨value, rfl, same⟩ := List.map_eq_singleton_iff.mp empty
      rw [found, String.toList_eq_nil_iff.mp same]
    · intro found
      exact ⟨[""], found, rfl⟩
  have present' : characters records ≠ [] := mt List.map_eq_nil_iff.mp present
  rw [Csv.parse_write present' (characters_nonempty nonempty)]
  split
  next lost =>
    refine iff_of_false ?_ (not_not.mpr ⟨size ▸ lost.1, last.mp lost.2⟩)
    intro same
    have shorter := congrArg List.length (Option.some.inj same)
    rw [List.length_dropLast, size] at shorter
    omega
  next kept => exact iff_of_true rfl fun lost => kept ⟨size.symm ▸ lost.1, last.mpr lost.2⟩

end Fields

variable (floatText : UInt64 → String) (columns : List QueryColumn) (rows : List (List CellValue))

/-- The names and plain texts of a whole result. -/
def resultRecords : List (List String) :=
  columns.map (·.name) :: rows.map fun row => (List.range columns.length).map fun column => cellValueToPlainText floatText row[column]?

/-- The names and plain texts of a selection. -/
def selectionRecords (selection : ResultSelectionRect) : List (List String) :=
  (selectedColumns selection).map (columnName columns) :: (selectedRows selection).map fun row =>
    (selectedColumns selection).map fun column => cellValueToPlainText floatText (cellAt rows row column)

/-- The text is empty in the last row of the only column. -/
def EndsEmpty : Prop :=
  columns.length = 1 ∧ ∃ row, rows.getLast? = some row ∧ cellValueToPlainText floatText row[0]? = ""

def SelectionEndsEmpty (selection : ResultSelectionRect) : Prop :=
  selection.startCol = selection.endCol ∧
    cellValueToPlainText floatText (cellAt rows (max selection.startRow selection.endRow) selection.startCol) = ""

theorem serializeResultAsCsv_toList :
    (serializeResultAsCsv floatText columns rows).toList = Csv.write (characters (resultRecords floatText columns rows)) := by
  rw [← csvLines_toList, serializeResultAsCsv, resultRecords, List.map_cons, List.map_map, List.map_map]
  simp only [List.map_map, Function.comp_def]

theorem serializeSelectionAsCsv_toList (selection : ResultSelectionRect) :
    (serializeSelectionAsCsv floatText columns rows selection true).toList =
      Csv.write (characters (selectionRecords floatText columns rows selection)) := by
  rw [← csvLines_toList, serializeSelectionAsCsv, selectionLines, selectionRecords]
  simp only [if_true, List.singleton_append, List.map_cons, List.map_map, Function.comp_def]

theorem indexes_ne_nil {first last : Nat} (le : first ≤ last) : indexes first last ≠ [] := by
  rw [indexes, ne_eq, List.range'_eq_nil_iff]
  omega

theorem indexes_getLast? {first last : Nat} (le : first ≤ last) : (indexes first last).getLast? = some last := by
  rw [indexes, List.getLast?_range', if_neg (by omega)]
  exact congrArg some (by omega)

theorem selectedRows_getLast? (selection : ResultSelectionRect) :
    (selectedRows selection).getLast? = some (max selection.startRow selection.endRow) :=
  indexes_getLast? (Nat.le_trans (Nat.min_le_left ..) (Nat.le_max_left ..))

theorem selectedColumns_ne_nil (selection : ResultSelectionRect) : selectedColumns selection ≠ [] :=
  indexes_ne_nil (Nat.le_trans (Nat.min_le_left ..) (Nat.le_max_left ..))

theorem selectedRows_ne_nil (selection : ResultSelectionRect) : selectedRows selection ≠ [] :=
  indexes_ne_nil (Nat.le_trans (Nat.min_le_left ..) (Nat.le_max_left ..))

/-- A selection of one column is known by its corners. -/
theorem selectedColumns_eq_singleton_iff (selection : ResultSelectionRect) (column : Nat) :
    selectedColumns selection = [column] ↔ selection.startCol = column ∧ selection.endCol = column := by
  rw [selectedColumns, indexes, List.range'_eq_singleton_iff]
  simp only [normalizeSelection]
  omega

section Result
variable {columns rows}

theorem resultRecords_ends (present : columns ≠ []) :
    (2 ≤ (resultRecords floatText columns rows).length ∧ (resultRecords floatText columns rows).getLast? = some [""]) ↔
      EndsEmpty floatText columns rows := by
  have wide : 0 < columns.length := List.length_pos_iff.mpr present
  rcases List.eq_nil_or_concat rows with rfl | ⟨earlier, row, rfl⟩
  · simp [resultRecords, EndsEmpty]
  · have single (texts : Nat → String) :
        (List.range columns.length).map texts = [""] ↔ columns.length = 1 ∧ texts 0 = "" := by
      constructor
      · intro same
        have size := congrArg List.length same
        rw [List.length_map, List.length_range] at size
        rw [List.length_singleton] at size
        rw [size] at same
        exact ⟨size, (List.cons.inj same).1⟩
      · intro ⟨size, empty⟩
        rw [size, ← empty]
        rfl
    have last : (resultRecords floatText columns (earlier.concat row)).getLast? =
        some ((List.range columns.length).map fun column => cellValueToPlainText floatText row[column]?) := by
      rw [resultRecords, List.concat_eq_append, List.map_append, ← List.cons_append, List.map_singleton, List.getLast?_concat]
    rw [last, Option.some_inj, single, EndsEmpty]
    simp [resultRecords]

theorem resultRecords_nonempty (present : columns ≠ []) : ∀ fields ∈ resultRecords floatText columns rows, fields ≠ [] := by
  have wide : columns.length ≠ 0 := mt List.length_eq_zero_iff.mp present
  intro fields member
  obtain rfl | later := List.mem_cons.mp member
  · exact mt List.map_eq_nil_iff.mp present
  · obtain ⟨row, listed, rfl⟩ := List.mem_map.mp later
    exact mt List.map_eq_nil_iff.mp (mt List.range_eq_nil.mp wide)

end Result

theorem selectionRecords_ends (selection : ResultSelectionRect) :
    (2 ≤ (selectionRecords floatText columns rows selection).length ∧
        (selectionRecords floatText columns rows selection).getLast? = some [""]) ↔
      SelectionEndsEmpty floatText rows selection := by
  have last : (selectionRecords floatText columns rows selection).getLast? =
      some ((selectedColumns selection).map fun column =>
        cellValueToPlainText floatText (cellAt rows (max selection.startRow selection.endRow) column)) := by
    rw [selectionRecords, List.getLast?_cons_of_ne_nil, List.getLast?_map, selectedRows_getLast?]
    · rfl
    · exact mt List.map_eq_nil_iff.mp (selectedRows_ne_nil selection)
  have long : 2 ≤ (selectionRecords floatText columns rows selection).length := by
    have some_row := List.length_pos_iff.mpr (selectedRows_ne_nil selection)
    rw [selectionRecords, List.length_cons, List.length_map]
    omega
  rw [last, Option.some_inj, List.map_eq_singleton_iff]
  constructor
  · intro ⟨_, column, only, empty⟩
    obtain ⟨starts, ends⟩ := (selectedColumns_eq_singleton_iff selection column).mp only
    rw [SelectionEndsEmpty, starts, ends]
    exact ⟨rfl, empty⟩
  · intro ⟨same, empty⟩
    exact ⟨long, selection.startCol, (selectedColumns_eq_singleton_iff selection _).mpr ⟨rfl, same.symm⟩, empty⟩

theorem selectionRecords_nonempty (selection : ResultSelectionRect) :
    ∀ fields ∈ selectionRecords floatText columns rows selection, fields ≠ [] := by
  intro fields member
  obtain rfl | later := List.mem_cons.mp member
  · exact mt List.map_eq_nil_iff.mp (selectedColumns_ne_nil selection)
  · obtain ⟨row, listed, rfl⟩ := List.mem_map.mp later
    exact mt List.map_eq_nil_iff.mp (selectedColumns_ne_nil selection)

/-- Both exports are read back field by field, except where one column ends with an empty text. -/
theorem csv_parses :
    (columns ≠ [] → (Csv.parse (serializeResultAsCsv floatText columns rows).toList =
        some (characters (resultRecords floatText columns rows)) ↔ ¬EndsEmpty floatText columns rows)) ∧
      ∀ selection, (Csv.parse (serializeSelectionAsCsv floatText columns rows selection true).toList =
        some (characters (selectionRecords floatText columns rows selection)) ↔
          ¬SelectionEndsEmpty floatText rows selection) := by
  constructor
  · intro present
    have read := @parse_characters (resultRecords floatText columns rows) (List.cons_ne_nil _ _)
      (resultRecords_nonempty floatText present)
    rw [serializeResultAsCsv_toList, read, resultRecords_ends floatText present]
  · intro selection
    have read := @parse_characters (selectionRecords floatText columns rows selection) (List.cons_ne_nil _ _)
      (selectionRecords_nonempty floatText columns rows selection)
    rw [serializeSelectionAsCsv_toList, read, selectionRecords_ends]

theorem csv_parses_quoted :
    Csv.parse (serializeResultAsCsv (fun _ => "") [⟨"a,b", "text", none⟩] [[.text "\""]]).toList =
      some [[['a', ',', 'b']], [['"']]] :=
  ((csv_parses (fun _ => "") [⟨"a,b", "text", none⟩] [[.text "\""]]).1 (by decide)).mpr (by
    intro ⟨_, row, last, empty⟩
    obtain rfl := Option.some.inj last
    exact absurd empty (by decide))

/-- The empty text of the only row is lost with its line. -/
theorem csv_parses_empty :
    Csv.parse (serializeResultAsCsv (fun _ => "") [⟨"note", "text", none⟩] [[.text ""]]).toList = some [[['n', 'o', 't', 'e']]] ∧
      Csv.parse (serializeResultAsCsv (fun _ => "") [⟨"note", "text", none⟩] [[.text ""]]).toList ≠
        some (characters (resultRecords (fun _ => "") [⟨"note", "text", none⟩] [[.text ""]])) := by
  decide

end Pipa.ResultExport
