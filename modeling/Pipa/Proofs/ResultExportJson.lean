import Pipa.Library.JsNumber
import Pipa.Library.JsonValues
import Pipa.Library.TextLines
import Pipa.Proofs.ResultExportCsv
import Pipa.Proofs.SqlTextUnits
import Pipa.ResultExport
import Pipa.TableEdits

/-! What a JSON export is parsed as: the value of the selected cell, the object of the
selected row, or an object for each row, whatever JSON stands in the cells. -/

namespace Pipa.ResultExport
open JsonText Text
open SqlLexer (units units_append)

/-! ### Strings -/

/-- The UTF-16 units of a text. -/
def utf16Units (text : List Char) : List Nat := text.flatMap fun c => utf16 c.toNat

theorem scalar_apart (c : Char) : c.toNat < 0xD800 ∨ 0xDFFF < c.toNat ∧ c.toNat < 0x110000 := c.valid

/-- The units of a character are not the start of those of another one. -/
theorem utf16_prefix {c d : Char} {front back : List Nat} (same : utf16 c.toNat ++ front = utf16 d.toNat ++ back) :
    c = d ∧ front = back := by
  have apart := scalar_apart c
  have apart' := scalar_apart d
  have equal : c.toNat = d.toNat ∧ front = back := by
    rw [utf16, utf16] at same
    split at same
    next =>
      split at same
      next => simpa using same
      next =>
        obtain ⟨first, -⟩ := List.cons.inj same
        omega
    next =>
      split at same
      next =>
        obtain ⟨first, -⟩ := List.cons.inj same
        omega
      next =>
        obtain ⟨first, later⟩ := List.cons.inj same
        obtain ⟨second, behind⟩ := List.cons.inj later
        exact ⟨by omega, behind⟩
  exact ⟨Char.toNat_inj.mp equal.1, equal.2⟩

theorem utf16Units_injective : Function.Injective utf16Units := by
  intro first second same
  have nonempty (c : Char) (front : List Nat) : utf16 c.toNat ++ front ≠ [] := by
    rw [utf16]
    split
    all_goals exact List.cons_ne_nil _ _
  induction first generalizing second with
  | nil =>
    cases second with
    | nil => rfl
    | cons d second => exact absurd same.symm (nonempty d (utf16Units second))
  | cons c first ih =>
    cases second with
    | nil => exact absurd same (nonempty c (utf16Units first))
    | cons d second =>
      obtain ⟨rfl, later⟩ := utf16_prefix same
      rw [ih later]

theorem body_control {number : Nat} (control : number < 32) {body rest : List Nat} (behind : Body body rest) :
    Body ([92, 117, 48, 48, (Nat.digitChar (number / 16)).toNat, (Nat.digitChar (number % 16)).toNat] ++ body) (number :: rest) := by
  have all : ∀ number : Fin 32, hexUnit 48 48 (Nat.digitChar (number.val / 16)).toNat (Nat.digitChar (number.val % 16)).toNat =
      some number.val := by decide
  exact .unicode (all ⟨number, control⟩) behind

/-- The text inside of the quotes is a body with the units of the text. -/
theorem body_escaped (text : List Char) : Body ((text.flatMap jsonEscape).map Char.toNat) (utf16Units text) := by
  induction text with
  | nil => exact .nil
  | cons c text ih =>
    have units : utf16Units (c :: text) = utf16 c.toNat ++ utf16Units text := List.flatMap_cons
    rw [List.flatMap_cons, List.map_append, units, jsonEscape]
    split
    next same => subst same; exact .escape rfl ih
    split
    next same => subst same; exact .escape rfl ih
    split
    next same => subst same; exact .escape rfl ih
    split
    next same => subst same; exact .escape rfl ih
    split
    next same => subst same; exact .escape rfl ih
    split
    next same => subst same; exact .escape rfl ih
    split
    next same => subst same; exact .escape rfl ih
    split
    next control =>
      have single : utf16 c.toNat = [c.toNat] := if_pos (by omega)
      rw [single]
      exact body_control control ih
    next unquoted bare _ _ _ _ _ visible =>
      have unquoted' : c.toNat ≠ 34 := fun same => unquoted (@Char.toNat_inj c '"' |>.mp same)
      have bare' : c.toNat ≠ 92 := fun same => bare (@Char.toNat_inj c '\\' |>.mp same)
      exact .plain (Nat.not_lt.mp visible) unquoted' bare' ih

/-- The lexeme of a text. -/
def textLexeme (text : String) : Lexeme := ⟨.string (utf16Units text.toList), units (stringifyText text)⟩

theorem textLexeme_text (text : String) : (textLexeme text).text = units (stringifyText text) := by
  rw [textLexeme]

theorem textLexeme_proper (text : String) : Proper (textLexeme text) := by
  have shape : units (stringifyText text) = 34 :: ((text.toList.flatMap jsonEscape).map Char.toNat ++ [34]) := by
    rw [stringifyText, units_append, units_append]
    simp only [units, String.toList_ofList]
    rfl
  rw [textLexeme, shape]
  exact .string (body_escaped text.toList)

theorem textLexeme_laid (text : String) : Laid [textLexeme text] (units (stringifyText text)) := by
  rw [← textLexeme_text]
  exact laid_single (textLexeme_proper text)

/-! ### Cells -/

section Cells
variable (floatText : UInt64 → String)

/-- The text of a double is a JSON number that is read as this double. -/
structure JsonNumeral (bits : UInt64) : Prop where
  finite : isFiniteBits bits = true
  spelled : lexemes (units (floatText bits)) = some [⟨.number (units (floatText bits)), units (floatText bits)⟩]
  read : JsNumber.number (floatText bits).toList = some (JsNumber.ofBits bits)

/-- Cells with valid JSON and finite doubles. -/
def Exportable : CellValue → Prop
  | .json value => TableEdits.jsonParses value = true
  | .float bits => JsonNumeral floatText bits
  | _ => True

/-- The value of a cell in JSON: doubles as numbers, other numbers as texts. -/
inductive CellMeans : Option CellValue → Json → Prop
  | missing : CellMeans none .null
  | null : CellMeans (some .null) .null
  | boolean (value : Bool) : CellMeans (some (.boolean value)) (.boolean value)
  | float {bits : UInt64} (numeral : JsonNumeral floatText bits) :
      CellMeans (some (.float bits)) (.number (units (floatText bits)))
  | json {value : String} {found : Json} (parsed : parse (units value) = some found) : CellMeans (some (.json value)) found
  | integer (value : String) : CellMeans (some (.integer value)) (.string (utf16Units value.toList))
  | decimal (value : String) : CellMeans (some (.decimal value)) (.string (utf16Units value.toList))
  | text (value : String) : CellMeans (some (.text value)) (.string (utf16Units value.toList))
  | dateTime (value : String) : CellMeans (some (.dateTime value)) (.string (utf16Units value.toList))
  | binary (value : String) : CellMeans (some (.binary value)) (.string (utf16Units value.toList))

/-- A text with the lexemes of a document. -/
structure Documents (text : String) (read : List Lexeme) (found : Json) : Prop where
  scanned : lexemes (units text) = some read
  means : Means read found

theorem documents_single {text : String} {written : Lexeme} {found : Json} (proper : Proper written) (shape : written.text = units text)
    (read : scalar written = some found) : Documents text [written] found := by
  have laid := laid_single proper
  rw [shape] at laid
  exact ⟨lexemes_of_laid laid (.singleton _), .scalar read⟩

theorem documents_text (text : String) : Documents (stringifyText text) [textLexeme text] (.string (utf16Units text.toList)) :=
  documents_single (textLexeme_proper text) (textLexeme_text text) rfl

theorem documents_json {text : String} (valid : TableEdits.jsonParses text = true) : ∃ read found, Documents text read found := by
  obtain ⟨tokens, scanned, accepted⟩ := (Option.any_eq_true _ _).mp valid
  rw [tokens_eq] at scanned
  obtain ⟨read, isRead, same⟩ := Option.map_eq_some_iff.mp scanned
  obtain ⟨found, means⟩ := ((accepts_iff tokens).mp accepted).means same
  exact ⟨read, found, isRead, means⟩

/-- The literal of a cell is a document with the value of the cell. -/
theorem cellValueToJsonLiteral_means {cell : Option CellValue} (exportable : ∀ value ∈ cell, Exportable floatText value) :
    ∃ read found, Documents (cellValueToJsonLiteral floatText cell) read found ∧ CellMeans floatText cell found := by
  have word (text : String) (found : Json) (listed : units text ∈ literalTexts) (read : scalar ⟨.literal, units text⟩ = some found) :
      Documents text [⟨.literal, units text⟩] found := documents_single (.literal listed) rfl read
  cases cell with
  | none => exact ⟨_, _, word "null" .null (by decide) rfl, .missing⟩
  | some value =>
    have ready := exportable value rfl
    cases value with
    | null => exact ⟨_, _, word "null" .null (by decide) rfl, .null⟩
    | boolean value =>
      cases value with
      | true => exact ⟨_, _, word "true" (.boolean true) (by decide) rfl, .boolean true⟩
      | false => exact ⟨_, _, word "false" (.boolean false) (by decide) rfl, .boolean false⟩
    | float bits =>
      have numeral : JsonNumeral floatText bits := ready
      rw [cellValueToJsonLiteral, if_pos numeral.finite]
      exact ⟨_, .number (units (floatText bits)), ⟨numeral.spelled, .scalar rfl⟩, .float numeral⟩
    | json value =>
      obtain ⟨read, found, documents⟩ := documents_json ready
      exact ⟨read, found, documents, .json (parse_of_means documents.scanned documents.means)⟩
    | integer value => exact ⟨_, _, documents_text value, .integer value⟩
    | decimal value => exact ⟨_, _, documents_text value, .decimal value⟩
    | text value => exact ⟨_, _, documents_text value, .text value⟩
    | dateTime value => exact ⟨_, _, documents_text value, .dateTime value⟩
    | binary value => exact ⟨_, _, documents_text value, .binary value⟩

end Cells

/-! ### Objects and arrays -/

section Layout
variable {floatText : UInt64 → String} {columns : List QueryColumn}

def fieldName (columns : List QueryColumn) (column : Nat) : String :=
  (columns[column]?.map (·.name)).getD ("column_" ++ toString column)

/-- The lexemes of a name and of its value. -/
def memberLexemes (columns : List QueryColumn) (column : Nat) (read : List Lexeme) : List Lexeme :=
  textLexeme (fieldName columns column) :: colon :: read

theorem laid_comma : Laid [comma] (units ",\n") := by
  have laid : Laid [comma] [44, 10] := .lexeme (.mark rfl) (.blank rfl .nil)
  exact laid

theorem jsonField_laid {rows : List (List CellValue)} {row column : Nat} {read : List Lexeme}
    (laid : Laid read (units (cellValueToJsonLiteral floatText (cellAt rows row column)))) :
    Laid (memberLexemes columns column read) (units (jsonField floatText columns rows row column)) := by
  have front : Laid [] [32, 32] := .blank rfl (.blank rfl .nil)
  have middle : Laid [colon] [58, 32] := .lexeme (.mark rfl) (.blank rfl .nil)
  have name := textLexeme_laid (fieldName columns column)
  have shape : units (jsonField floatText columns rows row column) = [32, 32] ++ units (stringifyText (fieldName columns column)) ++
      [58, 32] ++ units (cellValueToJsonLiteral floatText (cellAt rows row column)) := by
    rw [jsonField, units_append, units_append, units_append]
    rfl
  rw [shape]
  exact ((front.append name).append middle).append laid

theorem jsonObject_laid {rows : List (List CellValue)} {columnIndexes : List Nat} {row : Nat} {read : Nat → List Lexeme}
    (laid : ∀ column, Laid (read column) (units (cellValueToJsonLiteral floatText (cellAt rows row column)))) :
    Laid (objectOf (columnIndexes.map fun column => memberLexemes columns column (read column)))
      (units (jsonObject floatText columns rows columnIndexes row)) := by
  have opening : Laid [⟨.openObject, [123]⟩] [123, 10] := .lexeme (.mark rfl) (.blank rfl .nil)
  have closing : Laid [⟨.closeObject, [125]⟩] [10, 125] := .blank rfl (.lexeme (.mark rfl) .nil)
  have fields : List.Forall₂ Laid (columnIndexes.map fun column => memberLexemes columns column (read column))
      ((columnIndexes.map (jsonField floatText columns rows row)).map units) := by
    rw [List.map_map, List.forall₂_map_left_iff, List.forall₂_map_right_iff, List.forall₂_same]
    intro column _
    rw [Function.comp_apply]
    exact @jsonField_laid floatText columns rows row column (read column) (laid column)
  have shape : units (jsonObject floatText columns rows columnIndexes row) = [123, 10] ++
      (units ",\n").intercalate ((columnIndexes.map (jsonField floatText columns rows row)).map units) ++ [10, 125] := by
    rw [jsonObject, units_append, units_append, units_join]
    rfl
  rw [shape]
  exact (opening.append (laid_comma.intercalate fields)).append closing

theorem indented_pieces {pieces : List (List Char)} (free : ∀ piece ∈ pieces, '\n' ∉ piece) (nonempty : pieces ≠ []) :
    ['\n'].intercalate (pieces.map ([' ', ' '] ++ ·)) =
      [' ', ' '] ++ (['\n'].intercalate pieces).flatMap fun c => if c = '\n' then ['\n', ' ', ' '] else [c] := by
  have whole (piece : List Char) (free : '\n' ∉ piece) :
      (piece.flatMap fun c => if c = '\n' then ['\n', ' ', ' '] else [c]) = piece := by
    have same : (piece.flatMap fun c => if c = '\n' then ['\n', ' ', ' '] else [c]) = piece.flatMap fun c => [c] :=
      List.flatMap_congr fun c member => if_neg (ne_of_mem_of_not_mem member free)
    rw [same, List.flatMap_singleton']
  induction pieces with
  | nil => exact absurd rfl nonempty
  | cons piece pieces ih =>
    obtain ⟨first, later⟩ := List.forall_mem_cons.mp free
    cases pieces with
    | nil => rw [List.map_singleton, List.intercalate_singleton, List.intercalate_singleton, whole piece first]
    | cons second pieces =>
      have behind := ih later (List.cons_ne_nil _ _)
      rw [List.map_cons] at behind
      rw [List.map_cons, List.map_cons, List.intercalate_cons_cons, List.intercalate_cons_cons, behind, List.flatMap_append,
        List.flatMap_append, whole piece first, List.append_assoc, List.append_assoc, List.append_assoc]
      rfl

theorem indented_units (text : String) : units (indented text) = [32, 32] ++ indent [32, 32] (units text) := by
  have lines : (indented text).toList = [' ', ' '] ++ text.toList.flatMap fun c => if c = '\n' then ['\n', ' ', ' '] else [c] := by
    have pieces := @indented_pieces (text.toList.splitOn '\n') (fun piece member => TextLines.free_of_mem_splitOn member)
      (List.splitOn_ne_nil _ _)
    rw [List.intercalate_splitOn] at pieces
    have newline : "\n".toList = ['\n'] := rfl
    have padded : (text.toList.splitOn '\n').map ((String.toList ∘ ("  " ++ ·)) ∘ String.ofList) =
        (text.toList.splitOn '\n').map ([' ', ' '] ++ ·) := List.map_congr_left fun piece _ => by simp
    rw [indented, split, String.toList_intercalate, List.map_map, List.map_map, newline, padded, pieces]
  have spread (characters : List Char) :
      (characters.flatMap fun c => if c = '\n' then ['\n', ' ', ' '] else [c]).map Char.toNat = indent [32, 32] (characters.map Char.toNat) := by
    induction characters with
    | nil => rfl
    | cons c rest ih =>
      rw [List.flatMap_cons, List.map_append, ih, List.map_cons, indent, indent, List.flatMap_cons]
      by_cases breaks : c = '\n'
      · subst c
        rfl
      · have other : c.toNat ≠ 10 := fun same => breaks (@Char.toNat_inj c '\n' |>.mp same)
        rw [if_neg breaks, if_neg other]
        rfl
  rw [units, lines, List.map_append, spread]
  rfl

theorem indented_laid {written : List Lexeme} {text : String} (laid : Laid written (units text)) :
    Laid written (units (indented text)) := by
  have front : Laid [] [32, 32] := .blank rfl (.blank rfl .nil)
  rw [indented_units]
  exact front.append (laid.indent (by simp [isSpace]))

theorem jsonObject_means {columnIndexes : List Nat} {read : Nat → List Lexeme} {found : Nat → Json} (nonempty : columnIndexes ≠ [])
    (means : ∀ column, Means (read column) (found column)) :
    Means (objectOf (columnIndexes.map fun column => memberLexemes columns column (read column)))
      (.object (columnIndexes.map fun column => (utf16Units (fieldName columns column).toList, found column))) := by
  apply means_objectOf
  · rw [List.forall₂_map_left_iff, List.forall₂_map_right_iff, List.forall₂_same]
    exact fun column _ => ⟨_, _, _, rfl, rfl, rfl, means column⟩
  · exact mt List.map_eq_nil_iff.mp nonempty

theorem documents_of_laid {text : String} {read : List Lexeme} {found : Json} (laid : Laid read (units text)) (means : Means read found) :
    Documents text read found := ⟨lexemes_of_laid laid (apart_of_value means.value), means⟩

end Layout

/-! ### Selections -/

section Selection
variable (floatText : UInt64 → String) (columns : List QueryColumn) (rows : List (List CellValue)) (selection : ResultSelectionRect)

/-- One cell, one row, or a table of rows. -/
def selected {α : Type} (cell : Nat → Nat → α) (row : Nat → α) (table : List α → α) : α :=
  match selectedRows selection, selectedColumns selection with
  | [first], [column] => cell first column
  | [first], _ => row first
  | rows, _ => table (rows.map row)

def rowLexemes (read : Nat → Nat → List Lexeme) (row : Nat) : List Lexeme :=
  objectOf ((selectedColumns selection).map fun column => memberLexemes columns column (read row column))

def rowValue (found : Nat → Nat → Json) (row : Nat) : Json :=
  .object ((selectedColumns selection).map fun column => (utf16Units (fieldName columns column).toList, found row column))

theorem indexes_cons {first last : Nat} (ordered : first ≤ last) :
    indexes first last = first :: List.range' (first + 1) (last - first) := by
  rw [indexes, Nat.sub_add_comm ordered, List.range'_succ]

section Cases
variable {α : Type} {cell : Nat → Nat → α} {row : Nat → α} {table : List α → α} {selection}

theorem selected_cell {first column : Nat} (here : selectedRows selection = [first]) (there : selectedColumns selection = [column]) :
    selected selection cell row table = cell first column := by
  rw [selected, here, there]

theorem selected_row {first : Nat} (here : selectedRows selection = [first]) (wide : (selectedColumns selection).length ≠ 1) :
    selected selection cell row table = row first := by
  rw [selected, here]
  rcases there : selectedColumns selection with _ | ⟨column, _ | ⟨other, more⟩⟩
  · rfl
  · rw [there] at wide
    exact absurd rfl wide
  · rfl

theorem selected_table (tall : (selectedRows selection).length ≠ 1) :
    selected selection cell row table = table ((selectedRows selection).map row) := by
  rw [selected]
  rcases here : selectedRows selection with _ | ⟨first, _ | ⟨second, more⟩⟩
  · rfl
  · rw [here] at tall
    exact absurd rfl tall
  · rfl

end Cases

/-- The export is the document of the selection. -/
theorem serializeSelectionAsJson_documents {read : Nat → Nat → List Lexeme} {found : Nat → Nat → Json}
    (each : ∀ row column, Documents (cellValueToJsonLiteral floatText (cellAt rows row column)) (read row column) (found row column)) :
    Documents (serializeSelectionAsJson floatText columns rows selection)
      (selected selection read (rowLexemes columns selection read) arrayOf)
      (selected selection found (rowValue columns selection found) .array) := by
  have laid (row column : Nat) := laid_of_lexemes (each row column).scanned
  have means (row column : Nat) := (each row column).means
  have ordered : (normalizeSelection selection).startRow ≤ (normalizeSelection selection).endRow :=
    Nat.le_trans (Nat.min_le_left _ _) (Nat.le_max_left _ _)
  have shape : selectedRows selection = (normalizeSelection selection).startRow ::
      List.range' ((normalizeSelection selection).startRow + 1)
        ((normalizeSelection selection).endRow - (normalizeSelection selection).startRow) := indexes_cons ordered
  have object (row : Nat) : Laid (rowLexemes columns selection read row)
      (units (jsonObject floatText columns rows (selectedColumns selection) row)) := jsonObject_laid (laid row)
  have value (row : Nat) : Means (rowLexemes columns selection read row) (rowValue columns selection found row) :=
    jsonObject_means (selectedColumns_ne_nil selection) (means row)
  rw [serializeSelectionAsJson]
  by_cases single : (normalizeSelection selection).startRow = (normalizeSelection selection).endRow
  · have alone : selectedRows selection = [(normalizeSelection selection).startRow] := by
      rw [shape, ← single, Nat.sub_self]
      rfl
    by_cases narrow : (selectedColumns selection).length = 1
    · obtain ⟨column, isColumn⟩ := List.length_eq_one_iff.mp narrow
      simp only [if_pos (And.intro single narrow), selected_cell alone isColumn]
      rw [isColumn]
      exact each _ _
    · simp only [if_neg fun both => narrow (And.right both), alone, List.map_singleton, List.length_singleton, if_true,
        List.headD_cons, selected_row alone narrow]
      exact documents_of_laid (object _) (value _)
  · have tall : (selectedRows selection).length ≠ 1 := by
      rw [shape, List.length_cons, List.length_range']
      omega
    have items : List.Forall₂ Laid ((selectedRows selection).map (rowLexemes columns selection read))
        ((((selectedRows selection).map (jsonObject floatText columns rows (selectedColumns selection))).map indented).map units) := by
      rw [List.map_map, List.map_map, List.forall₂_map_left_iff, List.forall₂_map_right_iff, List.forall₂_same]
      intro row _
      rw [Function.comp_apply, Function.comp_apply]
      exact indented_laid (object row)
    have values : List.Forall₂ Means ((selectedRows selection).map (rowLexemes columns selection read))
        ((selectedRows selection).map (rowValue columns selection found)) := by
      rw [List.forall₂_map_left_iff, List.forall₂_map_right_iff, List.forall₂_same]
      exact fun row _ => value row
    have opening : Laid [⟨.openArray, [91]⟩] [91, 10] := .lexeme (.mark rfl) (.blank rfl .nil)
    have closing : Laid [⟨.closeArray, [93]⟩] [10, 93] := .blank rfl (.lexeme (.mark rfl) .nil)
    simp only [if_neg fun both => single (And.left both), List.length_map, if_neg tall, selected_table tall]
    refine documents_of_laid ?_ (means_arrayOf values (by rw [shape]; exact List.cons_ne_nil _ _))
    have outer (text : String) : units ("[\n" ++ text ++ "\n]") = [91, 10] ++ units text ++ [10, 93] := by
      rw [units_append, units_append]
      rfl
    rw [outer, units_join]
    exact (opening.append (laid_comma.intercalate items)).append closing

theorem cellAt_exportable (exportable : ∀ row ∈ rows, ∀ cell ∈ row, Exportable floatText cell) (row column : Nat) :
    ∀ cell ∈ cellAt rows row column, Exportable floatText cell := by
  intro cell found
  obtain ⟨cells, here, there⟩ := Option.bind_eq_some_iff.mp found
  exact exportable cells (List.mem_of_getElem? here) cell (List.mem_of_getElem? there)

/-- The export is one JSON text. It is parsed as the selected cell, the object of the selected
row or the array of the rows' objects, each name leads to the value of its cell, and every cell
stands there with its own lexemes. -/
theorem serializeSelectionAsJson_parses (exportable : ∀ row ∈ rows, ∀ cell ∈ row, Exportable floatText cell)
    (distinct : ((selectedColumns selection).map (fieldName columns)).Nodup) :
    ∃ (read : Nat → Nat → List Lexeme) (found : Nat → Nat → Json),
      (∀ row column, lexemes (units (cellValueToJsonLiteral floatText (cellAt rows row column))) = some (read row column) ∧
        CellMeans floatText (cellAt rows row column) (found row column)) ∧
      TableEdits.jsonParses (serializeSelectionAsJson floatText columns rows selection) = true ∧
      lexemes (units (serializeSelectionAsJson floatText columns rows selection)) =
        some (selected selection read (rowLexemes columns selection read) arrayOf) ∧
      parse (units (serializeSelectionAsJson floatText columns rows selection)) =
        some (selected selection found (rowValue columns selection found) .array) ∧
      ∀ row, ∀ column ∈ selectedColumns selection,
        (rowValue columns selection found row).member (utf16Units (fieldName columns column).toList) = some (found row column) := by
  have cell (row column : Nat) := cellValueToJsonLiteral_means floatText (cellAt_exportable floatText rows exportable row column)
  choose read found documents means using cell
  have whole := serializeSelectionAsJson_documents floatText columns rows selection documents
  refine ⟨read, found, fun row column => ⟨(documents row column).scanned, means row column⟩, ?_, whole.scanned,
    parse_of_means whole.scanned whole.means, ?_⟩
  · have scanned : tokens (units (serializeSelectionAsJson floatText columns rows selection)) =
        some ((selected selection read (rowLexemes columns selection read) arrayOf).map (·.token)) := by
      rw [tokens_eq, whole.scanned, Option.map_some]
    rw [TableEdits.jsonParses, scanned, Option.any_some]
    exact (accepts_iff _).mpr whole.means.value
  · intro row column member
    apply member_of_nodup
    · rw [List.map_map]
      have names : (((selectedColumns selection).map (fieldName columns)).map fun name => utf16Units name.toList).Nodup :=
        distinct.map fun _ _ same => String.toList_inj.mp (utf16Units_injective same)
      rwa [List.map_map] at names
    · exact List.mem_map.mpr ⟨column, member, rfl⟩

theorem serializeSelectionAsJson_parses_nested :
    TableEdits.jsonParses (serializeSelectionAsJson (fun _ => "1.5") [⟨"id", "bigint", none⟩, ⟨"data", "json", none⟩]
      [[.integer "1", .json "[1,\n 2]"], [.float 0x3FF8000000000000, .json "\"a\""]] ⟨0, 0, 1, 1⟩) = true := by
  obtain ⟨_, _, -, valid, -⟩ := serializeSelectionAsJson_parses (fun _ => "1.5") [⟨"id", "bigint", none⟩, ⟨"data", "json", none⟩]
    [[.integer "1", .json "[1,\n 2]"], [.float 0x3FF8000000000000, .json "\"a\""]] ⟨0, 0, 1, 1⟩ (by
      have first : Exportable (fun _ => "1.5") (.json "[1,\n 2]") := by
        change TableEdits.jsonParses _ = true
        decide +kernel
      have second : Exportable (fun _ => "1.5") (.json "\"a\"") := by
        change TableEdits.jsonParses _ = true
        decide +kernel
      have number : Exportable (fun _ => "1.5") (.float 0x3FF8000000000000) :=
        JsonNumeral.mk (by decide) (by decide +kernel) (by decide +kernel)
      simpa [Exportable] using ⟨first, number, second⟩) (by decide)
  exact valid

end Selection

end Pipa.ResultExport
