import Pipa.Library.TextLines
import Pipa.Proofs.SqlTextUnits
import Pipa.ResultExport

/-! The table that an exported INSERT names. The two names are joined to one text and taken
apart again, so a name keeps its place only if nothing in it is read as a separator and
nothing at its ends as decoration. -/

namespace Pipa.TableExport
open ResultExport SqlLexer Text

/-! ### Names joined by points -/

def readPathFuel : Nat → List Nat → List (List Nat)
  | 0, _ => []
  | fuel + 1, text =>
    match readName text with
    | none => []
    | some (name, behind) => name :: if behind.head? = some 46 then readPathFuel fuel behind.tail else []

/-- Quoted names that are joined by points. -/
def readPath (text : List Nat) : List (List Nat) := readPathFuel text.length text

/-- The table behind these words, or nothing if a statement begins otherwise. -/
def tableBehind (words statement : String) : Option (List (List Nat)) :=
  ((units statement).dropPrefix? (units words)).map readPath

theorem readPathFuel_written {names : List String} (present : names ≠ []) {fuel : Nat} (enough : names.length ≤ fuel)
    {rest : List Nat} (apart : rest.head? ≠ some 96) (last : rest.head? ≠ some 46) :
    readPathFuel fuel (units (".".intercalate (names.map quoteIdentifier)) ++ rest) = names.map units := by
  induction names generalizing fuel with
  | nil => exact absurd rfl present
  | cons name names ih =>
    obtain ⟨fuel, rfl⟩ : ∃ less, fuel = less + 1 := ⟨fuel - 1, by simp at enough; omega⟩
    cases names with
    | nil =>
      rw [List.map_singleton, String.intercalate_singleton, readPathFuel, readName_quoted name apart]
      simp [last]
    | cons next names =>
      have shape : units (".".intercalate ((name :: next :: names).map quoteIdentifier)) ++ rest =
          units (quoteIdentifier name) ++ 46 :: (units (".".intercalate ((next :: names).map quoteIdentifier)) ++ rest) := by
        rw [List.map_cons, List.map_cons, String.intercalate_cons_cons, units_append, units_append, List.append_assoc,
          List.append_assoc]
        rfl
      have enough' : (next :: names).length ≤ fuel := by
        simp only [List.length_cons] at enough ⊢
        omega
      rw [shape, readPathFuel, readName_quoted name (by simp)]
      simp only [List.head?_cons, if_true, List.tail_cons]
      rw [ih (List.cons_ne_nil _ _) enough']
      rfl

theorem length_path (names : List String) : names.length ≤ (units (".".intercalate (names.map quoteIdentifier))).length := by
  induction names with
  | nil => exact Nat.zero_le _
  | cons name names ih =>
    have quoted : 1 ≤ (units (quoteIdentifier name)).length := by
      rw [quoteIdentifier_units]
      exact Nat.succ_pos _
    cases names with
    | nil => simpa using quoted
    | cons next names =>
      rw [List.map_cons, List.map_cons, String.intercalate_cons_cons, units_append, units_append, List.length_append,
        List.length_append, List.length_cons]
      rw [List.map_cons] at ih
      have point : (units ".").length = 1 := rfl
      omega

theorem readPath_written {names : List String} (present : names ≠ []) {rest : List Nat} (apart : rest.head? ≠ some 96)
    (last : rest.head? ≠ some 46) : readPath (units (".".intercalate (names.map quoteIdentifier)) ++ rest) = names.map units := by
  refine readPathFuel_written present ?_ apart last
  rw [List.length_append]
  exact Nat.le_add_right_of_le (length_path names)

theorem tableBehind_written {words : String} {names : List String} (present : names ≠ []) {rest : String}
    (apart : (units rest).head? ≠ some 96) (last : (units rest).head? ≠ some 46) :
    tableBehind words (words ++ (".".intercalate (names.map quoteIdentifier) ++ rest)) = some (names.map units) := by
  rw [tableBehind, units_append, List.dropPrefix?_append_of_beq _ (beq_self_eq_true _), Option.map_some, units_append,
    readPath_written present apart last]

/-! ### The parts of a combined name -/

section Trimmed
variable {test : Char → Bool} {text : String}

theorem trimMatches_sublist : (trimMatches test text).toList.Sublist text.toList := by
  rw [trimMatches_toList]
  exact ((List.rdropWhile_prefix test _).sublist).trans (List.dropWhile_sublist test)

/-- A text keeps its ends if they fail the test. -/
theorem trimMatches_eq_self_iff : trimMatches test text = text ↔
    (∀ c ∈ text.toList.head?, test c = false) ∧ ∀ c ∈ text.toList.getLast?, test c = false := by
  rw [← String.toList_inj, trimMatches_toList]
  have front : text.toList.dropWhile test = text.toList ↔ ∀ c ∈ text.toList.head?, test c = false := by
    cases text.toList with
    | nil => simp
    | cons c rest => simp [List.dropWhile_eq_self_iff]
  have back : text.toList.rdropWhile test = text.toList ↔ ∀ c ∈ text.toList.getLast?, test c = false := by
    rw [List.rdropWhile_eq_self_iff]
    constructor
    · intro fails c last
      obtain ⟨nonempty, rfl⟩ := List.mem_getLast?_eq_getLast last
      exact Bool.eq_false_iff.mpr (fails nonempty)
    · intro fails nonempty
      exact Bool.eq_false_iff.mp (fails _ (List.getLast_mem_getLast? nonempty))
  rw [← front, ← back]
  constructor
  · intro same
    have shorter := (List.rdropWhile_prefix test (text.toList.dropWhile test)).length_le
    rw [same] at shorter
    have whole := (List.dropWhile_suffix test).eq_of_length_le shorter
    rw [whole] at same
    exact ⟨whole, same⟩
  · intro ⟨whole, same⟩
    rw [whole, same]

end Trimmed

/-- What is left of a part of the combined name. -/
def bare (part : String) : String := trimMatches (· == '\x60') (jsTrim part)

/-- A name that stays itself between the points of a combined name. -/
structure Kept (name : String) : Prop where
  nonempty : name ≠ ""
  undotted : '.' ∉ name.toList
  front : ∀ c ∈ name.toList.head?, isJsWhitespace c = false ∧ c ≠ '\x60'
  back : ∀ c ∈ name.toList.getLast?, isJsWhitespace c = false ∧ c ≠ '\x60'

theorem bare_eq_self_iff {name : String} : bare name = name ↔
    (∀ c ∈ name.toList.head?, isJsWhitespace c = false ∧ c ≠ '\x60') ∧
      ∀ c ∈ name.toList.getLast?, isJsWhitespace c = false ∧ c ≠ '\x60' := by
  have both : bare name = name ↔ jsTrim name = name ∧ trimMatches (· == '\x60') name = name := by
    constructor
    · intro same
      have shorter := (@trimMatches_sublist (· == '\x60') (jsTrim name)).length_le
      rw [← bare, same] at shorter
      have whole := String.toList_inj.mp ((@trimMatches_sublist isJsWhitespace name).eq_of_length_le shorter)
      rw [bare, jsTrim, whole] at same
      exact ⟨whole, same⟩
    · intro kept
      obtain ⟨whole, same⟩ := kept
      rw [bare, whole, same]
  rw [both, jsTrim, trimMatches_eq_self_iff, trimMatches_eq_self_iff]
  simp only [beq_eq_false_iff_ne]
  constructor
  · intro ends
    obtain ⟨⟨front, back⟩, front', back'⟩ := ends
    exact ⟨fun c first => ⟨front c first, front' c first⟩, fun c last => ⟨back c last, back' c last⟩⟩
  · intro ends
    obtain ⟨front, back⟩ := ends
    exact ⟨⟨fun c first => (front c first).1, fun c last => (back c last).1⟩, fun c first => (front c first).2,
      fun c last => (back c last).2⟩

theorem kept_iff {name : String} : Kept name ↔ name ≠ "" ∧ '.' ∉ name.toList ∧ bare name = name := by
  rw [bare_eq_self_iff]
  constructor
  · intro kept
    exact ⟨kept.nonempty, kept.undotted, kept.front, kept.back⟩
  · intro ⟨nonempty, undotted, front, back⟩
    exact ⟨nonempty, undotted, front, back⟩

theorem insertTargetParts_eq (database tableName : String) :
    insertTargetParts (database ++ "." ++ tableName) =
      (((database.toList.splitOn '.' ++ tableName.toList.splitOn '.').map String.ofList).map bare).filter (!·.isEmpty) := by
  have pieces : (database ++ "." ++ tableName).toList.splitOn '.' =
      database.toList.splitOn '.' ++ tableName.toList.splitOn '.' := by
    rw [String.toList_append, String.toList_append, List.append_assoc]
    exact List.splitOn_append_cons_self _ _
  rw [insertTargetParts, split, pieces]
  rfl

theorem parts_undotted {tableName part : String} (member : part ∈ insertTargetParts tableName) : '.' ∉ part.toList := by
  obtain ⟨listed, -⟩ := List.mem_filter.mp member
  obtain ⟨piece, inside, rfl⟩ := List.mem_map.mp listed
  obtain ⟨characters, split, rfl⟩ := List.mem_map.mp inside
  intro point
  have original := mem_trimMatches (mem_trimMatches point)
  rw [String.toList_ofList] at original
  exact TextLines.free_of_mem_splitOn split original

/-- The two names are found again exactly if both keep. -/
theorem parts_eq_iff (database tableName : String) :
    insertTargetParts (database ++ "." ++ tableName) = [database, tableName] ↔ Kept database ∧ Kept tableName := by
  rw [kept_iff, kept_iff]
  have filled {part : String} (member : part ∈ insertTargetParts (database ++ "." ++ tableName)) : part ≠ "" := by
    rintro rfl
    cases (List.mem_filter.mp member).2
  have pieces (undotted : '.' ∉ database.toList) (undotted' : '.' ∉ tableName.toList) :
      insertTargetParts (database ++ "." ++ tableName) = [bare database, bare tableName].filter (!·.isEmpty) := by
    rw [insertTargetParts_eq, List.splitOn_eq_singleton undotted, List.splitOn_eq_singleton undotted']
    simp only [List.singleton_append, List.map_cons, List.map_nil, String.ofList_toList]
  constructor
  · intro same
    have first : database ∈ insertTargetParts (database ++ "." ++ tableName) := by simp [same]
    have second : tableName ∈ insertTargetParts (database ++ "." ++ tableName) := by simp [same]
    have undotted := parts_undotted first
    have undotted' := parts_undotted second
    have all : [bare database, bare tableName].filter (!·.isEmpty) = [bare database, bare tableName] := by
      refine (List.filter_sublist).eq_of_length_le ?_
      rw [← pieces undotted undotted', same]
      exact Nat.le_refl 2
    have both := (pieces undotted undotted').symm.trans same
    rw [all] at both
    obtain ⟨here, there⟩ := List.cons.inj both
    exact ⟨⟨filled first, undotted, here⟩, filled second, undotted', (List.cons.inj there).1⟩
  · intro ⟨⟨nonempty, undotted, whole⟩, nonempty', undotted', whole'⟩
    rw [pieces undotted undotted', whole, whole']
    simp [nonempty, nonempty']

/-! ### The target of the export -/

section Targets
variable (floatText : UInt64 → String) (toLowerCase : String → String)

/-- The names in the target of an INSERT statement. -/
def targetNames (tableName : String) : List String :=
  if insertTargetParts tableName = [] then ["your_table"] else insertTargetParts tableName

theorem targetNames_ne_nil (tableName : String) : targetNames tableName ≠ [] := by
  rw [targetNames]
  split
  · exact List.cons_ne_nil _ _
  · assumption

theorem formatInsertTableTarget_eq (tableName : String) :
    formatInsertTableTarget tableName = ".".intercalate ((targetNames tableName).map quoteIdentifier) := by
  rw [formatInsertTableTarget, targetNames]
  split
  · rw [List.map_singleton, String.intercalate_singleton]
  · rfl

theorem select_target (database tableName : String) :
    tableBehind "SELECT * FROM " (buildSelectAllStatement database tableName) = some [units database, units tableName] := by
  have written := @tableBehind_written "SELECT * FROM " [database, tableName] (List.cons_ne_nil _ _) ";" (by decide) (by decide)
  rw [List.map_cons, List.map_singleton, String.intercalate_cons_cons, String.intercalate_singleton] at written
  have shape : buildSelectAllStatement database tableName =
      "SELECT * FROM " ++ (quoteIdentifier database ++ "." ++ quoteIdentifier tableName ++ ";") := by
    change "SELECT * FROM " ++ quoteIdentifier database ++ "." ++ quoteIdentifier tableName ++ ";" = _
    simp only [String.append_assoc]
  rw [shape, written]
  rfl

/-- An INSERT statement goes on behind its target with a blank. -/
theorem serializeRowsAsInsert_starts {columns : List QueryColumn} {rows : List (List CellValue)} (tableName : String)
    {includePrimaryKey : Bool} {rowIndexes : Option (List Nat)}
    (named : insertedColumns toLowerCase columns includePrimaryKey ≠ []) (present : rowIndexes.getD (List.range rows.length) ≠ []) :
    ∃ rest, serializeRowsAsInsert floatText toLowerCase columns rows tableName includePrimaryKey rowIndexes =
      "INSERT INTO " ++ (formatInsertTableTarget tableName ++ (" " ++ rest)) := by
  rw [serializeRowsAsInsert]
  simp only [named, present, if_false]
  split
  · exact ⟨"(" ++ _, by simp only [String.append_assoc]; rfl⟩
  · exact ⟨"(" ++ _, by simp only [String.append_assoc]; rfl⟩

theorem insertedColumns_all (columns : List QueryColumn) : insertedColumns toLowerCase columns true = List.range columns.length :=
  List.filter_eq_self.mpr fun _ _ => rfl

theorem insert_target (database tableName : String) {result : TableQueryResult} (wide : result.columns ≠ []) (present : result.rows ≠ []) :
    tableBehind "INSERT INTO " (buildTableExportFile floatText toLowerCase .exportSql database tableName result).content =
      some ((targetNames (database ++ "." ++ tableName)).map units) := by
  have named : insertedColumns toLowerCase result.columns true ≠ [] := by
    rw [insertedColumns_all]
    exact mt List.range_eq_nil.mp (mt List.length_eq_zero_iff.mp wide)
  have filled : (none : Option (List Nat)).getD (List.range result.rows.length) ≠ [] :=
    mt List.range_eq_nil.mp (mt List.length_eq_zero_iff.mp present)
  obtain ⟨rest, content⟩ := @serializeRowsAsInsert_starts floatText toLowerCase _ _ (database ++ "." ++ tableName) _ _ named filled
  have solid : insertContent floatText toLowerCase database tableName result ≠ "" := by
    rw [insertContent, content]
    simp
  rw [buildTableExportFile]
  simp only [if_neg solid]
  rw [insertContent, content, formatInsertTableTarget_eq]
  refine tableBehind_written (targetNames_ne_nil _) ?_ ?_
  · simp [units]
  · simp [units]

/-- The INSERT names the table that the SELECT reads exactly if both names keep. -/
theorem export_target (database tableName : String) (result : TableQueryResult) (wide : result.columns ≠ [])
    (present : result.rows ≠ []) :
    (tableBehind "SELECT * FROM " (buildSelectAllStatement database tableName) = some [units database, units tableName] ∧
      tableBehind "INSERT INTO " (buildTableExportFile floatText toLowerCase .exportSql database tableName result).content =
        tableBehind "SELECT * FROM " (buildSelectAllStatement database tableName)) ↔ Kept database ∧ Kept tableName := by
  have names : (targetNames (database ++ "." ++ tableName)).map units = [units database, units tableName] ↔
      insertTargetParts (database ++ "." ++ tableName) = [database, tableName] := by
    have same : [units database, units tableName] = [database, tableName].map units := rfl
    rw [same, (List.map_injective_iff.mpr units_injective).eq_iff, targetNames]
    split
    next empty =>
      rw [empty]
      exact iff_of_false (by simp) (by simp)
    next => exact Iff.rfl
  rw [select_target, insert_target floatText toLowerCase database tableName wide present, and_iff_right rfl, Option.some_inj,
    names, parts_eq_iff]

theorem export_target_plain :
    tableBehind "INSERT INTO " (buildTableExportFile (fun _ => "") id .exportSql "shop" "order items"
        ⟨[⟨"id", "int", none⟩], [[.integer "1"]]⟩).content =
      tableBehind "SELECT * FROM " (buildSelectAllStatement "shop" "order items") :=
  ((export_target (fun _ => "") id "shop" "order items" ⟨[⟨"id", "int", none⟩], [[.integer "1"]]⟩ (by decide) (by decide)).mpr
    ⟨kept_iff.mpr (by decide), kept_iff.mpr (by decide)⟩).2

/-- A point in the name makes another target. -/
theorem export_target_dotted :
    tableBehind "SELECT * FROM " (buildSelectAllStatement "shop" "a.b") = some [units "shop", units "a.b"] ∧
      tableBehind "INSERT INTO " (buildTableExportFile (fun _ => "") id .exportSql "shop" "a.b"
        ⟨[⟨"id", "int", none⟩], [[.integer "1"]]⟩).content = some [units "shop", units "a", units "b"] := by
  decide +kernel

end Targets

end Pipa.TableExport
