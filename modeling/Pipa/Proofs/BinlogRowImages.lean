import Pipa.BinlogRows

/-! Row images stay aligned with their columns: each logged column holds the value whose
place in the compact list is the column's rank among the logged ones. -/

namespace Pipa.BinlogRows
open Text

/-- How many columns before this one are logged. -/
def rank (present : List Bool) (index : Nat) : Nat := (present.take index).count true

theorem rank_succ (present : List Bool) (index : Nat) :
    rank present (index + 1) = rank present index + if isPresent present index then 1 else 0 := by
  rw [rank, rank, List.take_add_one, List.count_append, isPresent]
  cases present[index]? with
  | none => rfl
  | some logged => cases logged <;> rfl

/-- Two logged columns never share a rank. -/
theorem rank_lt {present : List Bool} {earlier later : Nat} (before : earlier < later)
    (logged : isPresent present earlier = true) : rank present earlier < rank present later := by
  have next : rank present (earlier + 1) = rank present earlier + 1 := by
    rw [rank_succ, if_pos logged]
  have grows : rank present (earlier + 1) ≤ rank present later := by
    apply List.Sublist.count_le
    exact List.take_sublist_take_left before
  omega

/-- An image whose cells are known by the places of their columns. -/
def tabulated (cell : Nat → BinlogCell) (columnNames : List String) : RowImage :=
  (∅ : RowImage).insertMany (columnNames.mapIdx fun index column => (column, cell index))

section Tabulated
variable {cell : Nat → BinlogCell} {columnNames : List String}

private theorem entry_names : (columnNames.mapIdx fun index column => (column, cell index)).map Prod.fst = columnNames := by
  apply List.ext_getElem?
  intro index
  rw [List.getElem?_map, List.getElem?_mapIdx, Option.map_map]
  exact congrFun Option.map_id_fun' columnNames[index]?

theorem mem_tabulated {name : String} : name ∈ tabulated cell columnNames ↔ name ∈ columnNames := by
  rw [tabulated, Std.TreeMap.mem_insertMany_list, entry_names, List.contains_iff_mem]
  exact or_iff_right Std.TreeMap.not_mem_emptyc

theorem tabulated_get (distinct : columnNames.Nodup) {index : Nat} {column : String}
    (named : columnNames[index]? = some column) : (tabulated cell columnNames)[column]? = some (cell index) := by
  apply Std.TreeMap.getElem?_insertMany_list_of_mem Std.ReflCmp.compare_self
  · have apart : ((columnNames.mapIdx fun index column => (column, cell index)).map Prod.fst).Nodup := entry_names.symm ▸ distinct
    exact (List.pairwise_map.mp apart).imp fun different same => different (Std.LawfulEqCmp.eq_of_compare same)
  · obtain ⟨bound, rfl⟩ := List.getElem?_eq_some_iff.mp named
    exact List.mem_mapIdx.mpr ⟨index, bound, rfl⟩

end Tabulated

section Images
variable {Value : Type} (decode : Value → BinlogCell)

/-- The cell of one column of an expanded image. -/
def alignedCell (row : List Value) (present : List Bool) (index : Nat) : BinlogCell :=
  if isPresent present index then
    (row[rank present index]?.map decode).getD (.decodeError "The row image is missing a logged column value")
  else .notLogged

/-- One column takes the value of its rank and leaves the values of the later ranks. -/
theorem expandColumns_cons (row : List Value) (present : List Bool) (index : Nat) (column : String)
    (columns : List String) (image : RowImage) :
    expandColumns decode present index (column :: columns) (row.drop (rank present index)) image =
      expandColumns decode present (index + 1) columns (row.drop (rank present (index + 1)))
        (image.insert column (alignedCell decode row present index)) := by
  by_cases logged : isPresent present index = true
  · rw [rank_succ, if_pos logged, alignedCell, if_pos logged]
    cases left : row[rank present index]? with
    | none =>
      have short := List.getElem?_eq_none_iff.mp left
      rw [List.drop_eq_nil_of_le short, List.drop_eq_nil_of_le (Nat.le_succ_of_le short)]
      exact if_pos logged
    | some value =>
      obtain ⟨bound, rfl⟩ := List.getElem?_eq_some_iff.mp left
      rw [List.drop_eq_getElem_cons bound]
      exact if_pos logged
  · rw [rank_succ, if_neg logged, alignedCell, if_neg logged]
    exact if_neg logged

theorem expandColumns_insertMany (row : List Value) (present : List Bool) (columns : List String) (index : Nat)
    (image : RowImage) :
    expandColumns decode present index columns (row.drop (rank present index)) image =
      image.insertMany (columns.mapIdx fun offset column => (column, alignedCell decode row present (index + offset))) := by
  induction columns generalizing index image with
  | nil => rw [expandColumns, List.mapIdx_nil, Std.TreeMap.insertMany_nil]
  | cons column columns ih =>
    rw [expandColumns_cons, ih, List.mapIdx_cons, Std.TreeMap.insertMany_cons]
    simp only [Nat.add_zero, Nat.add_assoc, Nat.add_comm 1]

theorem expandRowImage_tabulated (row : List Value) (present : List Bool) (columnNames : List String) :
    expandRowImage decode row present columnNames = tabulated (alignedCell decode row present) columnNames := by
  have expanded := expandColumns_insertMany decode row present columnNames 0 ∅
  simp only [Nat.zero_add] at expanded
  exact expanded

end Images

theorem failedRowImage_tabulated (present : List Bool) (columnNames : List String) (message : String) :
    failedRowImage present columnNames message =
      tabulated (fun index => if isPresent present index then .decodeError message else .notLogged) columnNames := by
  have inserted (entries : List (String × BinlogCell)) (image : RowImage) :
      entries.foldl (fun image entry => image.insert entry.1 entry.2) image = image.insertMany entries := by
    induction entries generalizing image with
    | nil => rw [List.foldl_nil, Std.TreeMap.insertMany_nil]
    | cons entry entries ih => rw [List.foldl_cons, ih, Std.TreeMap.insertMany_cons]
  exact inserted _ _

section Decoding
variable {Jsonb : Type} (library : ValueLibrary Jsonb)

theorem decodeMysqlTimestamp_logged (value : MysqlValue) : decodeMysqlTimestamp value ≠ .notLogged := by
  rw [decodeMysqlTimestamp]
  cases unixSeconds value with
  | error message => exact BinlogCell.noConfusion
  | ok text =>
    dsimp only
    split <;> exact BinlogCell.noConfusion

theorem decodeBytes_logged (bytes : List UInt8) (column : MysqlColumn) : decodeBytes library bytes column ≠ .notLogged := by
  rw [decodeBytes, decodeCharacterBytes]
  cases column.columnType with
  | newDecimal => cases fromUtf8 bytes <;> exact BinlogCell.noConfusion
  | year => cases fromUtf8 bytes <;> exact BinlogCell.noConfusion
  | other isCharacterType =>
    cases isCharacterType with
    | false => exact BinlogCell.noConfusion
    | true =>
      dsimp only
      split
      · exact BinlogCell.noConfusion
      · split
        · cases fromUtf8 bytes <;> exact BinlogCell.noConfusion
        · exact BinlogCell.noConfusion
  | _ => exact BinlogCell.noConfusion

theorem decodePlainValue_logged (column : MysqlColumn) (value : MysqlValue) :
    decodePlainValue library column value ≠ .notLogged := by
  cases value with
  | bytes bytes => exact decodeBytes_logged library bytes column
  | float bits => rw [decodePlainValue]; split <;> exact BinlogCell.noConfusion
  | double bits => rw [decodePlainValue]; split <;> exact BinlogCell.noConfusion
  | _ => exact BinlogCell.noConfusion

/-- A logged value never reads as a column that is not logged. -/
theorem decodeBinlogValue_logged (value : BinlogValue Jsonb × MysqlColumn) :
    decodeBinlogValue library value ≠ .notLogged := by
  obtain ⟨value, column⟩ := value
  cases value with
  | value value =>
    rw [decodeBinlogValue, decodeMysqlValue]
    split
    · exact BinlogCell.noConfusion
    · split
      · exact decodeMysqlTimestamp_logged value
      · exact decodePlainValue_logged library column value
  | jsonb value =>
    rw [decodeBinlogValue]
    cases library.jsonText value <;> exact BinlogCell.noConfusion
  | jsonDiff => exact BinlogCell.noConfusion

theorem alignedCell_notLogged (row : List (BinlogValue Jsonb × MysqlColumn)) (present : List Bool) (index : Nat) :
    alignedCell (decodeBinlogValue library) row present index = .notLogged ↔ isPresent present index = false := by
  rw [alignedCell]
  cases isPresent present index with
  | false => exact iff_of_true rfl rfl
  | true =>
    refine iff_of_false ?_ Bool.noConfusion
    rw [if_pos rfl]
    cases row[rank present index]? with
    | none => exact BinlogCell.noConfusion
    | some value => exact decodeBinlogValue_logged library value

/-- A logged column shows the value of its rank, which no other has, or that this value is
missing; every other column is not logged. A failed image has the same columns, and the same ones are not logged. -/
theorem expandRowImage_aligned (row : List (BinlogValue Jsonb × MysqlColumn)) (present : List Bool)
    (columnNames : List String) (message : String) (distinct : columnNames.Nodup) :
    (∀ (index : Nat) (column : String), columnNames[index]? = some column → isPresent present index = true →
      (∀ value, row[rank present index]? = some value →
        (expandRowImage (decodeBinlogValue library) row present columnNames)[column]? = some (decodeBinlogValue library value)) ∧
      (row.length ≤ rank present index →
        (expandRowImage (decodeBinlogValue library) row present columnNames)[column]? =
          some (.decodeError "The row image is missing a logged column value")) ∧
      (failedRowImage present columnNames message)[column]? = some (.decodeError message)) ∧
    (∀ (index : Nat) (column : String), columnNames[index]? = some column → isPresent present index = false →
      (expandRowImage (decodeBinlogValue library) row present columnNames)[column]? = some .notLogged) ∧
    (∀ earlier later : Nat, earlier < later → isPresent present earlier = true → rank present earlier < rank present later) ∧
    (∀ name : String, name ∈ expandRowImage (decodeBinlogValue library) row present columnNames ↔ name ∈ columnNames) ∧
    (∀ name : String, name ∈ failedRowImage present columnNames message ↔ name ∈ columnNames) ∧
    ∀ name : String, (failedRowImage present columnNames message)[name]? = some .notLogged ↔
      (expandRowImage (decodeBinlogValue library) row present columnNames)[name]? = some .notLogged := by
  rw [expandRowImage_tabulated, failedRowImage_tabulated]
  refine ⟨fun index column named logged => ?_, fun index column named bare => ?_, fun earlier later => rank_lt,
    fun name => mem_tabulated, fun name => mem_tabulated, fun name => ?_⟩
  · rw [tabulated_get distinct named, tabulated_get distinct named, alignedCell, if_pos logged, if_pos logged]
    refine ⟨fun value delivered => ?_, fun short => ?_, rfl⟩
    · rw [delivered]
      rfl
    · rw [List.getElem?_eq_none_iff.mpr short]
      rfl
  · rw [tabulated_get distinct named, (alignedCell_notLogged library row present index).mpr bare]
  · by_cases known : name ∈ columnNames
    · obtain ⟨index, named⟩ := List.mem_iff_getElem?.mp known
      rw [tabulated_get distinct named, tabulated_get distinct named, Option.some_inj, Option.some_inj, alignedCell_notLogged]
      cases isPresent present index with
      | false => exact iff_of_true rfl rfl
      | true => exact iff_of_false BinlogCell.noConfusion Bool.noConfusion
    · have absent (cell : Nat → BinlogCell) : (tabulated cell columnNames)[name]? = none :=
        Std.TreeMap.getElem?_eq_none (mt mem_tabulated.mp known)
      rw [absent, absent]

theorem expandRowImage_aligned_minimal :
    isPresent [true, false, true] 2 = true ∧ rank [true, false, true] 2 = 1 ∧
    (expandRowImage (decodeBinlogValue { jsonText := fun value : String => some value, charset := fun _ => "utf8mb4" })
      [(.value (.int 7), ⟨.other false, 63⟩), (.value (.bytes [104, 105]), ⟨.other true, 45⟩)] [true, false, true]
      ["id", "note", "name"])["name"]? = some (.value (.text "hi")) := by
  refine ⟨rfl, rfl, ?_⟩
  have aligned := expandRowImage_aligned { jsonText := fun value : String => some value, charset := fun _ => "utf8mb4" }
    [(.value (.int 7), ⟨.other false, 63⟩), (.value (.bytes [104, 105]), ⟨.other true, 45⟩)] [true, false, true]
    ["id", "note", "name"] "" (by decide)
  exact (aligned.1 2 "name" rfl rfl).1 _ rfl

end Decoding

end Pipa.BinlogRows
