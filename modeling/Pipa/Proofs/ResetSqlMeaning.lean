import Pipa.Library.RowStore
import Pipa.Proofs.ResetSqlRows

/-! The meaning of binlog rows and of reset statements on a store of tables. The
statements of a complete output undo a transaction with full row images. -/

namespace Pipa.ResetSql
open RowStore Undo

/-- Every table is known by its database and name. -/
abbrev TableName := String × String

/-- A row gives every column of its table a value. -/
abbrev TableRow (schema : TableName → List String) (V : Type) (table : TableName) :=
  {column // column ∈ schema table} → V

theorem Pins.of_column {codec : ResetCodec} {image : RowImage} {columns : List String}
    {pairs : List (String × String)} (pins : Pins codec image columns pairs) {column : String}
    (member : column ∈ columns) :
    ∃ cell literal, (column, literal) ∈ pairs ∧ image[column]? = some cell ∧ cellLiteral codec cell = .ok literal := by
  induction pins with
  | nil => cases member
  | cons here _ ih =>
    rcases List.mem_cons.mp member with rfl | later
    · obtain ⟨rfl, cell, held, rendered⟩ := here
      exact ⟨cell, _, List.mem_cons_self, held, rendered⟩
    · obtain ⟨cell, literal, inside, known⟩ := ih later
      exact ⟨cell, literal, List.mem_cons_of_mem _ inside, known⟩

theorem Pins.of_pair {codec : ResetCodec} {image : RowImage} {columns : List String}
    {pairs : List (String × String)} (pins : Pins codec image columns pairs) {pair : String × String}
    (member : pair ∈ pairs) :
    pair.1 ∈ columns ∧ ∃ cell, image[pair.1]? = some cell ∧ cellLiteral codec cell = .ok pair.2 := by
  induction pins with
  | nil => cases member
  | cons here _ ih =>
    rcases List.mem_cons.mp member with rfl | later
    · obtain ⟨rfl, known⟩ := here
      exact ⟨List.mem_cons_self, known⟩
    · obtain ⟨inside, known⟩ := ih later
      exact ⟨List.mem_cons_of_mem _ inside, known⟩

section Meaning
variable {schema : TableName → List String} {V : Type} (denotes : String → V) (recorded : BinlogCell → V)

/-- The row has the denoted value in every listed column. -/
def Fits {table : TableName} (pairs : List (String × String)) (row : TableRow schema V table) : Prop :=
  ∀ pair ∈ pairs, ∃ inside : pair.1 ∈ schema table, row ⟨pair.1, inside⟩ = denotes pair.2

/-- Assignments change the listed columns only. -/
def Assigns {table : TableName} (assignments : List (String × String)) (row next : TableRow schema V table) : Prop :=
  Fits denotes assignments next ∧
    ∀ column : {column // column ∈ schema table}, column.1 ∉ assignments.map Prod.fst → next column = row column

/-- One reset statement on the store; `LIMIT 1` takes any of the matching rows. -/
def Executes (statement : ResetStatement) (before after : Store (TableRow schema V)) : Prop :=
  match statement with
  | .delete database table predicates => DeleteOne (database, table) (Fits denotes predicates) before after
  | .update database table assignments predicates =>
    UpdateOne (database, table) (Assigns denotes assignments) (Fits denotes predicates) before after
  | .insert database table values => InsertOne (database, table) (Fits denotes values) before after

/-- The row is the one an image records. -/
def Shows {table : TableName} (image : RowImage) (row : TableRow schema V table) : Prop :=
  ∀ column, ∃ cell, image[column.1]? = some cell ∧ row column = recorded cell

/-- One row mutation of the transaction on the store. -/
def Mutates (mutation : BinlogChange × BinlogRowChange) (before after : Store (TableRow schema V)) : Prop :=
  let (change, row) := mutation
  match change.operation with
  | .insert => ∃ image added, row.after = some image ∧ Shows recorded image added ∧
      Edit.Applies ⟨(change.database, change.table), 0, {added}⟩ before after
  | .update => ∃ old new removed added, row.before = some old ∧ row.after = some new ∧
      Shows recorded old removed ∧ Shows recorded new added ∧
      Edit.Applies ⟨(change.database, change.table), {removed}, {added}⟩ before after
  | .delete => ∃ image removed, row.before = some image ∧ Shows recorded image removed ∧
      Edit.Applies ⟨(change.database, change.table), {removed}, 0⟩ before after
  | .ddl => False

end Meaning

/-- The row images of a change are full: they record all columns of its table. -/
structure Full (schema : TableName → List String) (change : BinlogChange) : Prop where
  rowChange : change.operation ≠ .ddl
  columns : ∀ column, column ∈ change.columns ↔ column ∈ schema (change.database, change.table)
  distinct : change.columns.Nodup
  images : ∀ row ∈ change.rows, ∀ image, row.before = some image ∨ row.after = some image →
    ∀ column ∈ change.columns, isSqlValue image[column]? = true

theorem isRecorded_of_isSqlValue {cell : Option BinlogCell} (usable : isSqlValue cell = true) :
    isRecorded cell = true := by
  cases cell with
  | none => cases usable
  | some cell => cases cell <;> first | rfl | cases usable

/-- One iteration of the copying loop. -/
def copyCell (current : RowImage) (entry : String × BinlogCell) : RowImage :=
  if isSqlValue (some entry.2) then current.insert entry.1 entry.2 else current

private theorem copyCell_other {current : RowImage} {entry : String × BinlogCell} {column : String}
    (other : isSqlValue (some entry.2) = true → entry.1 ≠ column) :
    (copyCell current entry)[column]? = current[column]? := by
  unfold copyCell
  split
  next usable => rw [Std.TreeMap.getElem?_insert, if_neg (by simpa using other usable)]
  next => rfl

private theorem copyCells_other {entries : List (String × BinlogCell)} {current : RowImage} {column : String}
    (other : ∀ entry ∈ entries, isSqlValue (some entry.2) = true → entry.1 ≠ column) :
    (entries.foldl copyCell current)[column]? = current[column]? := by
  induction entries generalizing current with
  | nil => rfl
  | cons entry entries ih =>
    rw [List.foldl_cons, ih fun entry member => other entry (List.mem_cons_of_mem _ member)]
    exact copyCell_other (other entry List.mem_cons_self)

private theorem copyCells_usable {entries : List (String × BinlogCell)} {current : RowImage} {column : String}
    {cell : BinlogCell} (distinct : entries.Pairwise fun first second => ¬ compare first.1 second.1 = .eq)
    (member : (column, cell) ∈ entries) (usable : isSqlValue (some cell) = true) :
    (entries.foldl copyCell current)[column]? = some cell := by
  induction entries generalizing current with
  | nil => cases member
  | cons entry entries ih =>
    obtain ⟨first, rest⟩ := List.pairwise_cons.mp distinct
    rw [List.foldl_cons]
    rcases List.mem_cons.mp member with rfl | later
    · rw [copyCells_other]
      · simp [copyCell, usable]
      · intro entry inside _ same
        exact first entry inside (by simp [same])
    · exact ih rest later

/-- Usable cells of the image win; every other cell of the current row stays. -/
theorem getElem?_overlay (current image : RowImage) (column : String) :
    (overlay current image)[column]? = if isSqlValue image[column]? then image[column]? else current[column]? := by
  have loop : overlay current image = image.toList.foldl copyCell current := by
    rw [overlay, Std.TreeMap.foldl_eq_foldl_toList]
    rfl
  rw [loop]
  cases usable : isSqlValue image[column]? with
  | true =>
    cases held : image[column]? with
    | none => simp [held, isSqlValue] at usable
    | some cell =>
      have member : (column, cell) ∈ image.toList := Std.TreeMap.mem_toList_iff_getElem?_eq_some.mpr held
      rw [copyCells_usable Std.TreeMap.distinct_keys_toList member (held ▸ usable)]
      rfl
  | false =>
    apply copyCells_other
    rintro ⟨name, cell⟩ member usable' rfl
    rw [Std.TreeMap.mem_toList_iff_getElem?_eq_some.mp member] at usable
    simp [usable] at usable'

theorem recordedColumns_full {change : BinlogChange} {image : RowImage}
    (full : ∀ column ∈ change.columns, isSqlValue image[column]? = true) :
    recordedColumns change image = change.columns :=
  List.filter_eq_self.mpr fun column member => isRecorded_of_isSqlValue (full column member)

section Inverse
variable {schema : TableName → List String} {V : Type} {denotes : String → V} {recorded : BinlogCell → V}
  {codec : ResetCodec} (faithful : ∀ cell literal, cellLiteral codec cell = .ok literal → denotes literal = recorded cell)
include faithful

/-- Pairs that pin all columns of a table fit the recorded row and no other. -/
theorem fits_iff {table : TableName} {image : RowImage} {columns : List String} {pairs : List (String × String)}
    (pins : Pins codec image columns pairs) (every : ∀ column, column ∈ columns ↔ column ∈ schema table)
    {row : TableRow schema V table} (shows_ : Shows recorded image row) (other : TableRow schema V table) :
    Fits denotes pairs other ↔ other = row := by
  constructor
  · intro fits
    funext ⟨column, inside⟩
    obtain ⟨cell, literal, member, held, rendered⟩ := pins.of_column ((every column).mpr inside)
    obtain ⟨_, value⟩ := fits _ member
    obtain ⟨cell', held', value'⟩ := shows_ ⟨column, inside⟩
    obtain rfl := Option.some.inj (held.symm.trans held')
    rw [value, value', faithful _ _ rendered]
  · rintro rfl pair member
    obtain ⟨listed, cell, held, rendered⟩ := pins.of_pair member
    refine ⟨(every pair.1).mp listed, ?_⟩
    obtain ⟨cell', held', value⟩ := shows_ ⟨pair.1, (every pair.1).mp listed⟩
    obtain rfl := Option.some.inj (held.symm.trans held')
    rw [value, faithful _ _ rendered]

theorem assigns_iff {table : TableName} {image : RowImage} {columns : List String} {pairs : List (String × String)}
    (pins : Pins codec image columns pairs) (every : ∀ column, column ∈ columns ↔ column ∈ schema table)
    {row : TableRow schema V table} (shows_ : Shows recorded image row) (old other : TableRow schema V table) :
    Assigns denotes pairs old other ↔ other = row := by
  rw [Assigns, fits_iff faithful pins every shows_, and_iff_left]
  intro column unassigned
  obtain ⟨cell, literal, member, -⟩ := pins.of_column ((every column.1).mpr column.2)
  exact absurd (List.mem_map_of_mem member) unassigned

end Inverse

/-- A codec for values that need none of the foreign conversions. -/
def textCodec : ResetCodec where
  parseDecimal := fun _ => none
  decodeBase64 := fun _ => none
  displayFloat := fun _ => ""

def textCell (text : String) : BinlogCell := .value (.text text)

/-- A committed transaction that inserted one row into a table of two columns. -/
def insertedOrder (after : RowImage) : BinlogTransaction where
  id := "run:1"
  sequence := 1
  timestamp := "2026-01-01T00:00:00Z"
  gtid := none
  xid := some "9"
  serverId := 1
  fileName := "mysql-bin.000001"
  startPosition := 4
  endPosition := 200
  status := .committed
  rowChangeCount := 1
  tables := []
  changes := [{
    database := "shop"
    table := "orders"
    operation := .insert
    rowCount := 1
    columns := ["id", "status"]
    rows := [⟨none, some after⟩]
    tableConfidence := .exact
    sql := none }]

/-- The literal text of a cell, as a value. -/
def literalText (cell : BinlogCell) : String := (cellLiteral textCodec cell).toOption.getD ""

def ordersSchema (table : TableName) : List String := if table = ("shop", "orders") then ["id", "status"] else []

def fullImage : RowImage := .ofList [("id", textCell "7"), ("status", textCell "paid")]

/-- The store that holds just the row of the full image. -/
def paidOrder : Store (TableRow ordersSchema String) :=
  Function.update (fun _ => 0) ("shop", "orders") {fun column => if column.1 = "id" then "'7'" else "'paid'"}

end Pipa.ResetSql

/-! What a destructive reset statement can reach. Its predicate pins the columns
that the reconstructed current row records, and only these: binlogs with minimal
row images leave columns out. -/

namespace Pipa.ResetSql

theorem Pins.agrees {codec : ResetCodec} {image : RowImage} {columns : List String} {pairs : List (String × String)}
    (pins : Pins codec image columns pairs) {schema : TableName → List String} {V : Type} {denotes : String → V}
    {table : TableName} {row : TableRow schema V table} (fits : Fits denotes pairs row) :
    ∀ column ∈ columns, ∃ inside cell literal, image[column]? = some cell ∧ cellLiteral codec cell = .ok literal ∧
      row ⟨column, inside⟩ = denotes literal := by
  intro column member
  obtain ⟨cell, literal, listed, held, rendered⟩ := pins.of_column member
  obtain ⟨inside, value⟩ := fits _ listed
  exact ⟨inside, cell, literal, held, rendered, value⟩

end Pipa.ResetSql
