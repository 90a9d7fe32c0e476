import Pipa.Library.OrderedMap
import Pipa.QueryRunner
import Pipa.TableColumn

/-! Staged edits of table rows: the workspace turns them into typed mutations, and the
adapter executes these one after the other. -/

namespace Pipa.TableMutations

/-- A value the adapter binds. -/
inductive TableMutationValue where
  | null
  | boolean (value : Bool)
  | integer (value : String)
  | float (value : String)
  | decimal (value : String)
  | text (value : String)
  | json (value : String)
  | binary (value : String)
  | dateTime (value : String)
deriving DecidableEq, Repr

structure TableMutationField where
  name : String
  value : TableMutationValue
deriving DecidableEq, Repr

inductive TableMutation where
  | update (key values : List TableMutationField)
  | delete (key : List TableMutationField)
  | insert (values : List TableMutationField)
deriving DecidableEq, Repr

/-- Text in a cell editor; none stands for NULL. -/
abbrev EditableCellValue := Option String

structure StagedExistingRow where
  originalRow : List CellValue
  values : OrderedMap String EditableCellValue

/-- The primary-key cells of a row under their names; the code writes them as JSON text. -/
abbrev RowIdentity := List (String × CellValue)

structure DmlInput where
  queryColumns : List QueryColumn
  schema : List TableColumnDefinition
  updatedRows : OrderedMap RowIdentity StagedExistingRow
  deletedRows : OrderedMap RowIdentity (List CellValue)
  insertedRows : List (OrderedMap String EditableCellValue)

/-! ### The plan -/

/-- JavaScript's text of a number, and the typing of edited text for its column. -/
structure EditRules where
  numberText : UInt64 → String
  editableValueToMutationValue : EditableCellValue → TableColumnDefinition → Except String TableMutationValue

def columnIndexByName (queryColumns : List QueryColumn) (name : String) : Option Nat :=
  OrderedMap.lastOf (queryColumns.zipIdx.map fun entry => (entry.1.name, entry.2)) name

def schemaByName (schema : List TableColumnDefinition) (name : String) : Option TableColumnDefinition :=
  OrderedMap.lastOf (schema.map fun column => (column.name, column)) name

/-- No identity stands for the empty text. -/
def tableRowIdentity (row : List CellValue) (queryColumns : List QueryColumn) (primaryColumnNames : List String) :
    Option RowIdentity :=
  if primaryColumnNames = [] then none
  else primaryColumnNames.mapM fun name =>
    (columnIndexByName queryColumns name).map fun index => (name, row[index]?.getD .null)

section Plan
variable (rules : EditRules)

def cellValueToEditable : Option CellValue → EditableCellValue
  | none | some .null => none
  | some (.boolean value) => some (if value then "1" else "0")
  | some (.float bits) => some (rules.numberText bits)
  | some (.integer value) | some (.decimal value) | some (.text value) | some (.json value) | some (.binary value)
  | some (.dateTime value) => some value

def cellValueToMutationValue : CellValue → TableMutationValue
  | .null => .null
  | .boolean value => .boolean value
  | .integer value => .integer value
  | .float bits => .float (rules.numberText bits)
  | .decimal value => .decimal value
  | .text value => .text value
  | .json value => .json value
  | .binary value => .binary value
  | .dateTime value => .dateTime value

/-- The key fields of an original row. -/
def originalKeyFields (row : List CellValue) (primaryColumns : List TableColumnDefinition)
    (queryColumns : List QueryColumn) : Except String (List TableMutationField) :=
  primaryColumns.mapM fun column =>
    match (columnIndexByName queryColumns column.name).bind (row[·]?) with
    | some cell => .ok { name := column.name, value := cellValueToMutationValue rules cell }
    | none => .error s!"主键字段 {column.name} 不在当前结果集中"

def typedField (columnName : String) (editableValue : EditableCellValue) (column : TableColumnDefinition) :
    Except String (Option TableMutationField) :=
  match rules.editableValueToMutationValue editableValue column with
  | .ok value => .ok (some { name := columnName, value })
  | .error reason => .error s!"{columnName}：{reason}"

/-- An edited cell: nothing where its text has not changed. -/
def updatedField (input : DmlInput) (originalRow : List CellValue) (edit : String × EditableCellValue) :
    Except String (Option TableMutationField) :=
  match schemaByName input.schema edit.1, columnIndexByName input.queryColumns edit.1 with
  | some column, some columnIndex =>
    if cellValueToEditable rules originalRow[columnIndex]? = edit.2 then .ok none
    else typedField rules edit.1 edit.2 column
  | _, _ => .error s!"字段 {edit.1} 已不在当前表结构中"

def insertedField (input : DmlInput) (edit : String × EditableCellValue) : Except String (Option TableMutationField) :=
  match schemaByName input.schema edit.1 with
  | none => .error s!"字段 {edit.1} 已不在当前表结构中"
  | some column =>
    if column.generationExpression ≠ "" then .error s!"{edit.1}：生成列不能手动赋值"
    else typedField rules edit.1 edit.2 column

/-- What a loop over fields has gathered: its values and its errors. -/
def gathered {α β : Type} (read : α → Except String (Option β)) (items : List α) : List β × List String :=
  (items.filterMap fun item => match read item with | .ok value => value | .error _ => none,
    items.filterMap fun item => match read item with | .ok _ => none | .error error => some error)

def primaryColumns (input : DmlInput) : List TableColumnDefinition := input.schema.filter (·.primary)

def updateMutations (input : DmlInput) (entry : RowIdentity × StagedExistingRow) : List TableMutation × List String :=
  if input.deletedRows.has entry.1 = true ∨ primaryColumns input = [] then ([], [])
  else
    let (values, errors) := gathered (updatedField rules input entry.2.originalRow) entry.2.values.entries
    match originalKeyFields rules entry.2.originalRow (primaryColumns input) input.queryColumns with
    | .error error => ([], error :: errors)
    | .ok key => (if values = [] then [] else [.update key values], errors)

def deleteMutations (input : DmlInput) (originalRow : List CellValue) : List TableMutation × List String :=
  if primaryColumns input = [] then ([], [])
  else
    match originalKeyFields rules originalRow (primaryColumns input) input.queryColumns with
    | .error error => ([], [error])
    | .ok key => ([.delete key], [])

def insertMutations (input : DmlInput) (insertedRow : OrderedMap String EditableCellValue) :
    List TableMutation × List String :=
  let (values, errors) := gathered (insertedField rules input) insertedRow.entries
  ([.insert values], errors)

structure TableMutationPlan where
  mutations : List TableMutation
  errors : List String

/-- Updates, then deletions, then insertions. -/
def buildTableMutationPlan (input : DmlInput) : TableMutationPlan :=
  let parts := input.updatedRows.entries.map (updateMutations rules input) ++
    input.deletedRows.entries.map (fun entry => deleteMutations rules input entry.2) ++
    input.insertedRows.map (insertMutations rules input)
  { mutations := parts.flatMap Prod.fst, errors := (parts.flatMap Prod.snd).eraseDups }

end Plan

/-! ### The execution -/

/-- A row by column name. -/
abbrev Row (V : Type) := String → V

/-- The server, as far as mutations of one table rest on it: the cell it reports for a
stored value, the value it stores or compares for a bound one (none where it refuses it
under the strict mode), equality of stored values under the type and collation of their
column (NULL is found by IS NULL), and the row it makes of inserted fields. A stored
value equals what is bound from its own cell. -/
structure Server (rules : EditRules) (V : Type) where
  cell : String → V → CellValue
  bind : String → TableMutationValue → Option V
  equal : String → V → V → Bool
  insertion : List (Row V) → List (String × V) → Option (Row V)
  equal_equivalence : ∀ column, Equivalence fun first second => equal column first second = true
  bind_cell : ∀ column value, ∃ bound,
    bind column (cellValueToMutationValue rules (cell column value)) = some bound ∧ equal column value bound = true

inductive MutationExecutionError where
  | application (error : AppError)
  | database
deriving DecidableEq, Repr

def conflictError (message : String) : AppError :=
  { code := .query, message, technicalDetails := none, retryable := true }

section Execution
variable {rules : EditRules} {V : Type} (server : Server rules V) (primaryKey : List String)

/-- Two rows agree on the key. -/
def SameKey (first second : Row V) : Prop :=
  ∀ column ∈ primaryKey, server.equal column (first column) (second column) = true

instance (first second : Row V) : Decidable (SameKey server primaryKey first second) :=
  inferInstanceAs (Decidable (∀ column ∈ primaryKey, _))

/-- The unique index on the primary key. -/
def Unique (table : List (Row V)) : Prop := table.Pairwise fun first second => ¬SameKey server primaryKey first second

instance (table : List (Row V)) : Decidable (Unique server primaryKey table) :=
  inferInstanceAs (Decidable (table.Pairwise _))

def bindFields (fields : List TableMutationField) : Except MutationExecutionError (List (String × V)) :=
  fields.mapM fun field =>
    match server.bind field.name field.value with
    | some value => .ok (field.name, value)
    | none => .error .database

/-- The key predicate of a statement. -/
def selects (key : List (String × V)) (row : Row V) : Bool := key.all fun field => server.equal field.1 (row field.1) field.2

/-- A row with the assigned columns. -/
def assign (values : List (String × V)) (row : Row V) : Row V := fun column => (values.lookup column).getD (row column)

/-- Exactly one row, or a conflict. -/
def lockExactRow (key : List (String × V)) (table : List (Row V)) : Except MutationExecutionError Unit :=
  if (table.filter (selects server key)).length = 1 then .ok ()
  else .error (.application (conflictError "The staged row no longer exists or its key is not unique"))

/-- The unique index refuses a statement that repeats a key. -/
def store (table : List (Row V)) : Except MutationExecutionError (List (Row V)) :=
  if Unique server primaryKey table then .ok table else .error .database

/-- One mutation: the new table and the rows affected. -/
def executeMutation (table : List (Row V)) : TableMutation → Except MutationExecutionError (List (Row V) × Nat)
  | .update key values => do
    let key ← bindFields server key
    lockExactRow server key table
    let values ← bindFields server values
    let next ← store server primaryKey (table.map fun row => if selects server key row then assign values row else row)
    return (next, (table.filter (selects server key)).length)
  | .delete key => do
    let key ← bindFields server key
    lockExactRow server key table
    return (table.filter (fun row => !selects server key row), (table.filter (selects server key)).length)
  | .insert values => do
    let values ← bindFields server values
    match server.insertion table values with
    | none => .error .database
    | some row =>
      let next ← store server primaryKey (table ++ [row])
      return (next, 1)

def saturatingAdd (count more : Nat) : Nat := min (count + more) 18446744073709551615

/-- Executes every mutation in order; the first failure ends it and the transaction. -/
def executeMutations : List TableMutation → List (Row V) → Nat → Except MutationExecutionError (List (Row V) × Nat)
  | [], table, affectedRows => .ok (table, affectedRows)
  | mutation :: mutations, table, affectedRows => do
    let (next, count) ← executeMutation server primaryKey table mutation
    if count > 1 then .error (.application (conflictError "A staged table mutation matched more than one row"))
    else executeMutations mutations next (saturatingAdd affectedRows count)

end Execution

end Pipa.TableMutations
