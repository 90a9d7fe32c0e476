import Pipa.TableMutations
import Pipa.TableStructure

/-! The workspace of one table: the change sets a user stages, the commits that send
them, and the reloads that replace what they were staged against. -/

namespace Pipa.TableEditing
open Text TableMutations TableSql ColumnPatterns

/-! ### Previews of mutations -/

def mutationValueLiteral : TableMutationValue → String
  | .null => "NULL"
  | .boolean value => if value then "1" else "0"
  | .integer value | .float value | .decimal value => value
  | .binary value => "FROM_BASE64(" ++ mysqlStringLiteral value ++ ")"
  | .text value | .json value | .dateTime value => mysqlStringLiteral value

def mutationPredicate (fields : List TableMutationField) : String :=
  " AND ".intercalate (fields.map fun field =>
    if field.value = .null then quoteIdentifier field.name ++ " IS NULL"
    else quoteIdentifier field.name ++ " = " ++ mutationValueLiteral field.value)

/-- One readable statement for a typed mutation; it is shown and never executed. -/
def mutationPreview (target : String) : TableMutation → String
  | .update key values =>
    let assignments := values.map fun field => quoteIdentifier field.name ++ " = " ++ mutationValueLiteral field.value
    "UPDATE " ++ target ++ " SET " ++ ", ".intercalate assignments ++ " WHERE " ++ mutationPredicate key ++ ";"
  | .delete key => "DELETE FROM " ++ target ++ " WHERE " ++ mutationPredicate key ++ ";"
  | .insert values =>
    if values = [] then "INSERT INTO " ++ target ++ " () VALUES ();"
    else "INSERT INTO " ++ target ++ " (" ++ ", ".intercalate (values.map fun field => quoteIdentifier field.name) ++
      ") VALUES (" ++ ", ".intercalate (values.map fun field => mutationValueLiteral field.value) ++ ");"

/-! ### What one rendering shows -/

inductive MutationKind where
  | ddl | dml
deriving DecidableEq, Repr

structure MysqlCollationInfo where
  characterSet : String
  collation : String
  isDefault : Bool
deriving DecidableEq, Repr

/-- The table a workspace is open on, and what JavaScript brings to its texts. -/
structure TableWorkspaceProps where
  database : String
  tableName : String
  production : Bool
  rules : EditRules
  toLowerCase : String → String

def systemDatabases : List String := ["information_schema", "mysql", "performance_schema", "sys"]

def isSystemDatabase (toLowerCase : String → String) (name : String) : Bool := systemDatabases.contains (toLowerCase name)

/-- The state that the handlers of one rendering close over. -/
structure Rendering where
  schema : List TableColumnDefinition
  draftColumns : List TableColumnDefinition
  updatedRows : OrderedMap RowIdentity StagedExistingRow
  deletedRows : OrderedMap RowIdentity (List CellValue)
  insertedRows : List (OrderedMap String EditableCellValue)
  rawDdl : String
  draftTableComment : Option String
  columns : List QueryColumn
  rows : List (List CellValue)
  dataRunning : Bool
  collationCatalog : List MysqlCollationInfo

/-- `\bDEFAULT_GENERATED\b` in any case. -/
def defaultGenerated : Regex := .all [.boundary isFoldedWord, anyCase "DEFAULT_GENERATED", .boundary isFoldedWord]

section Shown
variable (props : TableWorkspaceProps)

/-- Converts INFORMATION_SCHEMA column rows into the visual schema. -/
def parseSchemaRows (rows : List (List CellValue)) : List TableColumnDefinition :=
  rows.map fun row =>
    let cell (index : Nat) := cellValueToEditable props.rules row[index]?
    { sourceName := some ((cell 0).getD "")
      name := (cell 0).getD ""
      columnType := (cell 1).getD "varchar(255)"
      nullable := cell 2 = some "YES"
      defaultValue := cell 3
      defaultExpression := defaultGenerated.isMatch ((cell 5).getD "").toList
      primary := cell 4 = some "PRI"
      extra := (cell 5).getD ""
      comment := (cell 6).getD ""
      characterSet := cell 7
      collation := cell 8
      generationExpression := (cell 9).getD "" }

namespace Rendering
variable (seen : Rendering)

def primaryColumns : List String := (seen.schema.filter (·.primary)).map (·.name)

def serverTableComment : String := parseCreateTableComment seen.rawDdl

def tableComment : String := seen.draftTableComment.getD seen.serverTableComment

def tableCommentDirty : Bool := seen.tableComment ≠ seen.serverTableComment

def hasDmlChanges : Bool := seen.updatedRows.entries ≠ [] ∨ seen.deletedRows.entries ≠ [] ∨ seen.insertedRows ≠ []

def ddlStatements : List String :=
  buildDdlStatements props.database props.tableName seen.schema seen.draftColumns ++
    if seen.tableCommentDirty then [buildAlterTableCommentStatement props.database props.tableName seen.tableComment] else []

def columnErrors (column : TableColumnDefinition) : List String :=
  let original := column.sourceName.bind fun sourceName => seen.schema.find? (·.name = sourceName)
  if original.any (fun original => !isStructureColumnEditable original) then []
  else
    let errors := (columnTypeValidationError column.columnType).toList ++
      (columnDefaultValidationError props.toLowerCase column).toList
    errors.map fun error => (if column.name = "" then "未命名字段" else column.name) ++ "：" ++ error

def ddlValidationErrors : List String := seen.draftColumns.flatMap (seen.columnErrors props)

def dmlPlan : TableMutationPlan :=
  buildTableMutationPlan props.rules {
    queryColumns := seen.columns
    schema := seen.schema
    updatedRows := seen.updatedRows
    deletedRows := seen.deletedRows
    insertedRows := seen.insertedRows }

def dmlStatements : List String :=
  (seen.dmlPlan props).mutations.map (mutationPreview (TableDdl.target props.database props.tableName))

/-- The statements that a commit of one kind is about. -/
def statements : MutationKind → List String
  | .ddl => seen.ddlStatements props
  | .dml => seen.dmlStatements props

def hasDirtyChanges : Bool :=
  seen.ddlStatements props ≠ [] ∨ seen.ddlValidationErrors props ≠ [] ∨ seen.hasDmlChanges = true

end Rendering

end Shown

/-- What a load of the structure was started for: a refresh, or a commit that succeeded. -/
inductive Reload where
  | asked
  | committed (sent : Rendering)

/-- The workspace between two events. A request in flight keeps the rendering it was
sent from. -/
structure TableWorkspace extends Rendering where
  pendingProductionAction : Option MutationKind
  dmlCommit : Option Rendering
  ddlBuilds : List Rendering
  ddlRun : Option Rendering
  schemaLoad : Option Reload
  ddlLoad : Option Reload
  filterBuilds : List Rendering
  ddlBackendError : Option String
  dmlMutationError : Option AppError
  mutationError : Option AppError

namespace TableWorkspace
variable (props : TableWorkspaceProps) (ws : TableWorkspace)

/-! ### Edits -/

/-- A refusal of the backend does not outlive the columns it was about. -/
def withDraftColumns (columns : List TableColumnDefinition) : TableWorkspace :=
  { ws with draftColumns := columns, ddlBackendError := none }

def withTableComment (rawDdl : String) (draft : Option String) : TableWorkspace :=
  let next := { ws with rawDdl, draftTableComment := draft }
  if next.tableComment = ws.tableComment then next else { next with ddlBackendError := none }

/-- Another CREATE TABLE statement ends the draft of the comment. -/
def withRawDdl (rawDdl : String) : TableWorkspace := if rawDdl = ws.rawDdl then ws else ws.withTableComment rawDdl none

inductive DraftField where
  | name (value : String)
  | nullable (value : Bool)
  | defaultValue (value : Option String)
  | collation (value : Option String)
  | comment (value : String)

def DraftField.set : DraftField → TableColumnDefinition → TableColumnDefinition
  | .name value, column => { column with name := value }
  | .nullable value, column => { column with nullable := value }
  | .defaultValue value, column => { column with defaultValue := value }
  | .collation value, column => { column with collation := value }
  | .comment value, column => { column with comment := value }

inductive TypePatch where
  | rawType (declaration : String)
  | parts (baseType : Option String) (lengthArgs : Option (Option String)) (unsigned : Option Bool)

def TypePatch.apply (toLowerCase : String → String) : TypePatch → TableColumnDefinition → TableColumnDefinition
  | .rawType declaration, column => { column with columnType := declaration }
  | .parts baseType lengthArgs unsigned, column =>
    let parsed := (parseMysqlColumnType column.columnType).getD
      { baseType := "varchar", lengthArgs := some "255", unsigned := false, zerofill := false }
    let patched := { parsed with
      baseType := baseType.getD parsed.baseType
      lengthArgs := lengthArgs.getD parsed.lengthArgs
      unsigned := unsigned.getD parsed.unsigned }
    let signed := if typeSupportsUnsigned toLowerCase patched.baseType then patched
      else { patched with unsigned := false, zerofill := false }
    let next := if typeSupportsLength toLowerCase signed.baseType then signed else { signed with lengthArgs := none }
    let nextType := formatMysqlColumnType toLowerCase next
    let keepsCharset := typeSupportsCharset nextType
    { column with
      columnType := nextType
      characterSet := if keepsCharset then column.characterSet else none
      collation := if keepsCharset then column.collation else none }

/-- Keeps the collation of a column aligned with its character set. -/
def chooseCharset (catalog : List MysqlCollationInfo) (characterSet : Option String) (column : TableColumnDefinition) :
    TableColumnDefinition :=
  match characterSet.filter (· ≠ "") with
  | none => { column with characterSet := none, collation := none }
  | some characterSet =>
    let collations := (catalog.filter (·.characterSet = characterSet)).map (·.collation)
    let byDefault := (catalog.find? fun item => item.isDefault && item.characterSet == characterSet).map (·.collation)
    { column with
      characterSet := some characterSet
      collation := match column.collation.filter (fun collation => collation ≠ "" ∧ collation ∈ collations) with
        | some collation => some collation
        | none => byDefault.or collations.head? }

/-- A nullable VARCHAR column at the given place. -/
def newColumn (position : Nat) : TableColumnDefinition where
  sourceName := none
  name := s!"new_column_{position}"
  columnType := "varchar(255)"
  nullable := true
  defaultValue := none
  defaultExpression := false
  comment := ""
  primary := false
  extra := ""
  characterSet := none
  collation := none
  generationExpression := ""

/-- The identity of a row of the page, where it has one. -/
def rowIdentity (rowIndex : Nat) : Option (List CellValue × RowIdentity) := do
  let row ← ws.rows[rowIndex]?
  let identity ← tableRowIdentity row ws.columns ws.primaryColumns
  return (row, identity)

/-- Stages one existing cell value without issuing SQL. -/
def updateExistingCell (rowIndex : Nat) (columnName : String) (value : EditableCellValue) : TableWorkspace :=
  match ws.rowIdentity rowIndex with
  | none => ws
  | some (originalRow, identity) =>
    let existing := ws.updatedRows.get identity
    let values := (existing.elim .empty (·.values)).set columnName value
    { ws with
      pendingProductionAction := none
      updatedRows := ws.updatedRows.set identity { originalRow := existing.elim originalRow (·.originalRow), values } }

/-- Removes one cell override. -/
def revertExistingCell (rowIndex : Nat) (columnName : String) : TableWorkspace :=
  match ws.rowIdentity rowIndex with
  | none => ws
  | some (_, identity) =>
    match ws.updatedRows.get identity with
    | none => ws
    | some existing =>
      let values := existing.values.delete columnName
      { ws with updatedRows :=
          if values.entries = [] then ws.updatedRows.delete identity else ws.updatedRows.set identity { existing with values } }

/-- Saves the value of the cell editor, which ends any confirmation. -/
def saveCellEdit (rowIndex : Nat) (columnName : String) (value : EditableCellValue) : TableWorkspace :=
  let row := ws.rows[rowIndex]?.getD []
  let originalValue := cellValueToEditable props.rules ((ws.columns.findIdx? (·.name = columnName)).bind (row[·]?))
  let saved := if value = originalValue then ws.revertExistingCell rowIndex columnName
    else ws.updateExistingCell rowIndex columnName value
  { saved with pendingProductionAction := none }

def deleteRow (deleted : OrderedMap RowIdentity (List CellValue)) (rowIndex : Nat) : OrderedMap RowIdentity (List CellValue) :=
  match ws.rowIdentity rowIndex with
  | none => deleted
  | some (row, identity) => deleted.set identity row

def deleteSelectedRows (selectedRows : List Nat) : TableWorkspace :=
  if ws.primaryColumns = [] then ws
  else { ws with pendingProductionAction := none, deletedRows := selectedRows.foldl ws.deleteRow ws.deletedRows }

inductive Edit where
  | updateDraftColumn (index : Nat) (field : DraftField)
  | updateDraftColumnType (index : Nat) (patch : TypePatch)
  | updateDraftColumnCharset (index : Nat) (characterSet : Option String)
  | addDraftColumn
  | removeDraftColumn (index : Nat)
  | changeComment (value : String)
  | discardComment
  | saveCellEdit (rowIndex : Nat) (columnName : String) (value : EditableCellValue)
  | deleteSelectedRows (selectedRows : List Nat)
  | addInsertedRow
  | updateInsertedCell (rowIndex : Nat) (columnName : String) (value : EditableCellValue)
  | resetInsertedCellToDefault (rowIndex : Nat) (columnName : String)
  | removeInsertedRow (rowIndex : Nat)
  | discardDdlChanges
  | discardDmlChanges

def edit : Edit → TableWorkspace
  | .updateDraftColumn index field =>
    { ws.withDraftColumns (ws.draftColumns.modify index field.set) with pendingProductionAction := none }
  | .updateDraftColumnType index patch =>
    { ws.withDraftColumns (ws.draftColumns.modify index (patch.apply props.toLowerCase)) with pendingProductionAction := none }
  | .updateDraftColumnCharset index characterSet =>
    { ws.withDraftColumns (ws.draftColumns.modify index (chooseCharset ws.collationCatalog characterSet)) with
      pendingProductionAction := none }
  | .addDraftColumn =>
    { ws.withDraftColumns (ws.draftColumns ++ [newColumn (ws.draftColumns.length + 1)]) with pendingProductionAction := none }
  | .removeDraftColumn index =>
    { ws.withDraftColumns (ws.draftColumns.eraseIdx index) with pendingProductionAction := none }
  | .changeComment value => { ws.withTableComment ws.rawDdl (some value) with pendingProductionAction := none }
  | .discardComment => { ws.withTableComment ws.rawDdl none with pendingProductionAction := none }
  | .saveCellEdit rowIndex columnName value => ws.saveCellEdit props rowIndex columnName value
  | .deleteSelectedRows selectedRows => ws.deleteSelectedRows selectedRows
  | .addInsertedRow => { ws with insertedRows := ws.insertedRows ++ [.empty], pendingProductionAction := none }
  | .updateInsertedCell rowIndex columnName value =>
    { ws with
      insertedRows := ws.insertedRows.modify rowIndex (·.set columnName value)
      pendingProductionAction := none }
  | .resetInsertedCellToDefault rowIndex columnName =>
    { ws with
      insertedRows := ws.insertedRows.modify rowIndex (·.delete columnName)
      pendingProductionAction := none }
  | .removeInsertedRow rowIndex =>
    { ws with insertedRows := ws.insertedRows.eraseIdx rowIndex, pendingProductionAction := none }
  | .discardDdlChanges =>
    { (ws.withDraftColumns ws.schema).withTableComment ws.rawDdl none with
      pendingProductionAction := none
      ddlBackendError := none }
  | .discardDmlChanges =>
    { ws with
      updatedRows := .empty
      deletedRows := .empty
      insertedRows := []
      dmlMutationError := none
      pendingProductionAction := none }

/-! ### Loads -/

/-- Loads a page for a handler of the given rendering; an active session ignores it. -/
def loadPage (seen : Rendering) (orderingSchema : List TableColumnDefinition) (allowDirty : Bool) : TableWorkspace :=
  if props.database = "" ∨ seen.dataRunning = true ∨ (allowDirty = false ∧ seen.hasDmlChanges = true) ∨ orderingSchema = [] then ws
  else if ws.dataRunning then ws
  else { ws with columns := [], rows := [], dataRunning := true }

def loadSchema (reload : Reload) : TableWorkspace := { ws with schemaLoad := ws.schemaLoad.or (some reload) }

/-- The session drops its rows when it starts, and with them the statement shown so far. -/
def loadDdl (reload : Reload) : TableWorkspace :=
  if ws.ddlLoad.isSome then ws else { ws.withRawDdl "" with ddlLoad := some reload }

def loadTable : TableWorkspace :=
  if props.database = "" ∨ ws.hasDmlChanges = true ∨ ws.schema ≠ ws.draftColumns then ws
  else (ws.loadSchema .asked).loadDdl .asked

/-- The refresh button is disabled while anything is staged or loading. -/
def refresh : TableWorkspace :=
  if ws.hasDirtyChanges props = true ∨ ws.schemaLoad.isSome = true ∨ ws.dataRunning = true ∨ ws.ddlLoad.isSome = true ∨
      ws.dmlCommit.isSome = true then ws
  else ws.loadTable props

def applyQuickFilter : TableWorkspace :=
  if ws.hasDmlChanges = true ∨ ws.dataRunning = true then ws
  else { ws with filterBuilds := ws.filterBuilds ++ [ws.toRendering] }

/-- The compiled clause arrives, unless it was refused, at the rendering that asked for it. -/
def filterBuilt (index : Nat) (accepted : Bool) : TableWorkspace :=
  match ws.filterBuilds[index]? with
  | none => ws
  | some seen =>
    let ws := { ws with filterBuilds := ws.filterBuilds.eraseIdx index }
    if accepted then ws.loadPage props seen seen.schema false else ws

/-! ### Commits -/

/-- What an attempt to commit comes to. -/
inductive Attempt where
  | ignored | armed | sent
deriving DecidableEq, Repr

def attempt (kind : MutationKind) : Attempt :=
  if isSystemDatabase props.toLowerCase props.database then .ignored
  else if ws.statements props kind = [] ∨ ws.ddlRun.isSome = true ∨ ws.dmlCommit.isSome = true ∨
      (kind = .dml ∧ (ws.dmlPlan props).errors ≠ []) ∨ (kind = .ddl ∧ ws.ddlValidationErrors props ≠ []) then .ignored
  else if props.production = true ∧ ws.pendingProductionAction ≠ some kind then .armed
  else .sent

def commit (kind : MutationKind) : TableWorkspace :=
  match ws.attempt props kind with
  | .ignored => ws
  | .armed => { ws with pendingProductionAction := some kind }
  | .sent =>
    match kind with
    | .ddl => { ws with pendingProductionAction := none, ddlBuilds := ws.ddlBuilds ++ [ws.toRendering] }
    | .dml => { ws with pendingProductionAction := none, dmlMutationError := none, dmlCommit := some ws.toRendering }

/-- The answer of the backend that rebuilds the statements of a structure commit. -/
inductive DdlAnswer where
  | failed
  | planned (errors statements : List String) (comment : String)

/-- Runs the statements sent back; a mutation that runs already lets them pass. -/
def runDdl (sent : Rendering) (executable : List String) : TableWorkspace :=
  if executable = [] then { ws with ddlBackendError := some "结构变更没有生成任何可执行语句。" }
  else if ws.ddlRun.isSome = true ∨ jsTrim ("\n".intercalate executable) = "" then { ws with ddlBackendError := none }
  else { ws with ddlBackendError := none, ddlRun := some sent, mutationError := none }

/-- The answer to a build of the statements. -/
def ddlBuilt (index : Nat) (answer : DdlAnswer) : TableWorkspace :=
  match ws.ddlBuilds[index]? with
  | none => ws
  | some sent =>
    let ws := { ws with ddlBuilds := ws.ddlBuilds.eraseIdx index }
    match answer with
    | .failed => { ws with ddlBackendError := some "无法生成结构变更语句，请重试。" }
    | .planned errors statements comment =>
      if errors ≠ [] then { ws with ddlBackendError := some ("；".intercalate errors) }
      else ws.runDdl sent (statements ++ if sent.tableCommentDirty then [comment] else [])

/-- A structure commit that succeeded reloads the structure and its statement. -/
def ddlSettled (error : Option AppError) : TableWorkspace :=
  match ws.ddlRun with
  | none => ws
  | some sent =>
    let ws := { ws with ddlRun := none, mutationError := error }
    if error.isSome then ws else (ws.loadSchema (.committed sent)).loadDdl (.committed sent)

/-- A data commit that succeeded drops the staged rows and reloads the page. -/
def dmlSettled (error : Option AppError) : TableWorkspace :=
  match ws.dmlCommit with
  | none => ws
  | some sent =>
    let ws := { ws with dmlCommit := none }
    match error with
    | some error => { ws with dmlMutationError := some error }
    | none =>
      { ws with updatedRows := .empty, deletedRows := .empty, insertedRows := [] }.loadPage props sent sent.schema true

/-- The rows of the structure arrive, or their load fails. -/
def schemaSettled (answer : Option (List (List CellValue))) : TableWorkspace :=
  if ws.schemaLoad.isNone then ws
  else
    let ws := { ws with schemaLoad := none }
    match answer with
    | none => ws
    | some rows =>
      let schema := parseSchemaRows props rows
      { ws.withDraftColumns schema with schema }.loadPage props ws.toRendering schema false

/-! ### Events -/

inductive Event where
  | edit (edit : Edit)
  | commit (kind : MutationKind)
  | refresh
  | loadPage
  | applyQuickFilter
  | filterBuilt (index : Nat) (accepted : Bool)
  | ddlBuilt (index : Nat) (answer : DdlAnswer)
  | ddlSettled (error : Option AppError)
  | dmlSettled (error : Option AppError)
  | schemaSettled (answer : Option (List (List CellValue)))
  | createTable (statement : String)
  | createTableSettled
  | pageColumns (columns : List QueryColumn)
  | pageRows (rows : List (List CellValue))
  | pageSettled
  | charsetsLoaded (catalog : List MysqlCollationInfo)

def step (ws : TableWorkspace) : Event → TableWorkspace
  | .edit edit => ws.edit props edit
  | .commit kind => ws.commit props kind
  | .refresh => ws.refresh props
  | .loadPage => ws.loadPage props ws.toRendering ws.schema false
  | .applyQuickFilter => ws.applyQuickFilter
  | .filterBuilt index accepted => ws.filterBuilt props index accepted
  | .ddlBuilt index answer => ws.ddlBuilt index answer
  | .ddlSettled error => ws.ddlSettled error
  | .dmlSettled error => ws.dmlSettled props error
  | .schemaSettled answer => ws.schemaSettled props answer
  -- the first row of the session stays the first
  | .createTable statement => if ws.ddlLoad.isSome = true ∧ ws.rawDdl = "" then ws.withRawDdl statement else ws
  | .createTableSettled => { ws with ddlLoad := none }
  | .pageColumns columns => if ws.dataRunning then { ws with columns } else ws
  | .pageRows rows => if ws.dataRunning then { ws with rows := ws.rows ++ rows } else ws
  | .pageSettled => { ws with dataRunning := false }
  | .charsetsLoaded catalog => { ws with collationCatalog := catalog }

def empty : TableWorkspace where
  schema := []
  draftColumns := []
  updatedRows := .empty
  deletedRows := .empty
  insertedRows := []
  rawDdl := ""
  draftTableComment := none
  columns := []
  rows := []
  dataRunning := false
  collationCatalog := []
  pendingProductionAction := none
  dmlCommit := none
  ddlBuilds := []
  ddlRun := none
  schemaLoad := none
  ddlLoad := none
  filterBuilds := []
  ddlBackendError := none
  dmlMutationError := none
  mutationError := none

/-- A workspace as it opens: the table is being loaded. -/
def initial : TableWorkspace := empty.loadTable props

end TableWorkspace
end Pipa.TableEditing
