import Pipa.Proofs.TableDdlOrder
import Pipa.Proofs.TableSqlPieces

/-! When the statements that the preview shows are those that the backend executes. The
drops are the same; a draft's statement is the same when both sides write one, or neither,
and recognise the same in its column. -/

namespace Pipa.TableSql
open TableDdl NamedTable SqlLexer Slots

-- what a pattern matches is never computed here
attribute [local irreducible] Regex.isMatch

/-- The drafts that a side writes: new ones, and changed ones whose original it can
rebuild, if it takes their type. -/
def Writes (invalid : String → Option String) (editable : TableColumnDefinition → Bool)
    (originalColumns : List TableColumnDefinition) (column : TableColumnDefinition) : Prop :=
  invalid column.columnType = none ∧
    (column.sourceName = none ∨ ∃ original, sourceOf originalColumns column = some original ∧
      sameColumn original column = false ∧ editable original = true)

section Drafts
variable (tables : RegexTables) (originalColumns : List TableColumnDefinition) (column : TableColumnDefinition)

/-- What a draft is written as. -/
def actionOf : DdlAction :=
  match column.sourceName with
  | none => .addColumn column
  | some sourceName => .changeColumn sourceName column

/-- Drafts that the preview writes. -/
def Shows : Prop := Writes columnTypeValidationError isStructureColumnEditable originalColumns column

/-- Drafts that the backend writes. -/
def Executes : Prop :=
  Writes (TableDdl.columnTypeValidationError tables) (TableDdl.isStructureColumnEditable tables) originalColumns column

/-- Both sides write the draft or neither does, and if they do, they recognise the same
in its column. -/
def Agrees : Prop :=
  (Shows originalColumns column ↔ Executes tables originalColumns column) ∧
    (Shows originalColumns column → recognised column = backendRecognised tables column)

theorem draftAction_shows (action : DdlAction) :
    draftAction originalColumns column = some action ↔ Shows originalColumns column ∧ actionOf column = action := by
  unfold draftAction Shows Writes sourceOf actionOf
  cases source : column.sourceName with
  | none =>
    dsimp only
    rw [Option.ite_none_right_eq_some, Option.some.injEq, and_iff_left (Or.inl rfl)]
  | some sourceName =>
    dsimp only
    rw [Option.bind_some]
    cases found : originalColumns.find? (·.name = sourceName) with
    | none => simp
    | some original =>
      dsimp only
      rw [Option.ite_none_right_eq_some, Option.some.injEq]
      simp only [reduceCtorEq, false_or, Option.some.injEq, exists_eq_left']
      constructor
      · rintro ⟨⟨editable, valid, changed⟩, rfl⟩
        exact ⟨⟨valid, changed, editable⟩, rfl⟩
      · rintro ⟨⟨valid, changed, editable⟩, rfl⟩
        exact ⟨⟨editable, valid, changed⟩, rfl⟩

theorem draftAction_executes (action : DdlAction) :
    (TableDdl.draftAction tables originalColumns column).toOption.join = some action ↔
      Executes tables originalColumns column ∧ actionOf column = action := by
  unfold TableDdl.draftAction Executes Writes sourceOf actionOf
  cases source : column.sourceName with
  | none =>
    dsimp only
    cases TableDdl.columnTypeValidationError tables column.columnType with
    | none => simp [Except.toOption]
    | some reason => simp [Except.toOption]
  | some sourceName =>
    dsimp only
    rw [Option.bind_some]
    cases found : originalColumns.find? (·.name = sourceName) with
    | none => simp [Except.toOption]
    | some original =>
      dsimp only
      cases changed : sameColumn original column with
      | true => simp [Except.toOption, changed]
      | false =>
        cases editable : TableDdl.isStructureColumnEditable tables original with
        | false => simp [Except.toOption, editable]
        | true =>
          cases TableDdl.columnTypeValidationError tables column.columnType with
          | none => simp [Except.toOption, changed, editable]
          | some reason => simp [Except.toOption]

variable (database table : String)

/-- The statement that the preview shows for a draft. -/
def shown : Option String := (draftAction originalColumns column).map (actionSql database table)

/-- The statement that the backend executes for a draft. -/
def executed : Option String :=
  (TableDdl.draftAction tables originalColumns column).toOption.join.map (DdlAction.sql tables database table)

theorem shown_iff (statement : String) :
    shown originalColumns column database table = some statement ↔
      Shows originalColumns column ∧ actionSql database table (actionOf column) = statement := by
  rw [shown, Option.map_eq_some_iff]
  simp only [draftAction_shows, and_assoc, exists_and_left, exists_eq_left']

theorem executed_iff (statement : String) :
    executed tables originalColumns column database table = some statement ↔
      Executes tables originalColumns column ∧ (actionOf column).sql tables database table = statement := by
  rw [executed, Option.map_eq_some_iff]
  simp only [draftAction_executes, and_assoc, exists_and_left, exists_eq_left']

/-- The statement of a draft is the same on both sides exactly if its definition is. -/
theorem sql_same :
    actionSql database table (actionOf column) = (actionOf column).sql tables database table ↔
      columnSql column = TableDdl.columnSql tables column := by
  unfold actionOf
  cases column.sourceName with
  | none =>
    change "ALTER TABLE " ++ target database table ++ " ADD COLUMN " ++ columnSql column ++ ";" =
      "ALTER TABLE " ++ target database table ++ " ADD COLUMN " ++ TableDdl.columnSql tables column ++ ";" ↔ _
    rw [String.append_left_inj, String.append_right_inj]
  | some sourceName =>
    change "ALTER TABLE " ++ target database table ++ " CHANGE COLUMN " ++ quoteIdentifier sourceName ++ " " ++
        columnSql column ++ ";" =
      "ALTER TABLE " ++ target database table ++ " CHANGE COLUMN " ++ quoteIdentifier sourceName ++ " " ++
        TableDdl.columnSql tables column ++ ";" ↔ _
    rw [String.append_left_inj, String.append_right_inj]

theorem shown_same :
    shown originalColumns column database table = executed tables originalColumns column database table ↔
      Agrees tables originalColumns column := by
  by_cases shows : Shows originalColumns column
  · have preview := (shown_iff originalColumns column database table _).mpr ⟨shows, rfl⟩
    rw [preview, eq_comm, executed_iff, eq_comm, sql_same]
    constructor
    · rintro ⟨executes, same⟩
      exact ⟨iff_of_true shows executes, fun _ => (columnSql_same tables column shows.1 executes.1).mp same⟩
    · rintro ⟨both, same⟩
      have executes := both.mp shows
      exact ⟨executes, (columnSql_same tables column shows.1 executes.1).mpr (same shows)⟩
  · have preview : shown originalColumns column database table = none := by
      rw [Option.eq_none_iff_forall_ne_some]
      exact fun statement written => shows ((shown_iff _ _ _ _ _).mp written).1
    rw [preview, eq_comm, Option.eq_none_iff_forall_ne_some]
    constructor
    · intro never
      exact ⟨iff_of_false shows fun executes => never _ ((executed_iff ..).mpr ⟨executes, rfl⟩), fun writes => absurd writes shows⟩
    · rintro ⟨both, -⟩ statement written
      exact shows (both.mpr ((executed_iff ..).mp written).1)

end Drafts

/-! ### Whole previews -/

/-- The name that a statement gives a column. -/
def namedColumn (database table statement : String) : Option (List Nat) :=
  (readStatement database table statement).bind fun
    | .drop _ => none
    | .add name _ => some name
    | .change _ name _ => some name

section Named
variable (tables : RegexTables) (originalColumns : List TableColumnDefinition) (database table : String)
  (column : TableColumnDefinition) (statement : String)

theorem namedColumn_shown (written : shown originalColumns column database table = some statement) :
    namedColumn database table statement = some (units column.name) := by
  obtain ⟨-, rfl⟩ := (shown_iff ..).mp written
  have names : Names (columnSql column) (units column.name) := names_joined _ _ rfl
  unfold actionOf
  cases column.sourceName with
  | none => exact congrArg (Option.bind · _) (readStatement_add database table names)
  | some sourceName => exact congrArg (Option.bind · _) (readStatement_change database table sourceName names)

theorem namedColumn_executed (written : executed tables originalColumns column database table = some statement) :
    namedColumn database table statement = some (units column.name) := by
  obtain ⟨-, rfl⟩ := (executed_iff ..).mp written
  unfold actionOf namedColumn
  cases column.sourceName with
  | none =>
    dsimp only
    rw [readStatement_sql]
    rfl
  | some sourceName =>
    dsimp only
    rw [readStatement_sql]
    rfl

end Named

section Plans
variable (tables : RegexTables) (database table : String) (originalColumns draftColumns : List TableColumnDefinition)

theorem dropActions_sql :
    (dropActions originalColumns draftColumns).map (actionSql database table) =
      (dropActions originalColumns draftColumns).map (DdlAction.sql tables database table) := by
  refine List.map_congr_left fun action dropped => ?_
  obtain ⟨original, -, rfl⟩ := List.mem_map.mp dropped
  exact @Eq.refl String
    ("ALTER TABLE " ++ target database table ++ " DROP COLUMN " ++ quoteIdentifier original.name ++ ";")

theorem statements_same :
    buildDdlStatements database table originalColumns draftColumns =
        (buildTableDdlPlan tables database table originalColumns draftColumns).statements ↔
      draftColumns.filterMap (shown originalColumns · database table) =
        draftColumns.filterMap (executed tables originalColumns · database table) := by
  have preview : buildDdlStatements database table originalColumns draftColumns =
      (dropActions originalColumns draftColumns).map (actionSql database table) ++
        draftColumns.filterMap (shown originalColumns · database table) := by
    rw [buildDdlStatements, List.map_append, List.map_filterMap]
    rfl
  have backend : (buildTableDdlPlan tables database table originalColumns draftColumns).statements =
      (dropActions originalColumns draftColumns).map (DdlAction.sql tables database table) ++
        draftColumns.filterMap (executed tables originalColumns · database table) := by
    rw [buildTableDdlPlan, planActions, List.map_append, List.map_filterMap]
    rfl
  rw [preview, backend, dropActions_sql tables, List.append_cancel_left_eq]

/-- The preview shows the statements that the backend executes if both agree on every
draft, and only then where no two drafts have the same name. -/
theorem preview_agrees :
    ((∀ column ∈ draftColumns, Agrees tables originalColumns column) →
        buildDdlStatements database table originalColumns draftColumns =
          (buildTableDdlPlan tables database table originalColumns draftColumns).statements) ∧
      ((draftColumns.map (·.name)).Nodup →
        buildDdlStatements database table originalColumns draftColumns =
          (buildTableDdlPlan tables database table originalColumns draftColumns).statements →
        ∀ column ∈ draftColumns, Agrees tables originalColumns column) := by
  rw [statements_same]
  constructor
  · intro agree
    exact List.filterMap_congr fun column listed => (shown_same ..).mpr (agree column listed)
  · intro distinct same column listed
    have names : (draftColumns.map fun column => some (units column.name)).Nodup := by
      have injective : Function.Injective fun name => some (units name) :=
        fun _ _ same => units_injective (Option.some.inj same)
      have mapped := distinct.map injective
      rwa [List.map_map] at mapped
    exact (shown_same tables originalColumns column database table).mp
      (filterMap_named (namedColumn_shown originalColumns database table)
        (namedColumn_executed tables originalColumns database table) names same column listed)

end Plans

/-- A text column with an empty name for its character set. -/
def unnamedCharset : TableColumnDefinition := { intColumn none "a" with columnType := "char", characterSet := some "" }

/-- The backend writes the empty name, the preview leaves it out. -/
theorem unnamedCharset_differs :
    buildDdlStatements "shop" "items" [] [unnamedCharset] ≠
      (buildTableDdlPlan asciiTables "shop" "items" [] [unnamedCharset]).statements := by
  decide +kernel

end Pipa.TableSql
