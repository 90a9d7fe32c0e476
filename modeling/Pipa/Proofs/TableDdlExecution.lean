import Pipa.Library.NamedTable
import Pipa.Proofs.SqlTextUnits
import Pipa.TableDdl
import Mathlib.Data.List.Perm.Basic

/-! Executing a plan, statement by statement, on the table it was compiled for. The
statements are read back from their text. DDL is not transactional, so a statement that
fails leaves what the earlier ones did. -/

namespace Pipa.TableDdl
open SqlLexer NamedTable

/-- What a column of the table was last defined by. -/
inductive Definition where
  | original (column : TableColumnDefinition)
  | rendered (text : List Nat)
deriving DecidableEq

/-- Columns by the units of their names. -/
abbrev Columns := NamedTable (List Nat) Definition

/-- The alteration that the text behind the table's name asks for. -/
def readAction (text : List Nat) : Option (Alteration (List Nat) Definition) :=
  match text.dropPrefix? (units " DROP COLUMN ") with
  | some rest => (readName rest).map fun (name, _) => .drop name
  | none =>
    match text.dropPrefix? (units " ADD COLUMN ") with
    | some rest => (readName rest).map fun (name, _) => .add name (.rendered rest)
    | none => do
      let rest ← text.dropPrefix? (units " CHANGE COLUMN ")
      let (source, behind) ← readName rest
      let definition ← behind.dropPrefix? (units " ")
      let (name, _) ← readName definition
      return .change source name (.rendered definition)

/-- A statement on a table, up to its semicolon. -/
def readStatement (database table statement : String) : Option (Alteration (List Nat) Definition) :=
  if (units statement).getLast? = some 59 then do
    let action ← (units statement).dropLast.dropPrefix? (units ("ALTER TABLE " ++ target database table))
    readAction action
  else none

/-- Runs statements one after another; nothing comes of a run in which one fails. -/
def execute (database table : String) (start : Columns) (statements : List String) : Option Columns :=
  statements.foldlM (fun current statement => (readStatement database table statement).bind current.apply) start

variable (tables : RegexTables)

/-- What an action is meant to do to the table. -/
def DdlAction.alteration : DdlAction → Alteration (List Nat) Definition
  | .dropColumn name => .drop (units name)
  | .addColumn column => .add (units column.name) (.rendered (units (columnSql tables column)))
  | .changeColumn sourceName column =>
    .change (units sourceName) (units column.name) (.rendered (units (columnSql tables column)))

/-! ### Reading statements back -/

theorem space_apart (rest : List Nat) : (units " " ++ rest).head? ≠ some 96 := by
  change some 32 ≠ some 96
  decide

/-- A definition that begins with a quoted name is read as a definition of that name. -/
def Names (definition : String) (name : List Nat) : Prop := (readName (units definition)).map Prod.fst = some name

theorem names_joined {pieces : List Piece} {name : String} (piece : Piece) (more : List Piece)
    (starts : pieces = .name name :: piece :: more) : Names (" ".intercalate (pieces.map Piece.sql)) (units name) := by
  let rest := " ".intercalate ((piece :: more).map Piece.sql)
  have shape : " ".intercalate (pieces.map Piece.sql) = quoteIdentifier name ++ (" " ++ rest) := by
    rw [starts, List.map_cons, List.map_cons, String.intercalate_cons_cons, String.append_assoc]
    rfl
  rw [Names, shape, units_append, units_append, readName_quoted _ (space_apart _)]
  rfl

theorem columnSql_names (column : TableColumnDefinition) : Names (columnSql tables column) (units column.name) :=
  names_joined _ _ rfl

theorem dropPrefix_append (former later : List Nat) : (former ++ later).dropPrefix? former = some later :=
  List.dropPrefix?_append_of_beq later (beq_self_eq_true former)

theorem readAction_drop (name : String) :
    readAction (units (" DROP COLUMN " ++ quoteIdentifier name)) = some (.drop (units name)) := by
  have read := @readName_quoted name [] (by simp)
  rw [List.append_nil] at read
  rw [readAction, units_append, dropPrefix_append]
  simp only [read, Option.map_some]

theorem readAction_add {definition : String} {name : List Nat} (names : Names definition name) :
    readAction (units (" ADD COLUMN " ++ definition)) = some (.add name (.rendered (units definition))) := by
  obtain ⟨⟨name, behind⟩, read, rfl⟩ := Option.map_eq_some_iff.mp names
  have other : (units " ADD COLUMN " ++ units definition).dropPrefix? (units " DROP COLUMN ") = none := rfl
  rw [readAction, units_append, other, dropPrefix_append]
  simp only [read, Option.map_some]

theorem readAction_change (sourceName : String) {definition : String} {name : List Nat} (names : Names definition name) :
    readAction (units (" CHANGE COLUMN " ++ (quoteIdentifier sourceName ++ " " ++ definition))) =
      some (.change (units sourceName) name (.rendered (units definition))) := by
  obtain ⟨⟨name, behind⟩, read, rfl⟩ := Option.map_eq_some_iff.mp names
  have source := readName_quoted sourceName (space_apart (units definition))
  have shape : units (" CHANGE COLUMN " ++ (quoteIdentifier sourceName ++ " " ++ definition)) =
      units " CHANGE COLUMN " ++ (units (quoteIdentifier sourceName) ++ (units " " ++ units definition)) := by
    simp only [units_append, List.append_assoc]
  rw [shape, readAction]
  have first (rest : List Nat) : (units " CHANGE COLUMN " ++ rest).dropPrefix? (units " DROP COLUMN ") = none := rfl
  have second (rest : List Nat) : (units " CHANGE COLUMN " ++ rest).dropPrefix? (units " ADD COLUMN ") = none := rfl
  rw [first, second, dropPrefix_append]
  simp only [Option.bind_eq_bind, Option.bind_some, source, dropPrefix_append, read]
  rfl

theorem readStatement_action (database table action : String) :
    readStatement database table ("ALTER TABLE " ++ target database table ++ action ++ ";") = readAction (units action) := by
  have shape : units ("ALTER TABLE " ++ target database table ++ action ++ ";") =
      (units ("ALTER TABLE " ++ target database table) ++ units action) ++ [59] := by
    rw [units_append, units_append]
    rfl
  rw [readStatement, shape, if_pos List.getLast?_concat, List.dropLast_concat, dropPrefix_append]
  rfl

theorem readStatement_drop (database table name : String) :
    readStatement database table ("ALTER TABLE " ++ target database table ++ " DROP COLUMN " ++ quoteIdentifier name ++ ";") =
      some (.drop (units name)) := by
  let head := "ALTER TABLE " ++ target database table
  have shape : head ++ " DROP COLUMN " ++ quoteIdentifier name ++ ";" =
      head ++ (" DROP COLUMN " ++ quoteIdentifier name) ++ ";" := by
    simp only [String.append_assoc]
  exact (congrArg _ shape).trans ((readStatement_action _ _ _).trans (readAction_drop name))

theorem readStatement_add (database table : String) {definition : String} {name : List Nat} (names : Names definition name) :
    readStatement database table ("ALTER TABLE " ++ target database table ++ " ADD COLUMN " ++ definition ++ ";") =
      some (.add name (.rendered (units definition))) := by
  let head := "ALTER TABLE " ++ target database table
  have shape : head ++ " ADD COLUMN " ++ definition ++ ";" = head ++ (" ADD COLUMN " ++ definition) ++ ";" := by
    simp only [String.append_assoc]
  exact (congrArg _ shape).trans ((readStatement_action _ _ _).trans (readAction_add names))

theorem readStatement_change (database table sourceName : String) {definition : String} {name : List Nat}
    (names : Names definition name) :
    readStatement database table ("ALTER TABLE " ++ target database table ++ " CHANGE COLUMN " ++ quoteIdentifier sourceName ++
        " " ++ definition ++ ";") = some (.change (units sourceName) name (.rendered (units definition))) := by
  let head := "ALTER TABLE " ++ target database table
  have shape : head ++ " CHANGE COLUMN " ++ quoteIdentifier sourceName ++ " " ++ definition ++ ";" =
      head ++ (" CHANGE COLUMN " ++ (quoteIdentifier sourceName ++ " " ++ definition)) ++ ";" := by
    simp only [String.append_assoc]
  exact (congrArg _ shape).trans ((readStatement_action _ _ _).trans (readAction_change sourceName names))

/-- The text of an action asks for what the action means. -/
theorem readStatement_sql (database table : String) (action : DdlAction) :
    readStatement database table (action.sql tables database table) = some (action.alteration tables) := by
  cases action with
  | dropColumn name => exact readStatement_drop database table name
  | addColumn column => exact readStatement_add database table (columnSql_names tables column)
  | changeColumn sourceName column => exact readStatement_change database table sourceName (columnSql_names tables column)

theorem execute_actions (database table : String) (start : Columns) (actions : List DdlAction) :
    execute database table start (actions.map (DdlAction.sql tables database table)) =
      start.applyAll (actions.map (DdlAction.alteration tables)) := by
  induction actions generalizing start with
  | nil => rfl
  | cons action actions ih =>
    rw [List.map_cons, List.map_cons, applyAll_cons, execute, List.foldlM_cons, readStatement_sql, Option.bind_some]
    cases start.apply (action.alteration tables) with
    | none => rfl
    | some next => exact ih next

end Pipa.TableDdl
