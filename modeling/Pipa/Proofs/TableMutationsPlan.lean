import Pipa.Library.Fallible
import Pipa.Library.KeyedEdits
import Pipa.TableMutations

/-! What a plan without errors stages: each update and deletion carries the key of its
own original row, and the values of an update are the changed cells of that row. -/

namespace Pipa.TableMutations
open Fallible

variable {rules : EditRules} {V : Type} (server : Server rules V)

/-- The cells of a table row in the order of the result columns. -/
def loaded (queryColumns : List QueryColumn) (row : Row V) : List CellValue :=
  queryColumns.map fun column => server.cell column.name (row column.name)

def primaryKey (input : DmlInput) : List String := (primaryColumns input).map (·.name)

/-- The staged rows were loaded from the table, and are staged under their identities. -/
structure Staged (input : DmlInput) (table : List (Row V)) : Prop where
  updated : ∀ identity staged, (identity, staged) ∈ input.updatedRows.entries → ∃ row ∈ table,
    staged.originalRow = loaded server input.queryColumns row ∧
      tableRowIdentity staged.originalRow input.queryColumns (primaryKey input) = some identity
  deleted : ∀ identity originalRow, (identity, originalRow) ∈ input.deletedRows.entries → ∃ row ∈ table,
    originalRow = loaded server input.queryColumns row ∧
      tableRowIdentity originalRow input.queryColumns (primaryKey input) = some identity

/-- A row with its changed cells replaced by the values the edits were typed to. -/
def edited (input : DmlInput) (staged : StagedExistingRow) (row : Row V) : Row V := fun column =>
  match staged.values.get column, schemaByName input.schema column with
  | some editableValue, some definition =>
    if cellValueToEditable rules (some (server.cell column (row column))) = editableValue then row column
    else
      match rules.editableValueToMutationValue editableValue definition with
      | .ok value => (server.bind column value).getD (row column)
      | .error _ => row column
  | _, _ => row column

/-- What the staged changes make of a row, all at once. -/
def stagedOutcome (input : DmlInput) (row : Row V) : Option (Row V) :=
  match tableRowIdentity (loaded server input.queryColumns row) input.queryColumns (primaryKey input) with
  | none => some row
  | some identity =>
    if input.deletedRows.has identity then none
    else
      match input.updatedRows.get identity with
      | none => some row
      | some staged => some (edited server input staged row)

/-- The key fields of a row. -/
def keyFields (names : List String) (row : Row V) : List TableMutationField :=
  names.map fun name => { name, value := cellValueToMutationValue rules (server.cell name (row name)) }

/-! ### Keys -/

theorem sameKey_equivalence (names : List String) : Equivalence (SameKey server names) where
  refl row column _ := (server.equal_equivalence column).refl (row column)
  symm same column member := (server.equal_equivalence column).symm (same column member)
  trans earlier later column member := (server.equal_equivalence column).trans (earlier column member) (later column member)

/-- The key of a row selects it, and only rows with its key. -/
theorem keyFields_selects {names : List String} {row : Row V} {key : List (String × V)}
    (binds : bindFields server (keyFields server names row) = .ok key) :
    selects server key row = true ∧ ∀ other, selects server key other = true → SameKey server names row other := by
  have parts := mapM_ok binds
  clear binds
  rw [keyFields] at parts
  have each : List.Forall₂ (fun name field => field.1 = name ∧ server.equal name (row name) field.2 = true) names key := by
    refine (List.forall₂_map_left_iff.mp parts).imp fun name field here => ?_
    obtain ⟨bound, bindsCell, equal⟩ := server.bind_cell name (row name)
    dsimp only at here
    rw [bindsCell] at here
    obtain rfl := Except.ok.inj here
    exact ⟨rfl, equal⟩
  clear parts
  induction each with
  | nil => exact ⟨rfl, fun other _ column member => absurd member List.not_mem_nil⟩
  | @cons name field names key here _ ih =>
    obtain ⟨rfl, equal⟩ := here
    refine ⟨by simp only [selects, List.all_cons, equal, Bool.true_and]; exact ih.1, fun other selected => ?_⟩
    rw [selects, List.all_cons, Bool.and_eq_true] at selected
    have agree := (server.equal_equivalence field.1).trans equal ((server.equal_equivalence field.1).symm selected.1)
    intro column member
    rcases List.mem_cons.mp member with rfl | later
    · exact agree
    · exact ih.2 other selected.2 column later

/-! ### Values -/

end Pipa.TableMutations
