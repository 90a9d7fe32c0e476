import Pipa.Proofs.TableMutationsPlan

/-! Executing a plan in order is applying its changes at once: every update and deletion
finds its own original row, however the keys have moved in between. -/

namespace Pipa.TableMutations
open Fallible KeyedEdits

variable {rules : EditRules} {V : Type} (server : Server rules V)

/-- The key of an update or a deletion. -/
def keyOf : TableMutation → Option (List TableMutationField)
  | .update key _ | .delete key => some key
  | .insert _ => none

def boundFields (fields : List TableMutationField) : List (String × V) :=
  match bindFields server fields with
  | .ok bound => bound
  | .error _ => []

theorem boundFields_eq {fields : List TableMutationField} {bound : List (String × V)}
    (binds : bindFields server fields = .ok bound) : boundFields server fields = bound := by
  rw [boundFields, binds]

/-- A mutation as a keyed edit of one row. -/
def editOf (mutation : TableMutation) (target : Row V) : Edit (Row V) where
  target
  matched :=
    match mutation with
    | .update key _ | .delete key => selects server (boundFields server key)
    | .insert _ => fun _ => false
  outcome row :=
    match mutation with
    | .update _ values => some (assign (boundFields server values) row)
    | _ => none

/-! ### One mutation -/

theorem store_ok {names : List String} {table next : List (Row V)} (stored : store server names table = .ok next) :
    next = table ∧ Unique server names table := by
  rw [store] at stored
  split at stored
  next unique => exact ⟨(Except.ok.inj stored).symm, unique⟩
  next => cases stored

/-- What the keys bind to, for an update also its values. -/
def Binds (mutation : TableMutation) : Prop :=
  match mutation with
  | .update key values => (∃ bound, bindFields server key = .ok bound) ∧ ∃ bound, bindFields server values = .ok bound
  | .delete key => ∃ bound, bindFields server key = .ok bound
  | .insert _ => True

/-- An update or deletion that succeeds is its edit, and keeps the key unique. -/
theorem executeMutation_edit {names : List String} {table next : List (Row V)} {mutation : TableMutation} {count : Nat}
    {key : List TableMutationField} (target : Row V) (keyed : keyOf mutation = some key)
    (unique : Unique server names table) (done : executeMutation server names table mutation = .ok (next, count)) :
    next = (editOf server mutation target).apply table ∧ Unique server names next ∧ Binds server mutation := by
  cases mutation with
  | insert values => cases keyed
  | update key values =>
    simp only [executeMutation, bind_ok, pure_ok] at done
    obtain ⟨boundKey, bindsKey, _, _, bound, binds, stored, kept, same⟩ := done
    obtain ⟨rfl, -⟩ := Prod.mk.inj same
    obtain ⟨rfl, unique⟩ := store_ok server kept
    refine ⟨?_, unique, ⟨boundKey, bindsKey⟩, bound, binds⟩
    rw [Edit.apply, ← List.filterMap_eq_map]
    refine List.filterMap_congr fun row _ => ?_
    simp only [editOf, boundFields_eq server bindsKey, boundFields_eq server binds]
    split <;> simp [*]
  | delete key =>
    simp only [executeMutation, bind_ok, pure_ok] at done
    obtain ⟨boundKey, bindsKey, _, _, same⟩ := done
    obtain ⟨rfl, -⟩ := Prod.mk.inj same
    refine ⟨?_, unique.sublist List.filter_sublist, boundKey, bindsKey⟩
    rw [Edit.apply, ← List.filterMap_eq_filter]
    refine List.filterMap_congr fun row _ => ?_
    simp only [editOf, boundFields_eq server bindsKey]
    cases selected : selects server boundKey row <;> simp [Option.guard, selected]

theorem executeMutations_cons {names : List String} {mutation : TableMutation} {mutations : List TableMutation}
    {table : List (Row V)} {affected : Nat} {result : List (Row V) × Nat} :
    executeMutations server names (mutation :: mutations) table affected = .ok result ↔
      ∃ next count, executeMutation server names table mutation = .ok (next, count) ∧ count ≤ 1 ∧
        executeMutations server names mutations next (saturatingAdd affected count) = .ok result := by
  rw [executeMutations, bind_ok]
  constructor
  · rintro ⟨⟨next, count⟩, step, rest⟩
    dsimp only at rest
    split at rest
    · cases rest
    next single => exact ⟨next, count, step, Nat.not_lt.mp single, rest⟩
  · rintro ⟨next, count, step, single, rest⟩
    refine ⟨(next, count), step, ?_⟩
    dsimp only
    rw [if_neg (Nat.not_lt.mpr single), rest]

/-- Updates and deletions with the rows they are meant for. -/
abbrev Aims (V : Type) := List (TableMutation × Row V)

def Aims.edits (aims : Aims V) : List (Edit (Row V)) := aims.map fun aim => editOf server aim.1 aim.2

/-- Every mutation carries the key of its row. -/
def Aims.Keyed (names : List String) (aims : Aims V) : Prop :=
  ∀ aim ∈ aims, keyOf aim.1 = some (keyFields server names aim.2)

theorem executeMutations_applied {names : List String} {aims : Aims V} {table final : List (Row V)} {affected total : Nat}
    (keyed : aims.Keyed server names) (unique : Unique server names table)
    (run : executeMutations server names (aims.map Prod.fst) table affected = .ok (final, total)) :
    Applied (SameKey server names) table (aims.edits server) final ∧ ∀ aim ∈ aims, Binds server aim.1 := by
  induction aims generalizing table affected with
  | nil =>
    obtain ⟨rfl, -⟩ := Prod.mk.inj (Except.ok.inj run)
    exact ⟨.nil table, by simp⟩
  | cons aim aims ih =>
    obtain ⟨next, count, step, -, later⟩ := (executeMutations_cons server).mp run
    obtain ⟨rfl, unique, binds⟩ := executeMutation_edit server aim.2 (keyed aim (by simp)) unique step
    obtain ⟨applied, bindsAll⟩ := ih (fun other member => keyed other (by simp [member])) unique later
    exact ⟨.cons unique applied, List.forall_mem_cons.mpr ⟨binds, bindsAll⟩⟩

section Plan
variable {input : DmlInput} {table : List (Row V)}

def rowIdentity (input : DmlInput) (row : Row V) : Option RowIdentity :=
  tableRowIdentity (loaded server input.queryColumns row) input.queryColumns (primaryKey input)

end Plan

end Pipa.TableMutations
