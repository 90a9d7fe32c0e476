import Pipa.Proofs.TableMutationsSimultaneous

/-! Committing staged edits equals applying them all at once. -/

namespace Pipa.TableMutations
open Fallible KeyedEdits

variable {rules : EditRules} {V : Type} (server : Server rules V) {input : DmlInput} {table : List (Row V)}

/-! ### Plans without errors -/

theorem editOf_selects {names : List String} {mutation : TableMutation} {row : Row V}
    (key : keyOf mutation = some (keyFields server names row)) (binds : Binds server mutation) :
    ∃ bound, bindFields server (keyFields server names row) = .ok bound ∧
      (editOf server mutation row).matched = selects server bound ∧
      (editOf server mutation row).Selects (SameKey server names) := by
  have bindsKey : ∃ bound, bindFields server (keyFields server names row) = .ok bound ∧
      (editOf server mutation row).matched = selects server bound := by
    cases mutation with
    | insert values => cases key
    | update fields values =>
      obtain rfl := Option.some.inj key
      obtain ⟨⟨bound, bindsKey⟩, -⟩ := binds
      exact ⟨bound, bindsKey, by rw [editOf, boundFields_eq server bindsKey]⟩
    | delete fields =>
      obtain rfl := Option.some.inj key
      obtain ⟨bound, bindsKey⟩ := binds
      exact ⟨bound, bindsKey, by rw [editOf, boundFields_eq server bindsKey]⟩
  obtain ⟨bound, bindsKey, matched⟩ := bindsKey
  obtain ⟨own, only⟩ := keyFields_selects server bindsKey
  refine ⟨bound, bindsKey, matched, ?_, fun first second inFirst inSecond => ?_⟩
  · exact matched ▸ own
  · rw [matched] at inFirst inSecond
    exact (sameKey_equivalence server names).trans ((sameKey_equivalence server names).symm (only first inFirst)) (only second inSecond)

/-- The plan's updates and deletions, each aimed at the row it was staged for. -/
structure Aimed (input : DmlInput) (table : List (Row V)) (aims : Aims V) : Prop where
  emitted : aims.map Prod.fst = input.updatedRows.entries.flatMap (fun entry => (updateMutations rules input entry).1) ++
    input.deletedRows.entries.flatMap (fun entry => (deleteMutations rules input entry.2).1)
  distinct : (aims.map Prod.snd).Nodup
  keyed : aims.Keyed server (primaryKey input)
  present : ∀ aim ∈ aims, aim.2 ∈ table
  hit : ∀ aim ∈ aims, Binds server aim.1 → stagedOutcome server input aim.2 = (editOf server aim.1 aim.2).outcome aim.2
  frame : ∀ row ∈ table, row ∉ aims.map Prod.snd → stagedOutcome server input row = some row

/-- The aimed mutations, executed in order, hit their rows alone and come to the outcome. -/
theorem Aimed.executed {aims : Aims V} (aimed : Aimed server input table aims) (unique : Unique server (primaryKey input) table)
    {middle : List (Row V)} {affected total : Nat}
    (run : executeMutations server (primaryKey input) (aims.map Prod.fst) table affected = .ok (middle, total)) :
    Exact table (aims.edits server) ∧ middle = table.filterMap (stagedOutcome server input) ∧
      ∀ aim ∈ aims, Binds server aim.1 := by
  obtain ⟨applied, binds⟩ := executeMutations_applied server aimed.keyed unique run
  have targets : (aims.edits server).map Edit.target = aims.map Prod.snd := by
    rw [Aims.edits, List.map_map]
    rfl
  have start : table = table.filterMap some := List.filterMap_some.symm
  have outcome : Exact table (aims.edits server) ∧ middle = table.filterMap (stagedOutcome server input) :=
    applied.simultaneous (sameKey_equivalence server _) start unique (targets ▸ aimed.distinct)
    (fun edit member => by
      obtain ⟨aim, listed, rfl⟩ := List.mem_map.mp member
      obtain ⟨-, -, -, selects⟩ := editOf_selects server (aimed.keyed aim listed) (binds aim listed)
      exact selects)
    (fun edit member => by
      obtain ⟨aim, listed, rfl⟩ := List.mem_map.mp member
      exact aimed.present aim listed)
    (fun _ _ => rfl)
    (fun edit member => by
      obtain ⟨aim, listed, rfl⟩ := List.mem_map.mp member
      exact aimed.hit aim listed (binds aim listed))
    (fun row member untargeted => aimed.frame row member (targets ▸ untargeted))
  exact ⟨outcome.1, outcome.2, binds⟩

end Pipa.TableMutations
