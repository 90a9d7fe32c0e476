import Pipa.Proofs.TableMutationsOutcome

/-! What the table passes through while a plan is executed. Updates come before deletions,
so a row that moves onto the key of a deleted row meets it there. -/

namespace Pipa.TableMutations
open Fallible KeyedEdits

variable {rules : EditRules} {V : Type} (server : Server rules V) {input : DmlInput} {table : List (Row V)}

/-- What a statement writes, before the unique index is asked. -/
def written (table : List (Row V)) : TableMutation → Option (List (Row V))
  | .update key values => do
    let key ← (bindFields server key).toOption
    let values ← (bindFields server values).toOption
    return table.map fun row => if selects server key row then assign values row else row
  | .delete key => do
    let key ← (bindFields server key).toOption
    return table.filter fun row => !selects server key row
  | .insert values => do
    let values ← (bindFields server values).toOption
    let row ← server.insertion table values
    return table ++ [row]

/-- The table with rows inserted in order, as long as the server makes them. -/
def inserted (table : List (Row V)) : List (List TableMutationField) → List (Row V)
  | [] => table
  | fields :: more =>
    match written server table (.insert fields) with
    | some next => inserted next more
    | none => table

/-- A row with a staged edit that is not also staged for deletion. -/
def Edited (input : DmlInput) (row : Row V) : Prop :=
  ∃ identity, rowIdentity server input row = some identity ∧ input.updatedRows.has identity = true ∧
    input.deletedRows.has identity = false

/-- No statement of the plan, executed in order, writes two rows with one key. -/
def NeverShared (input : DmlInput) (table : List (Row V)) : Prop :=
  ∀ before mutation after, (buildTableMutationPlan rules input).mutations = before ++ mutation :: after →
    ∀ current count, executeMutations server (primaryKey input) before table 0 = .ok (current, count) →
      ∀ next, written server current mutation = some next → Unique server (primaryKey input) next

/-- No edited row moves onto the key that another row with this property has now. -/
def Clear (other : Row V → Prop) (input : DmlInput) (table : List (Row V)) : Prop :=
  ∀ first ∈ table, ∀ second ∈ table, Edited server input first → other second → first ≠ second →
    ∀ moved, stagedOutcome server input first = some moved → ¬SameKey server (primaryKey input) moved second

/-! ### What becomes of a row -/

theorem written_binds {current next : List (Row V)} {mutation : TableMutation} (writes : written server current mutation = some next) :
    Binds server mutation := by
  have bound {fields : List TableMutationField} {values : List (String × V)}
      (known : (bindFields server fields).toOption = some values) : bindFields server fields = .ok values := by
    cases binds : bindFields server fields with
    | error error =>
      rw [binds] at known
      cases known
    | ok found =>
      rw [binds] at known
      rw [Option.some.inj known]
  cases mutation with
  | insert values => trivial
  | update key values =>
    simp only [written, Option.bind_eq_bind, Option.bind_eq_some_iff] at writes
    obtain ⟨key, bindsKey, values, binds, -⟩ := writes
    exact ⟨⟨key, bound bindsKey⟩, values, bound binds⟩
  | delete key =>
    simp only [written, Option.bind_eq_bind, Option.bind_eq_some_iff] at writes
    obtain ⟨key, bindsKey, -⟩ := writes
    exact ⟨key, bound bindsKey⟩

/-- An update or deletion writes its edit. -/
theorem written_edit {current : List (Row V)} {mutation : TableMutation} {key : List TableMutationField} (target : Row V)
    (keyed : keyOf mutation = some key) (binds : Binds server mutation) :
    written server current mutation = some ((editOf server mutation target).apply current) := by
  cases mutation with
  | insert values => cases keyed
  | update key values =>
    obtain ⟨⟨boundKey, bindsKey⟩, boundValues, bindsValues⟩ := binds
    simp only [written, bindsKey, bindsValues, Except.toOption, Option.bind_eq_bind, Option.bind_some, Option.pure_def,
      Option.some.injEq]
    rw [Edit.apply, ← List.filterMap_eq_map]
    refine List.filterMap_congr fun row _ => ?_
    simp only [editOf, boundFields_eq server bindsKey, boundFields_eq server bindsValues, Function.comp_apply]
    split <;> rfl
  | delete key =>
    obtain ⟨boundKey, bindsKey⟩ := binds
    simp only [written, bindsKey, Except.toOption, Option.bind_eq_bind, Option.bind_some, Option.pure_def, Option.some.injEq]
    rw [Edit.apply, ← List.filterMap_eq_filter]
    refine List.filterMap_congr fun row _ => ?_
    simp only [editOf, boundFields_eq server bindsKey]
    cases selected : selects server boundKey row <;> simp [Option.guard, selected]

/-- A statement that finds its row and repeats no key is executed. -/
theorem executeMutation_of_written {names : List String} {current next : List (Row V)} {mutation : TableMutation}
    {key : List TableMutationField} {target : Row V} (keyed : keyOf mutation = some key)
    (writes : written server current mutation = some next) (unique : Unique server names next)
    (only : current.filter (editOf server mutation target).matched = [target]) :
    executeMutation server names current mutation = .ok (next, 1) := by
  have binds := written_binds server writes
  cases mutation with
  | insert values => cases keyed
  | update key values =>
    obtain ⟨⟨boundKey, bindsKey⟩, boundValues, bindsValues⟩ := binds
    have selected : current.filter (selects server boundKey) = [target] := by
      rw [← only, editOf, boundFields_eq server bindsKey]
    have locked : lockExactRow server boundKey current = .ok () := by rw [lockExactRow, selected]; rfl
    simp only [written, bindsKey, bindsValues, Except.toOption, Option.bind_eq_bind, Option.bind_some, Option.pure_def,
      Option.some.injEq] at writes
    subst writes
    simp only [executeMutation, bindsKey, bindsValues, locked, store, if_pos unique, selected, bind, Except.bind, pure, Except.pure]
    rfl
  | delete key =>
    obtain ⟨boundKey, bindsKey⟩ := binds
    have selected : current.filter (selects server boundKey) = [target] := by
      rw [← only, editOf, boundFields_eq server bindsKey]
    have locked : lockExactRow server boundKey current = .ok () := by rw [lockExactRow, selected]; rfl
    simp only [written, bindsKey, Except.toOption, Option.bind_eq_bind, Option.bind_some, Option.pure_def,
      Option.some.injEq] at writes
    subst writes
    simp only [executeMutation, bindsKey, locked, selected, bind, Except.bind, pure, Except.pure]
    rfl

/-! ### The updates and deletions -/

section Aims
variable {aims : Aims V}

/-- Where the table stands when some of the aimed mutations have been executed. -/
theorem Aimed.reached (aimed : Aimed server input table aims) (unique : Unique server (primaryKey input) table)
    {front back : Aims V} (split : aims = front ++ back) {current : List (Row V)} {affected count : Nat}
    (run : executeMutations server (primaryKey input) (front.map Prod.fst) table affected = .ok (current, count)) :
    current = table.filterMap (partly (front.map Prod.snd) (stagedOutcome server input)) ∧
      Unique server (primaryKey input) current := by
  subst split
  have keyed : Aims.Keyed server (primaryKey input) front := fun aim member => aimed.keyed aim (List.mem_append_left _ member)
  obtain ⟨applied, binds⟩ := executeMutations_applied server keyed unique run
  have targets : (Aims.edits server front).map Edit.target = front.map Prod.snd := by
    rw [Aims.edits, List.map_map]
    rfl
  have distinct : (front.map Prod.snd).Nodup := by
    have whole := aimed.distinct
    rw [List.map_append] at whole
    exact (List.nodup_append.mp whole).1
  have edit_of {edit : Edit (Row V)} (member : edit ∈ Aims.edits server front) :
      ∃ aim ∈ front, editOf server aim.1 aim.2 = edit := List.mem_map.mp member
  have outcome : Exact table (Aims.edits server front) ∧
      current = table.filterMap (partly (front.map Prod.snd) (stagedOutcome server input)) :=
    applied.simultaneous (sameKey_equivalence server _) (List.filterMap_some.symm) unique (targets ▸ distinct)
    (fun edit member => by
      obtain ⟨aim, listed, rfl⟩ := edit_of member
      obtain ⟨-, -, -, selects⟩ := editOf_selects server (keyed aim listed) (binds aim listed)
      exact selects)
    (fun edit member => by
      obtain ⟨aim, listed, rfl⟩ := edit_of member
      exact aimed.present aim (List.mem_append_left _ listed))
    (fun _ _ => rfl)
    (fun edit member => by
      obtain ⟨aim, listed, rfl⟩ := edit_of member
      exact (partly_done (List.mem_map_of_mem listed)).trans (aimed.hit aim (List.mem_append_left _ listed) (binds aim listed)))
    (fun row _ untargeted => partly_waiting (targets ▸ untargeted))
  exact ⟨outcome.2, applied.unique unique⟩

/-- The next mutation finds its row alone, and writes the table in which that row has had its turn. -/
theorem Aimed.turn (aimed : Aimed server input table aims) (unique : Unique server (primaryKey input) table)
    {front back : Aims V} {aim : TableMutation × Row V} (split : aims = front ++ aim :: back) {current : List (Row V)}
    {affected count : Nat} (binds : Binds server aim.1)
    (run : executeMutations server (primaryKey input) (front.map Prod.fst) table affected = .ok (current, count)) :
    current.filter (editOf server aim.1 aim.2).matched = [aim.2] ∧
      written server current aim.1 =
        some (table.filterMap (partly ((front ++ [aim]).map Prod.snd) (stagedOutcome server input))) := by
  obtain ⟨rfl, reached⟩ := aimed.reached server unique split run
  have member : aim ∈ aims := split ▸ List.mem_append_right front List.mem_cons_self
  have fresh : aim.2 ∉ front.map Prod.snd := by
    have distinct := aimed.distinct
    rw [split, List.map_append, List.map_cons] at distinct
    exact fun earlier => (List.nodup_append.mp distinct).2.2 _ earlier _ List.mem_cons_self rfl
  have waiting : partly (front.map Prod.snd) (stagedOutcome server input) aim.2 = some aim.2 := partly_waiting fresh
  obtain ⟨-, -, -, selects⟩ := editOf_selects server (aimed.keyed aim member) binds
  have present := aimed.present aim member
  refine ⟨filter_image (sameKey_equivalence server _) reached selects present waiting, ?_⟩
  rw [written_edit server aim.2 (aimed.keyed aim member) binds, Option.some.injEq]
  apply apply_image (sameKey_equivalence server _) reached selects present waiting
  · have done : aim.2 ∈ (front ++ [aim]).map Prod.snd := List.mem_map_of_mem (List.mem_append_right front List.mem_cons_self)
    exact (partly_done done).trans (aimed.hit aim member binds)
  · intro row other
    have apart : row ≠ aim.2 := other
    by_cases done : row ∈ front.map Prod.snd
    · rw [partly_done done, partly_done (by rw [List.map_append]; exact List.mem_append_left _ done)]
    · rw [partly_waiting done, partly_waiting (by simpa [apart] using done)]

end Aims

/-! ### The insertions -/

theorem executeMutations_snoc {names : List String} {mutations : List TableMutation} {mutation : TableMutation}
    {current next : List (Row V)} {affected count : Nat}
    (run : executeMutations server names mutations table affected = .ok (current, count))
    (step : executeMutation server names current mutation = .ok (next, 1)) :
    executeMutations server names (mutations ++ [mutation]) table affected = .ok (next, saturatingAdd count 1) := by
  induction mutations generalizing table affected with
  | nil =>
    obtain ⟨rfl, rfl⟩ := Prod.mk.inj (Except.ok.inj run)
    exact (executeMutations_cons server).mpr ⟨next, 1, step, Nat.le_refl 1, rfl⟩
  | cons first mutations ih =>
    obtain ⟨after, rows, done, single, later⟩ := (executeMutations_cons server).mp run
    exact (executeMutations_cons server).mpr ⟨after, rows, done, single, ih later⟩

/-- When no key is ever shared and the server takes every value, the plan gets to each of its
updates and deletions. -/
theorem Aimed.progress {aims : Aims V} (aimed : Aimed server input table aims) (unique : Unique server (primaryKey input) table)
    {rest : List TableMutation} (parts : (buildTableMutationPlan rules input).mutations = aims.map Prod.fst ++ rest)
    (never : NeverShared server input table) (bound : ∀ aim ∈ aims, Binds server aim.1) {front back : Aims V}
    (split : aims = front ++ back) :
    ∃ current count, executeMutations server (primaryKey input) (front.map Prod.fst) table 0 = .ok (current, count) := by
  induction front using List.reverseRecOn generalizing back with
  | nil => exact ⟨table, 0, rfl⟩
  | append_singleton front aim ih =>
    rw [List.append_assoc, List.singleton_append] at split
    obtain ⟨current, count, run⟩ := ih split
    have member : aim ∈ aims := split ▸ List.mem_append_right front List.mem_cons_self
    obtain ⟨only, writes⟩ := aimed.turn server unique split (bound aim member) run
    have place : (buildTableMutationPlan rules input).mutations =
        front.map Prod.fst ++ aim.1 :: (back.map Prod.fst ++ rest) := by
      rw [parts, split, List.map_append, List.map_cons, List.append_assoc, List.cons_append]
    have kept := never _ _ _ place current count run _ writes
    have step := executeMutation_of_written server (aimed.keyed aim member) writes kept only
    rw [List.map_append]
    exact ⟨_, _, executeMutations_snoc server run step⟩

/-- The server takes the values of the plan's updates and deletions. -/
def Accepted (input : DmlInput) : Prop :=
  ∀ mutation ∈ (buildTableMutationPlan rules input).mutations, Binds server mutation

end Pipa.TableMutations
