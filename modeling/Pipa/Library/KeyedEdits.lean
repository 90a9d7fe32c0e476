import Mathlib.Data.List.Nodup
import Mathlib.Data.List.Pairwise

/-! Tables whose rows are told apart by a key, and edits that find their row by its key.
Edits made one after the other are their simultaneous application as soon as the key
stays unique in between, whatever they do to the keys. -/

namespace KeyedEdits

variable {ρ : Type*} (same : ρ → ρ → Prop)

/-- No two rows have the same key. -/
def Unique (table : List ρ) : Prop := table.Pairwise fun first second => ¬same first second

/-- An edit of every row its predicate matches, meant for one row. -/
structure Edit (ρ : Type*) where
  target : ρ
  matched : ρ → Bool
  outcome : ρ → Option ρ

namespace Edit

def apply (edit : Edit ρ) (table : List ρ) : List ρ :=
  table.filterMap fun row => if edit.matched row then edit.outcome row else some row

/-- The predicate fixes the key, and the row the edit is meant for has it. -/
def Selects (edit : Edit ρ) : Prop :=
  edit.matched edit.target = true ∧
    ∀ first second, edit.matched first = true → edit.matched second = true → same first second

end Edit

/-- The edits in order, the key being unique after each. -/
inductive Applied : List ρ → List (Edit ρ) → List ρ → Prop
  | nil (table : List ρ) : Applied table [] table
  | cons {table final : List ρ} {edit : Edit ρ} {edits : List (Edit ρ)} (unique : Unique same (edit.apply table))
      (rest : Applied (edit.apply table) edits final) : Applied table (edit :: edits) final

/-- Every edit matches the row it is meant for, and no other, when its turn comes. -/
inductive Exact : List ρ → List (Edit ρ) → Prop
  | nil (table : List ρ) : Exact table []
  | cons {table : List ρ} {edit : Edit ρ} {edits : List (Edit ρ)} (only : table.filter edit.matched = [edit.target])
      (rest : Exact (edit.apply table) edits) : Exact table (edit :: edits)

variable {same}

theorem Unique.eq_of_same {image : ρ → Option ρ} {original : List ρ} (equivalence : Equivalence same)
    (unique : Unique same (original.filterMap image)) {first second left right : ρ} (inFirst : first ∈ original)
    (inSecond : second ∈ original) (becomesLeft : image first = some left) (becomesRight : image second = some right)
    (keys : same left right) : first = second := by
  by_contra different
  have apart := List.pairwise_filterMap.mp unique
  have symmetric : Std.Symm fun first second => ∀ left, image first = some left → ∀ right, image second = some right →
      ¬same left right :=
    ⟨fun first second avoid right atSecond left atFirst keys => avoid left atFirst right atSecond (equivalence.symm keys)⟩
  exact apart.forall inFirst inSecond different left becomesLeft right becomesRight keys

theorem Unique.nodup {table : List ρ} (equivalence : Equivalence same) (unique : Unique same table) : table.Nodup :=
  unique.imp fun {first second} different (equal : first = second) => different (equal ▸ equivalence.refl first)

section Step
variable {original : List ρ} {image : ρ → Option ρ} {edit : Edit ρ} (equivalence : Equivalence same)
  (unique : Unique same (original.filterMap image)) (selects : edit.Selects same) (present : edit.target ∈ original)
  (untouched : image edit.target = some edit.target)

include equivalence unique selects present untouched

/-- Among the rows the table has come to, only the target is matched. -/
theorem matched_iff {row current : ρ} (member : row ∈ original) (becomes : image row = some current) :
    edit.matched current = true ↔ row = edit.target := by
  constructor
  · intro matched
    exact unique.eq_of_same equivalence member present becomes untouched (selects.2 _ _ matched selects.1)
  · rintro rfl
    obtain rfl := Option.some.inj (becomes.symm.trans untouched)
    exact selects.1

theorem apply_image {next : ρ → Option ρ} (hit : next edit.target = edit.outcome edit.target)
    (frame : ∀ row, row ≠ edit.target → next row = image row) :
    edit.apply (original.filterMap image) = original.filterMap next := by
  rw [Edit.apply, List.filterMap_filterMap]
  refine List.filterMap_congr fun row member => ?_
  by_cases target : row = edit.target
  · subst target
    rw [untouched, hit, Option.bind_some, if_pos selects.1]
  · rw [frame row target]
    cases becomes : image row with
    | none => rfl
    | some current =>
      have missed : ¬edit.matched current = true := fun matched =>
        target ((matched_iff equivalence unique selects present untouched member becomes).mp matched)
      rw [Option.bind_some, if_neg missed]

theorem filter_image : (original.filterMap image).filter edit.matched = [edit.target] := by
  have nodup : ((original.filterMap image).filter edit.matched).Nodup := (unique.nodup equivalence).filter _
  refine List.perm_singleton.mp ((List.perm_ext_iff_of_nodup nodup (List.nodup_singleton _)).mpr fun current => ?_)
  rw [List.mem_singleton, List.mem_filter]
  constructor
  · rintro ⟨member, matched⟩
    obtain ⟨row, source, becomes⟩ := List.mem_filterMap.mp member
    obtain rfl := (matched_iff equivalence unique selects present untouched source becomes).mp matched
    exact (Option.some.inj (untouched.symm.trans becomes)).symm
  · rintro rfl
    exact ⟨List.mem_filterMap.mpr ⟨edit.target, present, untouched⟩, selects.1⟩

end Step

/-- Edits with targets of their own that are made one after the other: each hits its
target alone, and the table has become the one where all were made at once. -/
theorem Applied.simultaneous (equivalence : Equivalence same) {original current final : List ρ} {edits : List (Edit ρ)}
    {image last : ρ → Option ρ} (applied : Applied same current edits final) (reached : current = original.filterMap image)
    (unique : Unique same current) (distinct : (edits.map Edit.target).Nodup)
    (selects : ∀ edit ∈ edits, edit.Selects same) (present : ∀ edit ∈ edits, edit.target ∈ original)
    (untouched : ∀ edit ∈ edits, image edit.target = some edit.target)
    (hit : ∀ edit ∈ edits, last edit.target = edit.outcome edit.target)
    (frame : ∀ row ∈ original, row ∉ edits.map Edit.target → last row = image row) :
    Exact current edits ∧ final = original.filterMap last := by
  classical
  induction applied generalizing image with
  | nil table =>
    refine ⟨.nil table, ?_⟩
    rw [reached]
    exact List.filterMap_congr fun row member => (frame row member (by simp)).symm
  | @cons table final edit edits after rest ih =>
    subst reached
    obtain ⟨fresh, distinct⟩ := List.nodup_cons.mp (List.map_cons ▸ distinct)
    let next := Function.update image edit.target (edit.outcome edit.target)
    have atTarget : next edit.target = edit.outcome edit.target := Function.update_self ..
    have elsewhere : ∀ row, row ≠ edit.target → next row = image row := fun row other => Function.update_of_ne other ..
    have step : edit.apply (original.filterMap image) = original.filterMap next :=
      apply_image equivalence unique (selects edit (by simp)) (present edit (by simp)) (untouched edit (by simp))
        atTarget elsewhere
    have later : ∀ other ∈ edits, other.target ≠ edit.target := fun other member same =>
      fresh (List.mem_map.mpr ⟨other, member, same⟩)
    have remaining : ∀ other ∈ edits, next other.target = some other.target := fun other member =>
      (elsewhere _ (later other member)).trans (untouched other (by simp [member]))
    have outside : ∀ row ∈ original, row ∉ edits.map Edit.target → last row = next row := by
      intro row member avoids
      by_cases target : row = edit.target
      · subst target
        exact (hit edit (by simp)).trans atTarget.symm
      · have outside : row ∉ (edit :: edits).map Edit.target := by simpa [target] using avoids
        exact (frame row member outside).trans (elsewhere row target).symm
    obtain ⟨exact', final_eq⟩ := ih step after distinct (fun other member => selects other (by simp [member]))
      (fun other member => present other (by simp [member])) remaining
      (fun other member => hit other (by simp [member])) outside
    exact ⟨.cons (filter_image equivalence unique (selects edit (by simp)) (present edit (by simp))
      (untouched edit (by simp))) exact', final_eq⟩

/-! ### In between -/

theorem Applied.unique {table final : List ρ} {edits : List (Edit ρ)} (applied : Applied same table edits final)
    (unique : Unique same table) : Unique same final := by
  induction applied with
  | nil => exact unique
  | cons after _ ih => exact ih after

/-- The outcome for the rows that have had their turn. -/
noncomputable def partly (targets : List ρ) (outcome : ρ → Option ρ) (row : ρ) : Option ρ :=
  open Classical in if row ∈ targets then outcome row else some row

theorem partly_done {targets : List ρ} {outcome : ρ → Option ρ} {row : ρ} (target : row ∈ targets) :
    partly targets outcome row = outcome row := by
  classical
  exact if_pos target

theorem partly_waiting {targets : List ρ} {outcome : ρ → Option ρ} {row : ρ} (waiting : row ∉ targets) :
    partly targets outcome row = some row := by
  classical
  exact if_neg waiting

end KeyedEdits
