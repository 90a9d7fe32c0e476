import Mathlib.Data.List.Dedup
import Mathlib.Data.List.Induction
import Mathlib.Order.Lattice

/-! Maps as lists of entries that are sorted by their keys. An entry replaces the one that
has its key. -/

namespace SortedEntries

variable {κ α : Type*} [LinearOrder κ]

def insert (key : κ) (value : α) : List (κ × α) → List (κ × α)
  | [] => [(key, value)]
  | (other, old) :: rest =>
    if key < other then (key, value) :: (other, old) :: rest
    else if key = other then (key, value) :: rest
    else (other, old) :: insert key value rest

/-- The entries one after the other. -/
def insertAll (entries : List (κ × α)) : List (κ × α) :=
  entries.foldl (fun map entry => insert entry.1 entry.2 map) []

/-- Each key is less than the later ones. -/
def Sorted (entries : List (κ × α)) : Prop := entries.Pairwise fun first later => first.1 < later.1

section Insertion
variable {key : κ} {value : α} {entries : List (κ × α)}

theorem mem_of_insert {entry : κ × α} (member : entry ∈ insert key value entries) : entry = (key, value) ∨ entry ∈ entries := by
  induction entries with
  | nil => exact .inl (List.mem_singleton.mp member)
  | cons first rest ih =>
    obtain ⟨other, old⟩ := first
    rw [insert] at member
    split at member
    · exact List.mem_cons.mp member
    split at member
    · exact (List.mem_cons.mp member).imp_right (List.mem_cons_of_mem _)
    · rcases List.mem_cons.mp member with rfl | later
      · exact .inr List.mem_cons_self
      · exact (ih later).imp_right (List.mem_cons_of_mem _)

theorem Sorted.insert (sorted : Sorted entries) : Sorted (SortedEntries.insert key value entries) := by
  induction entries with
  | nil => exact List.pairwise_singleton _ _
  | cons first rest ih =>
    obtain ⟨other, old⟩ := first
    obtain ⟨least, sorted'⟩ := List.pairwise_cons.mp sorted
    rw [SortedEntries.insert]
    split
    next before =>
      refine List.pairwise_cons.mpr ⟨?_, sorted⟩
      intro entry member
      rcases List.mem_cons.mp member with rfl | later
      · exact before
      · exact lt_trans before (least entry later)
    next notBefore =>
      split
      next same =>
        subst same
        exact List.pairwise_cons.mpr ⟨least, sorted'⟩
      next other' =>
        refine List.pairwise_cons.mpr ⟨?_, ih sorted'⟩
        intro entry member
        rcases mem_of_insert member with rfl | later
        · exact lt_of_le_of_ne (not_lt.mp notBefore) (Ne.symm other')
        · exact least entry later

/-- The entries behind an insertion: the new one, and the others with other keys. -/
theorem mem_insert (sorted : Sorted entries) {entry : κ × α} :
    entry ∈ insert key value entries ↔ entry = (key, value) ∨ entry.1 ≠ key ∧ entry ∈ entries := by
  induction entries with
  | nil => simp [insert]
  | cons first rest ih =>
    obtain ⟨other, old⟩ := first
    obtain ⟨least, sorted⟩ := List.pairwise_cons.mp sorted
    rw [insert]
    split
    next before =>
      have fresh : ∀ entry ∈ (other, old) :: rest, entry.1 ≠ key := by
        intro entry member
        rcases List.mem_cons.mp member with rfl | later
        · exact ne_of_gt before
        · exact ne_of_gt (lt_trans before (least entry later))
      rw [List.mem_cons]
      exact or_congr_right ⟨fun member => ⟨fresh entry member, member⟩, And.right⟩
    next notBefore =>
      split
      next same =>
        subst same
        rw [List.mem_cons, List.mem_cons]
        apply or_congr_right
        constructor
        · exact fun later => ⟨ne_of_gt (least entry later), .inr later⟩
        · rintro ⟨otherKey, rfl | later⟩
          · exact absurd rfl otherKey
          · exact later
      next different =>
        rw [List.mem_cons, List.mem_cons, ih sorted]
        constructor
        · rintro (rfl | rfl | ⟨otherKey, later⟩)
          · exact .inr ⟨Ne.symm different, .inl rfl⟩
          · exact .inl rfl
          · exact .inr ⟨otherKey, .inr later⟩
        · rintro (rfl | ⟨otherKey, rfl | later⟩)
          · exact .inr (.inl rfl)
          · exact .inl rfl
          · exact .inr (.inr ⟨otherKey, later⟩)

theorem Sorted.keys_nodup (sorted : Sorted entries) : (entries.map Prod.fst).Nodup :=
  List.pairwise_map.mpr (sorted.imp fun less => ne_of_lt less)

end Insertion

section All
variable (entries : List (κ × α))

theorem insertAll_concat (entry : κ × α) : insertAll (entries ++ [entry]) = insert entry.1 entry.2 (insertAll entries) := by
  rw [insertAll, List.foldl_append]
  rfl

theorem insertAll_sorted : Sorted (insertAll entries) := by
  induction entries using List.reverseRecOn with
  | nil => exact List.Pairwise.nil
  | append_singleton entries entry ih =>
    rw [insertAll_concat]
    exact ih.insert

/-- The entries of the map are among those inserted. -/
theorem mem_of_insertAll {entry : κ × α} (member : entry ∈ insertAll entries) : entry ∈ entries := by
  induction entries using List.reverseRecOn with
  | nil => cases member
  | append_singleton entries last ih =>
    rw [insertAll_concat] at member
    rcases mem_of_insert member with rfl | earlier
    · exact List.mem_append_right _ (List.mem_singleton_self _)
    · exact List.mem_append_left _ (ih earlier)

theorem mem_keys_insertAll (key : κ) : key ∈ (insertAll entries).map Prod.fst ↔ key ∈ entries.map Prod.fst := by
  constructor
  · intro member
    obtain ⟨entry, here, rfl⟩ := List.mem_map.mp member
    exact List.mem_map_of_mem (mem_of_insertAll entries here)
  · intro member
    induction entries using List.reverseRecOn with
    | nil => cases member
    | append_singleton entries last ih =>
      rw [insertAll_concat]
      by_cases same : key = last.1
      · exact List.mem_map.mpr ⟨last, (mem_insert (insertAll_sorted entries)).mpr (.inl rfl), same.symm⟩
      · rw [List.map_append, List.mem_append] at member
        have earlier := member.resolve_right fun here => same (List.mem_singleton.mp here)
        obtain ⟨entry, inserted, rfl⟩ := List.mem_map.mp (ih earlier)
        exact List.mem_map.mpr ⟨entry, (mem_insert (insertAll_sorted entries)).mpr (.inr ⟨same, inserted⟩), rfl⟩

/-- Nothing is replaced exactly if the keys are distinct. -/
theorem length_insertAll : (insertAll entries).length = entries.length ↔ (entries.map Prod.fst).Nodup := by
  have perm : ((insertAll entries).map Prod.fst).Perm (entries.map Prod.fst).dedup := by
    apply (List.perm_ext_iff_of_nodup (insertAll_sorted entries).keys_nodup (List.nodup_dedup _)).mpr
    intro key
    rw [mem_keys_insertAll, List.mem_dedup]
  have length := perm.length_eq
  rw [List.length_map] at length
  rw [length]
  constructor
  · intro same
    have whole := (List.dedup_sublist (entries.map Prod.fst)).eq_of_length (same.trans (List.length_map _).symm)
    exact List.dedup_eq_self.mp whole
  · intro distinct
    rw [List.dedup_eq_self.mpr distinct, List.length_map]

/-- With distinct keys, every entry is kept. -/
theorem mem_insertAll (distinct : (entries.map Prod.fst).Nodup) {entry : κ × α} : entry ∈ insertAll entries ↔ entry ∈ entries := by
  refine ⟨mem_of_insertAll entries, fun member => ?_⟩
  have listed := (mem_keys_insertAll entries entry.1).mpr (List.mem_map_of_mem member)
  obtain ⟨kept, inserted, same⟩ := List.mem_map.mp listed
  have whole := List.inj_on_of_nodup_map distinct (mem_of_insertAll entries inserted) member same
  exact whole ▸ inserted

end All

end SortedEntries
