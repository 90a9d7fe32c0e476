import Mathlib.Algebra.Ring.Nat
import Mathlib.Algebra.BigOperators.Group.List.Basic

/-! Totals by key: items that have a key and a weight each, and the weight that the
items of one key have together. -/

namespace Tallies

variable {α β κ : Type*} [DecidableEq κ] (key : α → κ)

/-- The weight of the items of one key. -/
def total (weight : α → Nat) (items : List α) (name : κ) : Nat :=
  ((items.filter (fun item => key item = name)).map weight).sum

variable {key} {weight : α → Nat} {items : List α} {name : κ}

@[simp]
theorem total_nil : total key weight [] name = 0 := rfl

theorem total_cons {item : α} :
    total key weight (item :: items) name = (if key item = name then weight item else 0) + total key weight items name := by
  by_cases same : key item = name
  · simp [total, same]
  · simp [total, same]

theorem total_append {others : List α} :
    total key weight (items ++ others) name = total key weight items name + total key weight others name := by
  simp only [total, List.filter_append, List.map_append, List.sum_append]

/-- The totals of several lists add up to the total of them all. -/
theorem total_flatMap {parts : List β} {contents : β → List α} :
    total key weight (parts.flatMap contents) name = (parts.map fun part => total key weight (contents part) name).sum := by
  induction parts with
  | nil => rfl
  | cons part parts ih => rw [List.flatMap_cons, total_append, ih, List.map_cons, List.sum_cons]

theorem total_add {first second : α → Nat} :
    total key (fun item => first item + second item) items name = total key first items name + total key second items name := by
  induction items with
  | nil => rfl
  | cons item items ih =>
    rw [total_cons, total_cons, total_cons, ih]
    split <;> omega

theorem total_congr {other : α → Nat} (same : ∀ item ∈ items, weight item = other item) :
    total key weight items name = total key other items name :=
  congrArg List.sum (List.map_congr_left fun item member => same item (List.mem_of_mem_filter member))

theorem total_absent (absent : ∀ item ∈ items, key item ≠ name) : total key weight items name = 0 := by
  have none : items.filter (fun item => key item = name) = [] :=
    List.filter_eq_nil_iff.mpr fun item member => by simpa using absent item member
  rw [total, none]
  rfl

/-- Where no two items have the same key, the total is the weight of one item. -/
theorem total_unique (distinct : (items.map key).Nodup) {item : α} (member : item ∈ items) :
    total key weight items (key item) = weight item := by
  induction items with
  | nil => cases member
  | cons first items ih =>
    obtain ⟨other, distinct⟩ := List.nodup_cons.mp distinct
    rw [total_cons]
    rcases List.mem_cons.mp member with rfl | later
    · rw [if_pos rfl, total_absent]
      · rfl
      · intro item inside same
        exact other (List.mem_map.mpr ⟨item, inside, same⟩)
    · rw [if_neg, ih distinct later, Nat.zero_add]
      intro same
      exact other (List.mem_map.mpr ⟨item, later, same.symm⟩)

private theorem sum_single {names : List κ} (distinct : names.Nodup) (amount : Nat) :
    (names.map fun other => if name = other then amount else 0).sum = if name ∈ names then amount else 0 := by
  induction names with
  | nil => rfl
  | cons first names ih =>
    obtain ⟨other, distinct⟩ := List.nodup_cons.mp distinct
    rw [List.map_cons, List.sum_cons, ih distinct]
    by_cases same : name = first
    · subst same
      simp [other]
    · simp [same]

/-- Distinct keys that include the key of every item of some weight share the whole weight. -/
theorem sum_totals {names : List κ} (distinct : names.Nodup) (known : ∀ item ∈ items, weight item ≠ 0 → key item ∈ names) :
    (names.map (total key weight items)).sum = (items.map weight).sum := by
  induction items with
  | nil => exact List.sum_eq_zero (by simp)
  | cons item items ih =>
    have rest := ih fun other member => known other (List.mem_cons_of_mem _ member)
    have share : (names.map fun name => if key item = name then weight item else 0).sum = weight item := by
      rw [sum_single distinct]
      by_cases listed : key item ∈ names
      · rw [if_pos listed]
      · rw [if_neg listed]
        by_contra heavy
        exact listed (known item List.mem_cons_self (Ne.symm heavy))
    calc (names.map (total key weight (item :: items))).sum
        = (names.map fun name => (if key item = name then weight item else 0) + total key weight items name).sum :=
          congrArg List.sum (List.map_congr_left fun name _ => total_cons)
      _ = weight item + (items.map weight).sum := by rw [List.sum_map_add, share, rest]
      _ = ((item :: items).map weight).sum := by rw [List.map_cons, List.sum_cons]

end Tallies
