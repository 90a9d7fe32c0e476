import Mathlib.Data.List.Basic

/-! One chosen item of a list. There is one exactly if the list has items, and it is one
of them; the rules say how it can move while items come and go. -/

namespace Selection

variable {α : Type*} {items : List α} {chosen : Option α}

structure Linked (items : List α) (chosen : Option α) : Prop where
  none_iff : chosen = none ↔ items = []
  member : ∀ item, chosen = some item → item ∈ items

theorem Linked.perm (linked : Linked items chosen) {others : List α} (perm : items.Perm others) : Linked others chosen := by
  constructor
  · rw [linked.none_iff]
    constructor
    · rintro rfl
      exact perm.nil_eq.symm
    · rintro rfl
      exact perm.eq_nil
  · intro item same
    exact perm.mem_iff.mp (linked.member item same)

theorem linked_some {item : α} (member : item ∈ items) : Linked items (some item) := by
  constructor
  · exact iff_of_false (Option.some_ne_none item) (List.ne_nil_of_mem member)
  · intro other same
    rw [← Option.some.inj same]
    exact member

theorem linked_nil : Linked ([] : List α) none := by
  refine ⟨iff_of_true rfl rfl, ?_⟩
  intro item same
  cases same

theorem linked_head (items : List α) : Linked items items.head? := by
  cases items with
  | nil => exact linked_nil
  | cons first items => exact linked_some List.mem_cons_self

/-- An item at its place, or the last one. -/
theorem linked_clamped (items : List α) (index : Nat) : Linked items items[min index (items.length - 1)]? := by
  by_cases empty : items = []
  · rw [empty]
    exact linked_nil
  · have inside : min index (items.length - 1) < items.length := by
      have some_ := List.length_pos_iff.mpr empty
      omega
    rw [List.getElem?_eq_getElem inside]
    exact linked_some (List.getElem_mem inside)

/-- An item at its place, or the one before it. -/
theorem linked_neighbour {index : Nat} (reached : index ≤ items.length) :
    Linked items ((items[index]?).or (if index = 0 then none else items[index - 1]?)) := by
  rcases Nat.lt_or_ge index items.length with inside | behind
  · rw [List.getElem?_eq_getElem inside, Option.some_or]
    exact linked_some (List.getElem_mem inside)
  · rw [List.getElem?_eq_none behind, Option.none_or]
    split
    next first =>
      have empty : items = [] := List.length_eq_zero_iff.mp (Nat.le_zero.mp (first ▸ behind))
      rw [empty]
      exact linked_nil
    next later =>
      have inside : index - 1 < items.length := by omega
      rw [List.getElem?_eq_getElem inside]
      exact linked_some (List.getElem_mem inside)

theorem Linked.map {β : Type*} (linked : Linked items chosen) (f : α → β) : Linked (items.map f) (chosen.map f) := by
  constructor
  · rw [Option.map_eq_none_iff, List.map_eq_nil_iff]
    exact linked.none_iff
  · intro item same
    obtain ⟨source, chosen_, rfl⟩ := Option.map_eq_some_iff.mp same
    exact List.mem_map_of_mem (linked.member source chosen_)

section Filter
variable {β : Type*} {f : α → β} {stays : α → Bool} {value : Option β}

/-- What was chosen is chosen still if it stays. -/
theorem Linked.filter (linked : Linked (items.map f) value) (present : items ≠ [])
    (kept : ∀ name, value = some name → ∃ item ∈ items, stays item = true ∧ f item = name) :
    Linked ((items.filter stays).map f) value := by
  cases value with
  | none => exact absurd (List.map_eq_nil_iff.mp (linked.none_iff.mp rfl)) present
  | some name =>
    obtain ⟨item, member, stays_, rfl⟩ := kept name rfl
    exact linked_some (List.mem_map_of_mem (List.mem_filter.mpr ⟨member, stays_⟩))

/-- What is chosen among the items that stay is one of all items. -/
theorem Linked.of_filter (linked : Linked ((items.filter stays).map f) value) (some_ : items.filter stays ≠ []) :
    Linked (items.map f) value := by
  cases value with
  | none => exact absurd (List.map_eq_nil_iff.mp (linked.none_iff.mp rfl)) some_
  | some name =>
    obtain ⟨item, member, rfl⟩ := List.mem_map.mp (linked.member name rfl)
    exact linked_some (List.mem_map_of_mem (List.mem_of_mem_filter member))

end Filter

/-- As many items stay as there are before the first one that goes. -/
theorem findIdx?_le_filter {goes : α → Bool} {index : Nat} (found : items.findIdx? goes = some index) :
    index ≤ (items.filter fun item => !goes item).length := by
  induction items generalizing index with
  | nil => cases found
  | cons first items ih =>
    rw [List.findIdx?_cons] at found
    cases first_ : goes first with
    | true =>
      rw [first_, if_pos rfl] at found
      rw [← Option.some.inj found]
      exact Nat.zero_le _
    | false =>
      rw [first_, if_neg Bool.false_ne_true] at found
      obtain ⟨before, later, rfl⟩ := Option.map_eq_some_iff.mp found
      rw [List.filter_cons, if_pos (by rw [first_]; rfl), List.length_cons]
      exact Nat.succ_le_succ (ih later)

end Selection
