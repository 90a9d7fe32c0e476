import Mathlib.Data.List.Nodup

/-! Maps that keep the order of their entries. -/

/-- Entries in order, each key once. -/
structure OrderedMap (κ : Type*) (α : Type*) where
  entries : List (κ × α)
  distinct : (entries.map Prod.fst).Nodup
deriving DecidableEq

namespace OrderedMap

variable {κ : Type*} {α : Type*}

def empty : OrderedMap κ α := ⟨[], List.nodup_nil⟩

variable [DecidableEq κ]

def get (map : OrderedMap κ α) (key : κ) : Option α := map.entries.lookup key

def has (map : OrderedMap κ α) (key : κ) : Bool := (map.get key).isSome

/-- Where entries are given in order, the last one with a key counts. -/
def lastOf (entries : List (κ × α)) (key : κ) : Option α := entries.reverse.lookup key

/-- An entry whose key is there keeps its place. -/
def set (map : OrderedMap κ α) (key : κ) (value : α) : OrderedMap κ α :=
  if known : key ∈ map.entries.map Prod.fst then
    { entries := map.entries.map fun entry => if entry.1 = key then (key, value) else entry
      distinct := by
        have same : (map.entries.map fun entry => if entry.1 = key then (key, value) else entry).map Prod.fst =
            map.entries.map Prod.fst := by
          rw [List.map_map]
          refine List.map_congr_left fun entry _ => ?_
          by_cases named : entry.1 = key <;> simp [named]
        rw [same]
        exact map.distinct }
  else
    { entries := map.entries ++ [(key, value)]
      distinct := by
        rw [List.map_append]
        refine List.nodup_append.mpr ⟨map.distinct, List.nodup_singleton key, ?_⟩
        rintro other here _ last rfl
        exact known ((List.mem_singleton.mp last : other = key) ▸ here) }

def delete (map : OrderedMap κ α) (key : κ) : OrderedMap κ α where
  entries := map.entries.filter fun entry => entry.1 ≠ key
  distinct := map.distinct.sublist (List.filter_sublist.map Prod.fst)

theorem mem_of_lookup {entries : List (κ × α)} {key : κ} {value : α} (found : entries.lookup key = some value) :
    (key, value) ∈ entries := by
  induction entries with
  | nil => cases found
  | cons entry entries ih =>
    rw [List.lookup_cons] at found
    by_cases same : key = entry.1
    · subst same
      rw [beq_self_eq_true] at found
      exact List.mem_cons.mpr (Or.inl (by rw [← Option.some.inj found]))
    · rw [beq_eq_false_iff_ne.mpr same] at found
      exact List.mem_cons.mpr (Or.inr (ih found))

theorem lookup_of_mem {entries : List (κ × α)} (distinct : (entries.map Prod.fst).Nodup) {key : κ} {value : α}
    (member : (key, value) ∈ entries) : entries.lookup key = some value := by
  induction entries with
  | nil => cases member
  | cons entry entries ih =>
    obtain ⟨fresh, distinct⟩ := List.nodup_cons.mp (List.map_cons ▸ distinct)
    rw [List.lookup_cons]
    rcases List.mem_cons.mp member with rfl | later
    · rw [beq_self_eq_true]
    · have other : key ≠ entry.1 := fun same => fresh (List.mem_map.mpr ⟨(key, value), later, same⟩)
      rw [beq_eq_false_iff_ne.mpr other]
      exact ih distinct later

theorem lastOf_mem {entries : List (κ × α)} {key : κ} {value : α} (found : lastOf entries key = some value) :
    (key, value) ∈ entries :=
  List.mem_reverse.mp (mem_of_lookup found)

end OrderedMap
