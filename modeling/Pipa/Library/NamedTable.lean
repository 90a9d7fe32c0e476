import Mathlib.Data.List.Nodup

/-! Tables of named columns and the alterations that change them one at a time. An
alteration fails where it names a missing column, brings in a name that is taken, or
would leave the table without columns. -/

/-- Columns in order, each name once, and at least one. -/
structure NamedTable (ν : Type*) (δ : Type*) where
  columns : List (ν × δ)
  distinct : (columns.map Prod.fst).Nodup
  inhabited : columns ≠ []

namespace NamedTable

variable {ν : Type*} {δ : Type*}

inductive Alteration (ν : Type*) (δ : Type*) where
  | drop (name : ν)
  | add (name : ν) (definition : δ)
  | change (source name : ν) (definition : δ)

/-- The names a list of columns carries. -/
abbrev names (columns : List (ν × δ)) : List ν := columns.map Prod.fst

variable [DecidableEq ν]

/-- The columns of every other name. -/
def others (columns : List (ν × δ)) (name : ν) : List (ν × δ) := columns.filter fun column => column.1 ≠ name

/-- The columns with the one of a name replaced where it stands. -/
def replaced (columns : List (ν × δ)) (source name : ν) (definition : δ) : List (ν × δ) :=
  columns.map fun column => if column.1 = source then (name, definition) else column

theorem names_others (columns : List (ν × δ)) (name : ν) :
    names (others columns name) = (names columns).filter (· ≠ name) := by
  rw [names, names, others, List.filter_map]
  rfl

theorem replaced_others {columns : List (ν × δ)} {source : ν} (absent : source ∉ names columns) (name : ν) (definition : δ) :
    replaced columns source name definition = columns := by
  have unchanged : ∀ column ∈ columns, (if column.1 = source then (name, definition) else column) = id column := by
    intro column member
    have other : column.1 ≠ source := fun same => absent (List.mem_map.mpr ⟨column, member, same⟩)
    rw [if_neg other, id]
  rw [replaced, List.map_congr_left unchanged, List.map_id]

theorem others_of_absent {columns : List (ν × δ)} {name : ν} (absent : name ∉ names columns) :
    others columns name = columns := by
  refine List.filter_eq_self.mpr fun column member => decide_eq_true ?_
  rintro rfl
  exact absent (List.mem_map_of_mem member)

section Front
variable {columns rest : List (ν × δ)} {source : ν} {former : δ}

/-- With one column brought to the front, the others are those behind it. -/
theorem others_perm (front : columns.Perm ((source, former) :: rest)) (distinct : (names columns).Nodup) :
    (others columns source).Perm rest := by
  have distinct' : (names ((source, former) :: rest)).Nodup := (front.map Prod.fst).nodup_iff.mp distinct
  have absent : source ∉ names rest := (List.nodup_cons.mp distinct').1
  have filtered := front.filter (fun column => decide (column.1 ≠ source))
  rw [List.filter_cons_of_neg (by simp)] at filtered
  rwa [← others, ← others, others_of_absent absent] at filtered

theorem replaced_perm (front : columns.Perm ((source, former) :: rest)) (distinct : (names columns).Nodup) (name : ν)
    (definition : δ) : (replaced columns source name definition).Perm ((name, definition) :: rest) := by
  have distinct' : (names ((source, former) :: rest)).Nodup := (front.map Prod.fst).nodup_iff.mp distinct
  have absent : source ∉ names rest := (List.nodup_cons.mp distinct').1
  have mapped := front.map (fun column => if column.1 = source then (name, definition) else column)
  rw [List.map_cons, if_pos rfl] at mapped
  rwa [← replaced, ← replaced, replaced_others absent] at mapped

end Front

theorem replaced_distinct {columns : List (ν × δ)} {source name : ν} (distinct : (names columns).Nodup)
    (present : source ∈ names columns) (free : name ∉ names (others columns source)) (definition : δ) :
    (names (replaced columns source name definition)).Nodup := by
  obtain ⟨⟨source, former⟩, member, rfl⟩ := List.mem_map.mp present
  obtain ⟨before, behind, rfl⟩ := List.append_of_mem member
  have front : (before ++ (source, former) :: behind).Perm ((source, former) :: (before ++ behind)) := List.perm_middle
  have remain := (others_perm front distinct).map Prod.fst
  have mapped := (replaced_perm front distinct name definition).map Prod.fst
  have distinct' := (front.map Prod.fst).nodup_iff.mp distinct
  refine mapped.nodup_iff.mpr (List.nodup_cons.mpr ⟨?_, (List.nodup_cons.mp distinct').2⟩)
  exact fun taken => free (remain.mem_iff.mpr taken)

/-- What one alteration makes of a table. -/
def apply (table : NamedTable ν δ) : Alteration ν δ → Option (NamedTable ν δ)
  | .drop name =>
    if present : name ∈ names table.columns ∧ others table.columns name ≠ [] then
      some ⟨others table.columns name, by
        rw [← names, names_others]
        exact table.distinct.filter _, present.2⟩
    else none
  | .add name definition =>
    if free : name ∉ names table.columns then
      some ⟨table.columns ++ [(name, definition)], by
        rw [List.map_append]
        exact table.distinct.append (List.nodup_singleton _) (List.disjoint_singleton.mpr free), by simp⟩
    else none
  | .change source name definition =>
    if able : source ∈ names table.columns ∧ name ∉ names (others table.columns source) then
      some ⟨replaced table.columns source name definition,
        replaced_distinct table.distinct able.1 able.2 definition, by
        rw [replaced, ne_eq, List.map_eq_nil_iff]
        exact table.inhabited⟩
    else none

/-- What a list of alterations makes of a table, one after another. -/
def applyAll (table : NamedTable ν δ) (alterations : List (Alteration ν δ)) : Option (NamedTable ν δ) :=
  alterations.foldlM apply table

@[simp]
theorem applyAll_nil (table : NamedTable ν δ) : table.applyAll [] = some table := rfl

theorem applyAll_cons (table : NamedTable ν δ) (alteration : Alteration ν δ) (later : List (Alteration ν δ)) :
    table.applyAll (alteration :: later) = (table.apply alteration).bind fun next => next.applyAll later := by
  rw [applyAll, List.foldlM_cons]
  rfl

theorem applyAll_append (table : NamedTable ν δ) (former later : List (Alteration ν δ)) :
    table.applyAll (former ++ later) = (table.applyAll former).bind fun next => next.applyAll later := by
  rw [applyAll, List.foldlM_append]
  rfl

section Steps
variable {table : NamedTable ν δ} {rest : List (ν × δ)} {source name : ν} {former definition : δ}

/-- A column is dropped exactly where others remain. -/
theorem apply_drop (front : table.columns.Perm ((source, former) :: rest)) :
    (rest ≠ [] → ∃ next, table.apply (.drop source) = some next ∧ next.columns.Perm rest) ∧
      (rest = [] → table.apply (.drop source) = none) := by
  have remain := others_perm front table.distinct
  have present : source ∈ names table.columns := (front.map Prod.fst).mem_iff.mpr List.mem_cons_self
  constructor
  · intro more
    have more' : others table.columns source ≠ [] := fun none => more (List.nil_perm.mp (none ▸ remain))
    exact ⟨_, dif_pos ⟨present, more'⟩, remain⟩
  · rintro rfl
    exact dif_neg fun able => able.2 remain.eq_nil

theorem apply_add (free : name ∉ names table.columns) :
    ∃ next, table.apply (.add name definition) = some next ∧ next.columns.Perm ((name, definition) :: table.columns) :=
  ⟨_, dif_pos free, List.perm_append_singleton _ _⟩

theorem apply_add_taken (taken : name ∈ names table.columns) : table.apply (.add name definition) = none :=
  dif_neg fun free => free taken

theorem apply_change (front : table.columns.Perm ((source, former) :: rest)) (free : name ∉ names rest) :
    ∃ next, table.apply (.change source name definition) = some next ∧
      next.columns.Perm ((name, definition) :: rest) := by
  have present : source ∈ names table.columns := (front.map Prod.fst).mem_iff.mpr List.mem_cons_self
  have remain := (others_perm front table.distinct).map Prod.fst
  exact ⟨_, dif_pos ⟨present, fun taken => free (remain.mem_iff.mp taken)⟩, replaced_perm front table.distinct name definition⟩

theorem apply_change_taken (front : table.columns.Perm ((source, former) :: rest)) (taken : name ∈ names rest) :
    table.apply (.change source name definition) = none := by
  have remain := (others_perm front table.distinct).map Prod.fst
  exact dif_neg fun able => able.2 (remain.mem_iff.mpr taken)

end Steps

/-- Dropping several columns leaves the rest, as long as there is a rest. -/
theorem applyAll_drops {table : NamedTable ν δ} {dropped kept : List (ν × δ)}
    (columns : table.columns.Perm (dropped ++ kept)) :
    (kept ≠ [] → ∃ next, table.applyAll (dropped.map fun column => .drop column.1) = some next ∧
        next.columns.Perm kept) ∧
      (kept = [] → table.applyAll (dropped.map fun column => .drop column.1) = none) := by
  induction dropped generalizing table with
  | nil =>
    refine ⟨fun _ => ⟨table, rfl, columns⟩, ?_⟩
    rintro rfl
    exact absurd columns.eq_nil table.inhabited
  | cons column dropped ih =>
    obtain ⟨source, former⟩ := column
    rw [List.map_cons, applyAll_cons]
    by_cases last : dropped ++ kept = []
    · rw [(apply_drop columns).2 last]
      exact ⟨fun more => absurd (List.append_eq_nil_iff.mp last).2 more, fun _ => rfl⟩
    · obtain ⟨next, applied, remain⟩ := (apply_drop columns).1 last
      rw [applied]
      exact ih remain

end NamedTable
