import Mathlib.Data.List.Nodup

/-! Tables with a primary key: no two rows have the same one. What a statement
refuses is `none`, and a statement that is refused leaves the table as it was. -/

variable {ρ κ : Type*} (key : ρ → κ)

structure KeyedTable where
  rows : List ρ
  distinct : (rows.map key).Nodup

namespace KeyedTable

variable {key} (table : KeyedTable key)

instance : Inhabited (KeyedTable key) := ⟨⟨[], List.nodup_nil⟩⟩

/-- A key stands in one row only. -/
theorem eq_of_key {first second : ρ} (here : first ∈ table.rows) (there : second ∈ table.rows) (same : key first = key second) :
    first = second :=
  List.inj_on_of_nodup_map table.distinct here there same

def deleteWhere (matched : ρ → Bool) : KeyedTable key where
  rows := table.rows.filter fun row => !matched row
  distinct := table.distinct.sublist (List.filter_sublist.map key)

theorem mem_deleteWhere {matched : ρ → Bool} {row : ρ} :
    row ∈ (table.deleteWhere matched).rows ↔ row ∈ table.rows ∧ matched row = false := by
  simp [deleteWhere]

def updateWhere (matched : ρ → Bool) (change : ρ → ρ) (same : ∀ row, key (change row) = key row) : KeyedTable key where
  rows := table.rows.map fun row => if matched row then change row else row
  distinct := by
    have keys : (table.rows.map fun row => if matched row then change row else row).map key = table.rows.map key := by
      rw [List.map_map]
      refine List.map_congr_left fun row _ => ?_
      dsimp only [Function.comp]
      split
      · exact same row
      · rfl
    rw [keys]
    exact table.distinct

theorem mem_updateWhere {table : KeyedTable key} {matched : ρ → Bool} {change : ρ → ρ} (same : ∀ row, key (change row) = key row)
    {row : ρ} :
    row ∈ (table.updateWhere matched change same).rows ↔
      ∃ old ∈ table.rows, (if matched old then change old else old) = row :=
  List.mem_map

variable [DecidableEq κ]

def find? (value : κ) : Option ρ := table.rows.find? fun row => key row = value

/-- Refused when the key is there already. -/
def insert (row : ρ) : Option (KeyedTable key) :=
  if taken : key row ∈ table.rows.map key then none
  else some { rows := row :: table.rows, distinct := List.nodup_cons.mpr ⟨taken, table.distinct⟩ }

def insertAll (table : KeyedTable key) : List ρ → Option (KeyedTable key)
  | [] => some table
  | row :: rows => (table.insert row).bind fun table => table.insertAll rows

/-- Replaces the row that has the key, if it may be replaced, and inserts otherwise. -/
def upsert (row : ρ) (replaces : ρ → Bool) : Option (KeyedTable key) :=
  if table.rows.all fun other => key other ≠ key row || replaces other then
    (table.deleteWhere fun other => key other = key row).insert row
  else none

/-- Changes the row that has the key, and inserts the new row where there is none. -/
def insertOrUpdate (row : ρ) (change : ρ → ρ) (same : ∀ row, key (change row) = key row) : KeyedTable key :=
  match table.insert row with
  | some inserted => inserted
  | none => table.updateWhere (fun other => key other = key row) change same

variable {table} {after : KeyedTable key}

theorem find?_some {value : κ} {row : ρ} : table.find? value = some row ↔ row ∈ table.rows ∧ key row = value := by
  constructor
  · intro found
    have equal := List.find?_some (p := fun row => decide (key row = value)) found
    exact ⟨List.mem_of_find?_eq_some found, of_decide_eq_true equal⟩
  · rintro ⟨member, same⟩
    cases found : table.find? value with
    | none =>
      have other := List.find?_eq_none.mp found row member
      exact absurd (decide_eq_true same) other
    | some other =>
      have there : other ∈ table.rows := List.mem_of_find?_eq_some found
      have equal := List.find?_some (p := fun row => decide (key row = value)) found
      rw [table.eq_of_key there member ((of_decide_eq_true equal).trans same.symm)]

theorem insert_some {row : ρ} (inserted : table.insert row = some after) :
    key row ∉ table.rows.map key ∧ after.rows = row :: table.rows := by
  rw [insert] at inserted
  split at inserted
  · cases inserted
  case isFalse free =>
    obtain rfl := Option.some.inj inserted
    exact ⟨free, rfl⟩

theorem insert_none {row : ρ} (refused : table.insert row = none) : ∃ other ∈ table.rows, key other = key row := by
  rw [insert] at refused
  split at refused
  case isTrue taken => exact List.mem_map.mp taken
  · cases refused

/-- What is there after an insert or an update: the new row, the changed one or one of the others. -/
theorem mem_insertOrUpdate {row other : ρ} {change : ρ → ρ} {same : ∀ row, key (change row) = key row} :
    other ∈ (table.insertOrUpdate row change same).rows ↔
      (other ∈ table.rows ∧ key other ≠ key row) ∨ (∃ old ∈ table.rows, key old = key row ∧ other = change old) ∨
        ((∀ old ∈ table.rows, key old ≠ key row) ∧ other = row) := by
  rw [insertOrUpdate]
  split
  case h_1 inserted ran =>
    obtain ⟨free, rows⟩ := insert_some ran
    have absent : ∀ old ∈ table.rows, key old ≠ key row := fun old member equal =>
      free (equal ▸ List.mem_map_of_mem member)
    rw [rows, List.mem_cons]
    constructor
    · rintro (rfl | member)
      · exact .inr (.inr ⟨absent, rfl⟩)
      · exact .inl ⟨member, absent other member⟩
    · rintro (⟨member, -⟩ | ⟨old, member, equal, -⟩ | ⟨-, rfl⟩)
      · exact .inr member
      · exact absurd equal (absent old member)
      · exact .inl rfl
  case h_2 refused =>
    obtain ⟨found, there, equal⟩ := insert_none refused
    rw [mem_updateWhere]
    constructor
    · rintro ⟨old, member, rfl⟩
      by_cases matched : key old = key row
      · simp only [matched, decide_true, if_true]
        exact .inr (.inl ⟨old, member, matched, rfl⟩)
      · simp only [matched, decide_false, Bool.false_eq_true, if_false]
        exact .inl ⟨member, matched⟩
    · rintro (⟨member, differ⟩ | ⟨old, member, matched, rfl⟩ | ⟨absent, -⟩)
      · exact ⟨other, member, by simp [differ]⟩
      · exact ⟨old, member, by simp [matched]⟩
      · exact absurd equal (absent found there)

section Lookups
variable {row : ρ} {change : ρ → ρ} {same : ∀ row, key (change row) = key row}

theorem find?_insertOrUpdate (whole : ∀ old, key old = key row → change old = row) :
    (table.insertOrUpdate row change same).find? (key row) = some row := by
  refine find?_some.mpr ⟨mem_insertOrUpdate.mpr ?_, rfl⟩
  by_cases absent : ∀ old ∈ table.rows, key old ≠ key row
  · exact .inr (.inr ⟨absent, rfl⟩)
  · push Not at absent
    obtain ⟨old, there, equal⟩ := absent
    exact .inr (.inl ⟨old, there, equal, (whole old equal).symm⟩)

theorem find?_insertOrUpdate_other {value : κ} (other : value ≠ key row) :
    (table.insertOrUpdate row change same).find? value = table.find? value := by
  refine Option.ext fun found => ?_
  rw [find?_some, find?_some, mem_insertOrUpdate]
  constructor
  · rintro ⟨⟨member, -⟩ | ⟨old, -, equal, rfl⟩ | ⟨-, rfl⟩, rfl⟩
    · exact ⟨member, rfl⟩
    · exact absurd ((same old).trans equal) other
    · exact absurd rfl other
  · rintro ⟨member, rfl⟩
    exact ⟨.inl ⟨member, other⟩, rfl⟩

theorem find?_updateWhere {matched : ρ → Bool} {value : κ} :
    (table.updateWhere matched change same).find? value = (table.find? value).map fun row => if matched row then change row else row := by
  rw [find?, updateWhere, List.find?_map, find?]
  congr 2
  funext row
  dsimp only [Function.comp]
  split
  · rw [same]
  · rfl

theorem find?_deleteKey {value : κ} : (table.deleteWhere fun row => key row = value).find? value = none := by
  refine Option.eq_none_iff_forall_not_mem.mpr fun row found => ?_
  obtain ⟨member, equal⟩ := find?_some.mp found
  exact absurd equal (of_decide_eq_false (mem_deleteWhere table |>.mp member).2)

theorem find?_deleteKey_other {value other : κ} (differ : other ≠ value) :
    (table.deleteWhere fun row => key row = value).find? other = table.find? other := by
  refine Option.ext fun row => ?_
  rw [find?_some, find?_some, mem_deleteWhere]
  constructor
  · rintro ⟨⟨member, -⟩, equal⟩
    exact ⟨member, equal⟩
  · rintro ⟨member, rfl⟩
    exact ⟨⟨member, decide_eq_false differ⟩, rfl⟩

end Lookups

theorem mem_insertAll {rows : List ρ} (inserted : table.insertAll rows = some after) {row : ρ} :
    row ∈ after.rows ↔ row ∈ rows ∨ row ∈ table.rows := by
  induction rows generalizing table with
  | nil =>
    obtain rfl := Option.some.inj inserted
    simp
  | cons first rows ih =>
    obtain ⟨next, one, rest⟩ := Option.bind_eq_some_iff.mp inserted
    rw [ih rest, (insert_some one).2, List.mem_cons, List.mem_cons]
    tauto

/-- The key that is there stays free for no other row. -/
theorem upsert_some {row : ρ} {replaces : ρ → Bool} (replaced : table.upsert row replaces = some after) :
    (∀ other ∈ table.rows, key other = key row → replaces other = true) ∧
      ∀ other, other ∈ after.rows ↔ other = row ∨ other ∈ table.rows ∧ key other ≠ key row := by
  rw [upsert] at replaced
  split at replaced
  case isFalse => cases replaced
  case isTrue allowed =>
    constructor
    · intro other member same
      simpa [same] using List.all_eq_true.mp allowed other member
    · intro other
      rw [(insert_some replaced).2, List.mem_cons, mem_deleteWhere, decide_eq_false_iff_not]

/-- Without the keys of the last rows the first ones are left. -/
theorem filter_front {front back : List ρ} (distinct : ((front ++ back).map key).Nodup) :
    (front ++ back).filter (fun row => !decide (key row ∈ back.map key)) = front := by
  rw [List.map_append, List.nodup_append] at distinct
  have kept : front.filter (fun row => !decide (key row ∈ back.map key)) = front := by
    apply List.filter_eq_self.mpr
    intro row listed
    rw [Bool.not_eq_true', decide_eq_false_iff_not]
    exact fun last => distinct.2.2 _ (List.mem_map_of_mem listed) _ last rfl
  have gone : back.filter (fun row => !decide (key row ∈ back.map key)) = [] := by
    apply List.filter_eq_nil_iff.mpr
    intro row listed
    rw [Bool.not_eq_true', decide_eq_false_iff_not]
    exact not_not_intro (List.mem_map_of_mem listed)
  rw [List.filter_append, kept, gone, List.append_nil]

section Keeps
variable {ν : Type*} {field : ρ → ν}

/-- Rows that are there before and after have the same in a field. -/
def Keeps (field : ρ → ν) (before after : KeyedTable key) : Prop :=
  ∀ old ∈ before.rows, ∀ new ∈ after.rows, key new = key old → field new = field old

instance [DecidableEq ν] (before after : KeyedTable key) : Decidable (Keeps field before after) :=
  inferInstanceAs (Decidable (∀ old ∈ before.rows, ∀ new ∈ after.rows, key new = key old → field new = field old))

omit [DecidableEq κ] in
theorem keeps_refl (table : KeyedTable key) : Keeps field table table := fun _ there _ here same =>
  congrArg field (table.eq_of_key here there same)

omit [DecidableEq κ] in
theorem keeps_deleteWhere {matched : ρ → Bool} : Keeps field table (table.deleteWhere matched) := fun _ there _ here same =>
  congrArg field (table.eq_of_key (mem_deleteWhere table |>.mp here).1 there same)

omit [DecidableEq κ] in
theorem keeps_updateWhere {matched : ρ → Bool} {change : ρ → ρ} (same : ∀ row, key (change row) = key row)
    (keeps : ∀ row, field (change row) = field row) : Keeps field table (table.updateWhere matched change same) := by
  intro old there new here equal
  obtain ⟨row, member, rfl⟩ := (mem_updateWhere same).mp here
  split at equal
  · rw [same] at equal
    rw [if_pos ‹_›, keeps, table.eq_of_key member there equal]
  · rw [if_neg ‹_›, table.eq_of_key member there equal]

/-- A row that is put again keeps a field if its old row has the one of the changed row. -/
theorem keeps_insertOrUpdate {row : ρ} {change : ρ → ρ} {same : ∀ row, key (change row) = key row} :
    Keeps field table (table.insertOrUpdate row change same) ↔
      ∀ old ∈ table.rows, key old = key row → field (change old) = field old := by
  constructor
  · intro keeps old there equal
    exact keeps old there _ (mem_insertOrUpdate.mpr (.inr (.inl ⟨old, there, equal, rfl⟩))) (same old)
  · intro own old there new here equal
    rcases mem_insertOrUpdate.mp here with ⟨member, -⟩ | ⟨stored, member, taken, rfl⟩ | ⟨absent, rfl⟩
    · rw [table.eq_of_key member there equal]
    · rw [same] at equal
      rw [own stored member taken, table.eq_of_key member there equal]
    · exact absurd equal.symm (absent old there)

end Keeps

end KeyedTable
