import Mathlib.Data.Multiset.AddSub
import Mathlib.Logic.Function.Basic
import Pipa.Library.Undo

/-! Stores of multiset tables under single-row statements. An edit takes rows out
of a table and puts rows in; its inverse swaps the two. A statement that may act
on any one of the matching rows is an edit as soon as only one row can match. -/

namespace RowStore

variable {κ : Type*} [DecidableEq κ] {Row : κ → Type*}

/-- A store holds a multiset of rows for every table. -/
abbrev Store (Row : κ → Type*) := ∀ table, Multiset (Row table)

/-- The rows an edit takes out of one table and those it puts in. -/
structure Edit (Row : κ → Type*) where
  table : κ
  removed : Multiset (Row table)
  added : Multiset (Row table)

namespace Edit

def inverse (edit : Edit Row) : Edit Row := ⟨edit.table, edit.added, edit.removed⟩

/-- An edit applies where its rows are present; every other row stays. -/
def Applies (edit : Edit Row) (before after : Store Row) : Prop :=
  ∃ rest, before edit.table = edit.removed + rest ∧ after = Function.update before edit.table (edit.added + rest)

theorem Applies.invert {edit : Edit Row} {before after : Store Row}
    (applies : edit.Applies before after) : edit.inverse.Applies after before := by
  obtain ⟨rest, present, rfl⟩ := applies
  refine ⟨rest, Function.update_self .., ?_⟩
  have restored : Function.update before edit.table (edit.removed + rest) = before := by
    rw [← present, Function.update_eq_self]
  exact (Function.update_idem .. |>.trans restored).symm

/-- The rows put in are there afterwards. -/
theorem Applies.present {edit : Edit Row} {before after : Store Row} (applies : edit.Applies before after)
    {row : Row edit.table} (member : row ∈ edit.added) : row ∈ after edit.table := by
  obtain ⟨rest, -, rfl⟩ := applies
  rw [Function.update_self]
  exact Multiset.mem_add.mpr (Or.inl member)

end Edit

/-- `DELETE … WHERE … LIMIT 1`: one matching row goes, whichever it is. -/
def DeleteOne (table : κ) (matched : Row table → Prop) (before after : Store Row) : Prop :=
  (∃ row, matched row ∧ Edit.Applies ⟨table, {row}, 0⟩ before after) ∨
    (∀ row ∈ before table, ¬ matched row) ∧ after = before

/-- `UPDATE … SET … WHERE … LIMIT 1`: one matching row is replaced. -/
def UpdateOne (table : κ) (assigned : Row table → Row table → Prop) (matched : Row table → Prop)
    (before after : Store Row) : Prop :=
  (∃ row next, matched row ∧ assigned row next ∧ Edit.Applies ⟨table, {row}, {next}⟩ before after) ∨
    (∀ row ∈ before table, ¬ matched row) ∧ after = before

/-- `INSERT … VALUES …`: one row with the given values comes in. -/
def InsertOne (table : κ) (given : Row table → Prop) (before after : Store Row) : Prop :=
  ∃ row, given row ∧ Edit.Applies ⟨table, 0, {row}⟩ before after

section Determined
variable {table : κ} {matched : Row table → Prop} {row : Row table} {before after : Store Row}

/-- A predicate that fits one present row only makes the deletion an edit. -/
theorem deleteOne_iff (only : ∀ other, matched other ↔ other = row) (present : row ∈ before table) :
    DeleteOne table matched before after ↔ Edit.Applies ⟨table, {row}, 0⟩ before after := by
  constructor
  · rintro (⟨other, fits, applies⟩ | ⟨absent, -⟩)
    · obtain rfl := (only other).mp fits
      exact applies
    · exact absurd ((only row).mpr rfl) (absent row present)
  · intro applies
    exact Or.inl ⟨row, (only row).mpr rfl, applies⟩

theorem updateOne_iff {assigned : Row table → Row table → Prop} {next : Row table}
    (only : ∀ other, matched other ↔ other = row) (becomes : ∀ other, assigned row other ↔ other = next)
    (present : row ∈ before table) :
    UpdateOne table assigned matched before after ↔ Edit.Applies ⟨table, {row}, {next}⟩ before after := by
  constructor
  · rintro (⟨other, result, fits, assigns, applies⟩ | ⟨absent, -⟩)
    · obtain rfl := (only other).mp fits
      obtain rfl := (becomes result).mp assigns
      exact applies
    · exact absurd ((only row).mpr rfl) (absent row present)
  · intro applies
    exact Or.inl ⟨row, next, (only row).mpr rfl, (becomes next).mpr rfl, applies⟩

theorem insertOne_iff {given : Row table → Prop} (only : ∀ other, given other ↔ other = row) :
    InsertOne table given before after ↔ Edit.Applies ⟨table, 0, {row}⟩ before after := by
  constructor
  · rintro ⟨other, fits, applies⟩
    obtain rfl := (only other).mp fits
    exact applies
  · intro applies
    exact ⟨row, (only row).mpr rfl, applies⟩

end Determined

end RowStore

/-! The copies of rows in a store as a ledger: an edit takes the rows it removes and
puts the rows it adds. -/

namespace RowStore
open Undo
open scoped Classical

variable {κ : Type*} [DecidableEq κ] {Row : κ → Type*} {ε ι : Type*}

/-- How often a row is among others. -/
noncomputable def occurrences {α : Type*} (rows : Multiset α) (row : α) : ℕ := rows.count row

@[simp]
theorem occurrences_zero {α : Type*} (row : α) : occurrences 0 row = 0 := Multiset.count_zero row

theorem occurrences_singleton {α : Type*} {only row : α} {holds : Prop} [Decidable holds] (same : holds ↔ row = only) :
    (if holds then 1 else 0) = occurrences {only} row :=
  (if_congr same rfl rfl).trans (Multiset.count_singleton row only).symm

/-- How often a store holds a row of a table. -/
noncomputable def copies (store : Store Row) (item : Σ table, Row table) : ℕ := (store item.1).count item.2

/-- The ledger enters an event as the given edit. -/
structure Enters (ledger : Ledger (Store Row) ε (Σ table, Row table)) (event : ε) (edit : Edit Row) : Prop where
  held : ledger.held = copies
  taken : ∀ row, ledger.taken event ⟨edit.table, row⟩ = edit.removed.count row
  put : ∀ row, ledger.put event ⟨edit.table, row⟩ = edit.added.count row
  elsewhere : ∀ item : Σ table, Row table, item.1 ≠ edit.table →
    ledger.taken event item = 0 ∧ ledger.put event item = 0

variable {ledger : Ledger (Store Row) ε (Σ table, Row table)} {event : ε} {edit : Edit Row}

theorem Enters.balance (enters : Enters ledger event edit) {before after : Store Row}
    (applies : edit.Applies before after) (item : Σ table, Row table) :
    ledger.taken event item ≤ ledger.held before item ∧
      ledger.held after item + ledger.taken event item = ledger.held before item + ledger.put event item := by
  obtain ⟨rest, present, rfl⟩ := applies
  obtain ⟨table, row⟩ := item
  rw [enters.held]
  by_cases here : table = edit.table
  · subst here
    simp only [copies, enters.taken, enters.put, present, Function.update_self, Multiset.count_add]
    omega
  · obtain ⟨untaken, unput⟩ := enters.elsewhere ⟨table, row⟩ here
    simp [copies, untaken, unput, Function.update_of_ne here]

theorem Enters.put_le_iff (enters : Enters ledger event edit) (store : Store Row) :
    (∀ item, ledger.put event item ≤ ledger.held store item) ↔ edit.added ≤ store edit.table := by
  rw [Multiset.le_iff_count, enters.held]
  constructor
  · intro enough row
    have here := enough ⟨edit.table, row⟩
    rwa [enters.put] at here
  · intro enough item
    obtain ⟨table, row⟩ := item
    by_cases here : table = edit.table
    · subst here
      rw [enters.put]
      exact enough row
    · rw [(enters.elsewhere ⟨table, row⟩ here).2]
      exact Nat.zero_le _

/-- A statement that runs as the inverse edit, once the added rows are there, reverts the event. -/
theorem Enters.reverts (enters : Enters ledger event edit) {acts : ι → Store Row → Prop}
    {runs : ι → Store Row → Store Row → Prop} {undo : ι}
    (acts_iff : ∀ start, acts undo start ↔ edit.added ≤ start edit.table)
    (runs_iff : ∀ start next, edit.added ≤ start edit.table → (runs undo start next ↔ edit.inverse.Applies start next)) :
    ledger.Reverts acts runs event undo where
  acts_iff := fun start => (acts_iff start).trans (enters.put_le_iff start).symm
  progress := by
    intro start acting
    have present := (acts_iff start).mp acting
    obtain ⟨rest, split⟩ := Multiset.le_iff_exists_add.mp present
    exact ⟨_, (runs_iff start _ present).mpr ⟨rest, split, rfl⟩⟩
  balance := by
    intro start next acting run item
    have undone := (runs_iff start next ((acts_iff start).mp acting)).mp run
    have balanced := (enters.balance undone.invert item).2
    omega

end RowStore
