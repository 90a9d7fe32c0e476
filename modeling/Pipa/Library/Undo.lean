import Mathlib.Algebra.Order.BigOperators.Group.List
import Mathlib.Algebra.Ring.Nat
import Mathlib.Data.List.Forall2

/-! Executions of nondeterministic steps, and undoing them in reverse order. -/

namespace Undo

variable {σ ε ι : Type*}

/-- The states joined by taking every event of a list in order. -/
def Steps (takes : ε → σ → σ → Prop) : List ε → σ → σ → Prop
  | [], start, final => final = start
  | event :: events, start, final => ∃ next, takes event start next ∧ Steps takes events next final

theorem steps_append (takes : ε → σ → σ → Prop) (first rest : List ε) (start final : σ) :
    Steps takes (first ++ rest) start final ↔
      ∃ middle, Steps takes first start middle ∧ Steps takes rest middle final := by
  induction first generalizing start with
  | nil => simp [Steps]
  | cons event events ih =>
    simp only [List.cons_append, Steps, ih]
    constructor
    · rintro ⟨next, taken, middle, early, late⟩
      exact ⟨middle, ⟨next, taken, early⟩, late⟩
    · rintro ⟨middle, ⟨next, taken, early⟩, late⟩
      exact ⟨next, taken, middle, early, late⟩

theorem steps_single (takes : ε → σ → σ → Prop) (event : ε) (start final : σ) :
    Steps takes [event] start final ↔ takes event start final := by
  simp [Steps]

end Undo

/-! Undoing only some events of a run. A ledger counts the items of a state; the undo
of a kept event acts exactly if what the event put in outlasts the later events that
are not kept. -/

namespace Undo

variable {σ ε ι α : Type*}

/-- Every undo of a list acts on the state it meets, whatever the earlier ones led to. -/
def EachActs (acts : ι → σ → Prop) (runs : ι → σ → σ → Prop) : List ι → σ → Prop
  | [], _ => True
  | undo :: undos, start => acts undo start ∧ ∀ next, runs undo start next → EachActs acts runs undos next

theorem eachActs_append (acts : ι → σ → Prop) (runs : ι → σ → σ → Prop) (first rest : List ι) (start : σ) :
    EachActs acts runs (first ++ rest) start ↔
      EachActs acts runs first start ∧ ∀ middle, Steps runs first start middle → EachActs acts runs rest middle := by
  induction first generalizing start with
  | nil => simp [EachActs, Steps]
  | cons undo undos ih =>
    simp only [List.cons_append, EachActs, Steps, ih]
    constructor
    · intro each
      refine ⟨⟨each.1, fun next run => (each.2 next run).1⟩, ?_⟩
      intro middle steps
      obtain ⟨next, run, later⟩ := steps
      exact (each.2 next run).2 middle later
    · intro each
      exact ⟨each.1.1, fun next run => ⟨each.1.2 next run, fun middle later => each.2 middle ⟨next, run, later⟩⟩⟩

theorem eachActs_single (acts : ι → σ → Prop) (runs : ι → σ → σ → Prop) (undo : ι) (start : σ) :
    EachActs acts runs [undo] start ↔ acts undo start := by
  simp [EachActs]

/-- The items a state holds, and those an event takes from it and puts into it. -/
structure Ledger (σ ε α : Type*) where
  held : σ → α → ℕ
  taken : ε → α → ℕ
  put : ε → α → ℕ

namespace Ledger
variable (ledger : Ledger σ ε α)

/-- The event finds what it takes, and the books balance. -/
def Books (takes : ε → σ → σ → Prop) (event : ε) : Prop :=
  ∀ start final, takes event start final → ∀ item, ledger.taken event item ≤ ledger.held start item ∧
    ledger.held final item + ledger.taken event item = ledger.held start item + ledger.put event item

/-- The undo acts exactly where it finds what the event put in, and gives back what it took. -/
structure Reverts (acts : ι → σ → Prop) (runs : ι → σ → σ → Prop) (event : ε) (undo : ι) : Prop where
  acts_iff : ∀ start, acts undo start ↔ ∀ item, ledger.put event item ≤ ledger.held start item
  progress : ∀ start, acts undo start → ∃ next, runs undo start next
  balance : ∀ start next, acts undo start → runs undo start next → ∀ item,
    ledger.held next item + ledger.put event item = ledger.held start item + ledger.taken event item

/-- What is held after an event, from what was held before it. -/
def after (event : ε) (held : α → ℕ) : α → ℕ := fun item => held item - ledger.taken event item + ledger.put event item

variable (kept : ε → Bool)

/-- The sum of an amount over the events that are not kept. -/
def dropped (amount : ε → α → ℕ) (events : List ε) (item : α) : ℕ :=
  ((events.filter fun event => !kept event).map (amount · item)).sum

/-- Whatever a kept event put in outlasts the later events that are not kept: they
leave as much of it, of what is held after the event and what they put in themselves. -/
def Outlasts : List ε → (α → ℕ) → Prop
  | [], _ => True
  | event :: events, held =>
    (kept event = true → ∀ item, 0 < ledger.put event item →
      ledger.put event item + dropped kept ledger.taken events item ≤
        ledger.after event held item + dropped kept ledger.put events item) ∧
      Outlasts events (ledger.after event held)

variable {ledger kept}

theorem Books.held_after {takes : ε → σ → σ → Prop} {event : ε} (books : ledger.Books takes event) {start final : σ}
    (taken : takes event start final) : ledger.held final = ledger.after event (ledger.held start) := by
  funext item
  obtain ⟨enough, balanced⟩ := books start final taken item
  simp only [after]
  omega

@[simp]
theorem dropped_nil (amount : ε → α → ℕ) (item : α) : dropped kept amount [] item = 0 := rfl

theorem dropped_kept (amount : ε → α → ℕ) {event : ε} (keep : kept event = true) (events : List ε) (item : α) :
    dropped kept amount (event :: events) item = dropped kept amount events item := by
  simp [dropped, keep]

theorem dropped_not_kept (amount : ε → α → ℕ) {event : ε} (drop : kept event = false) (events : List ε) (item : α) :
    dropped kept amount (event :: events) item = amount event item + dropped kept amount events item := by
  simp [dropped, drop]

/-- Where the events that are not kept take nothing that a kept one put in, it outlasts them. -/
theorem outlasts_of_apart {events : List ε} (apart : ∀ event ∈ events, ∀ other ∈ events, kept event = true →
    kept other = false → ∀ item, 0 < ledger.put event item → ledger.taken other item = 0) (held : α → ℕ) :
    ledger.Outlasts kept events held := by
  induction events generalizing held with
  | nil => trivial
  | cons event events ih =>
    refine ⟨?_, ih (fun event member other member' => apart event (List.mem_cons_of_mem _ member) other
      (List.mem_cons_of_mem _ member')) _⟩
    intro keep item puts
    have untaken : dropped kept ledger.taken events item = 0 := by
      refine List.sum_eq_zero fun amount member => ?_
      obtain ⟨other, inside, rfl⟩ := List.mem_map.mp member
      obtain ⟨listed, drop⟩ := List.mem_filter.mp inside
      exact apart event List.mem_cons_self other (List.mem_cons_of_mem _ listed) keep (by simpa using drop) item puts
    simp only [after, untaken]
    omega

variable {takes : ε → σ → σ → Prop} {acts : ι → σ → Prop} {runs : ι → σ → σ → Prop}

/-- After the undos, the books differ by the events that were not kept. -/
theorem held_undone {events : List ε} {undos : List ι}
    (paired : List.Forall₂ (ledger.Reverts acts runs) (events.filter kept) undos)
    (books : ∀ event ∈ events, ledger.Books takes event) {start final back : σ}
    (taken : Steps takes events start final) (each : EachActs acts runs undos.reverse final)
    (undone : Steps runs undos.reverse final back) (item : α) :
    ledger.held back item + dropped kept ledger.taken events item =
      ledger.held start item + dropped kept ledger.put events item := by
  induction events generalizing start undos back with
  | nil =>
    obtain rfl := taken
    cases paired
    obtain rfl := undone
    simp
  | cons event events ih =>
    obtain ⟨next, first, later⟩ := taken
    obtain ⟨enough, balanced⟩ := books event List.mem_cons_self start next first item
    have rest : ∀ event ∈ events, ledger.Books takes event := fun other member => books other (List.mem_cons_of_mem _ member)
    cases keep : kept event with
    | false =>
      rw [List.filter_cons_of_neg (by simp [keep])] at paired
      have known := ih paired rest later each undone
      rw [dropped_not_kept _ keep, dropped_not_kept _ keep]
      omega
    | true =>
      rw [List.filter_cons_of_pos keep] at paired
      cases paired with
      | cons reverts paired =>
        rw [List.reverse_cons] at each undone
        obtain ⟨middle, early, last⟩ := (steps_append ..).mp undone
        obtain ⟨eachEarly, eachLast⟩ := (eachActs_append ..).mp each
        have acting := (eachActs_single ..).mp (eachLast middle early)
        have known := ih paired rest later eachEarly early
        have reverted := reverts.balance middle back acting ((steps_single ..).mp last) item
        rw [dropped_kept _ keep, dropped_kept _ keep]
        omega

/-- Undos that act where they run can be run to their end. -/
theorem exists_undone {undos : List ι} (progress : ∀ undo ∈ undos, ∀ start, acts undo start → ∃ next, runs undo start next)
    {start : σ} (each : EachActs acts runs undos start) : ∃ final, Steps runs undos start final := by
  induction undos generalizing start with
  | nil => exact ⟨start, rfl⟩
  | cons undo undos ih =>
    obtain ⟨next, run⟩ := progress undo List.mem_cons_self start each.1
    obtain ⟨final, later⟩ := ih (fun other member => progress other (List.mem_cons_of_mem _ member)) (each.2 next run)
    exact ⟨final, next, run, later⟩

theorem progress_of_paired {events : List ε} {undos : List ι}
    (paired : List.Forall₂ (ledger.Reverts acts runs) events undos) :
    ∀ undo ∈ undos, ∀ start, acts undo start → ∃ next, runs undo start next := by
  induction paired with
  | nil => simp
  | cons reverts _ ih => exact List.forall_mem_cons.mpr ⟨reverts.progress, ih⟩

/-- The undos of the kept events, last one first, all act exactly if what each kept
event put in outlasts the later events that are not kept. -/
theorem eachActs_iff {events : List ε} {undos : List ι}
    (paired : List.Forall₂ (ledger.Reverts acts runs) (events.filter kept) undos)
    (books : ∀ event ∈ events, ledger.Books takes event) {start final : σ} (taken : Steps takes events start final) :
    EachActs acts runs undos.reverse final ↔ ledger.Outlasts kept events (ledger.held start) := by
  induction events generalizing start undos with
  | nil =>
    cases paired
    simp [EachActs, Outlasts]
  | cons event events ih =>
    obtain ⟨next, first, later⟩ := taken
    have rest : ∀ event ∈ events, ledger.Books takes event := fun other member => books other (List.mem_cons_of_mem _ member)
    have heldNext := (books event List.mem_cons_self).held_after first
    simp only [Outlasts, ← heldNext]
    cases keep : kept event with
    | false =>
      rw [List.filter_cons_of_neg (by simp [keep])] at paired
      simpa using ih paired rest later
    | true =>
      rw [List.filter_cons_of_pos keep] at paired
      cases paired with
      | @cons _ undo _ undos reverts paired =>
        rw [List.reverse_cons, eachActs_append, ih paired rest later, and_comm]
        refine and_congr_left fun outlasts => ?_
        have each := (ih paired rest later).mpr outlasts
        have here (middle : σ) (early : Steps runs undos.reverse final middle) :
            EachActs acts runs [undo] middle ↔ ∀ item, 0 < ledger.put event item →
              ledger.put event item + dropped kept ledger.taken events item ≤
                ledger.held next item + dropped kept ledger.put events item := by
          rw [eachActs_single, reverts.acts_iff]
          refine forall_congr' fun item => ?_
          have known := held_undone paired rest later each early item
          omega
        constructor
        · intro last _
          have progress := progress_of_paired paired
          obtain ⟨middle, early⟩ := exists_undone (fun undo member => progress undo (List.mem_reverse.mp member)) each
          exact (here middle early).mp (last middle early)
        · intro survives middle early
          exact (here middle early).mpr (survives rfl)

end Ledger
end Undo
