import Mathlib.Data.Nat.Notation

/-! Computations that panic where a program does: reads and slices out of bounds, sums
beyond a limit, differences below zero. A loop is run for a number of rounds, and one that
goes on is an error too. -/

inductive Panic where
  | bounds | boundary | overflow | endless
deriving DecidableEq, Repr

abbrev Checked := Except Panic

namespace Checked

variable {α β σ : Type}

def read (items : List α) (index : ℕ) : Checked α :=
  match items[index]? with
  | some item => .ok item
  | none => .error .bounds

/-- The items from an index on. -/
def suffix (items : List α) (index : ℕ) : Checked (List α) :=
  if index ≤ items.length then .ok (items.drop index) else .error .bounds

/-- The items in front of an index. -/
def front (items : List α) (index : ℕ) : Checked (List α) :=
  if index ≤ items.length then .ok (items.take index) else .error .bounds

def add (limit first second : ℕ) : Checked ℕ := if first + second ≤ limit then .ok (first + second) else .error .overflow

def sub (first second : ℕ) : Checked ℕ := if second ≤ first then .ok (first - second) else .error .overflow

/-- Rounds that go on with a new state or end the loop with a result. -/
def loop (round : σ → Checked (σ ⊕ β)) : ℕ → σ → Checked β
  | 0, _ => .error .endless
  | fuel + 1, state =>
    match round state with
    | .ok (.inl next) => loop round fuel next
    | .ok (.inr result) => .ok result
    | .error panic => .error panic

@[simp]
theorem ok_bind (value : α) (next : α → Checked β) : ((.ok value : Checked α) >>= next) = next value := rfl

@[simp]
theorem pure_eq (value : α) : (pure value : Checked α) = .ok value := rfl

theorem read_ok {items : List α} {index : ℕ} {item : α} (present : items[index]? = some item) : read items index = .ok item := by
  rw [read, present]

theorem suffix_ok {items : List α} {index : ℕ} (within : index ≤ items.length) : suffix items index = .ok (items.drop index) :=
  if_pos within

theorem front_ok {items : List α} {index : ℕ} (within : index ≤ items.length) : front items index = .ok (items.take index) :=
  if_pos within

theorem add_ok {limit first second : ℕ} (within : first + second ≤ limit) : add limit first second = .ok (first + second) :=
  if_pos within

theorem sub_ok {first second : ℕ} (covered : second ≤ first) : sub first second = .ok (first - second) :=
  if_pos covered

/-- What a round of a loop makes of a state in its invariant. -/
inductive Round (invariant : σ → Prop) (measure : σ → ℕ) (result : β → Prop) (state : σ) : Checked (σ ⊕ β) → Prop
  | next {next : σ} (keeps : invariant next) (less : measure next < measure state) :
    Round invariant measure result state (.ok (.inl next))
  | done {final : β} (reached : result final) : Round invariant measure result state (.ok (.inr final))

/-- A loop whose rounds keep an invariant and come closer to the end ends with its result,
and never panics. -/
theorem loop_ok {round : σ → Checked (σ ⊕ β)} {invariant : σ → Prop} {measure : σ → ℕ} {result : β → Prop}
    (rounds : ∀ state, invariant state → Round invariant measure result state (round state)) {fuel : ℕ} {state : σ}
    (holds : invariant state) (enough : measure state < fuel) : ∃ final, loop round fuel state = .ok final ∧ result final := by
  induction fuel generalizing state with
  | zero => omega
  | succ fuel ih =>
    have here := rounds state holds
    rw [loop]
    generalize round state = made at here
    cases here with
    | next keeps less => exact ih keeps (by omega)
    | done reached => exact ⟨_, rfl, reached⟩

end Checked
