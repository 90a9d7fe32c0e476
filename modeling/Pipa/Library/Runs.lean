import Mathlib.Data.List.Induction

/-! Runs of deterministic machines. A machine is a step function; a run folds it
over a finite list of events. The rules below turn what one step preserves into
what every run preserves, with or without access to the history of the run. -/

namespace Runs

variable {σ ε : Type*} (step : σ → ε → σ)

/-- The state a machine reaches from `start` by taking every event in order. -/
def run (start : σ) (events : List ε) : σ := events.foldl step start

@[simp]
theorem run_nil (start : σ) : run step start [] = start := rfl

@[simp]
theorem run_cons (start : σ) (event : ε) (events : List ε) :
    run step start (event :: events) = run step (step start event) events := rfl

@[simp]
theorem run_append (start : σ) (first rest : List ε) :
    run step start (first ++ rest) = run step (run step start first) rest :=
  List.foldl_append

theorem run_concat (start : σ) (events : List ε) (event : ε) :
    run step start (events ++ [event]) = step (run step start events) event := by
  simp

/-- The induction rule for runs: a relation between the events taken so far and
the state holds of every run once the start and each single step keep it. -/
theorem run_history {start : σ} {holds : List ε → σ → Prop}
    (initial : holds [] start)
    (keeps : ∀ history event, holds history (run step start history) →
      holds (history ++ [event]) (step (run step start history) event))
    (events : List ε) : holds events (run step start events) := by
  induction events using List.reverseRecOn with
  | nil => exact initial
  | append_singleton history event ih =>
    rw [run_concat]
    exact keeps history event ih

/-- An invariant of single steps is an invariant of runs. -/
theorem run_preserves {start : σ} {invariant : σ → Prop} (initial : invariant start)
    (keeps : ∀ state event, invariant state → invariant (step state event))
    (events : List ε) : invariant (run step start events) :=
  @run_history σ ε step start (fun _ state => invariant state) initial
    (fun history event held => keeps (run step start history) event held) events

/-- What the steps of a run put out, in order. -/
def outputs {β : Type*} (out : σ → ε → Option β) (start : σ) : List ε → List β
  | [] => []
  | event :: events => (out start event).toList ++ outputs out (step start event) events

theorem outputs_concat {β : Type*} (out : σ → ε → Option β) (start : σ) (events : List ε) (event : ε) :
    outputs step out start (events ++ [event]) =
      outputs step out start events ++ (out (run step start events) event).toList := by
  induction events generalizing start with
  | nil => simp [outputs]
  | cons first events ih => simp [outputs, ih]

/-- Every step of the run is taken from a state that permits its event. -/
def Permitted (permits : σ → ε → Prop) (start : σ) (events : List ε) : Prop :=
  ∀ before event after, events = before ++ event :: after → permits (run step start before) event

theorem permitted_nil (permits : σ → ε → Prop) (start : σ) : Permitted step permits start [] := by
  intro before event after same
  simp at same

theorem permitted_cons {permits : σ → ε → Prop} {start : σ} {event : ε} {events : List ε} :
    Permitted step permits start (event :: events) ↔
      permits start event ∧ Permitted step permits (step start event) events := by
  constructor
  · intro permitted
    refine ⟨permitted [] event events rfl, ?_⟩
    rintro before next after rfl
    exact permitted (event :: before) next after rfl
  · rintro ⟨first, later⟩ before next after same
    cases before with
    | nil =>
      obtain ⟨rfl, rfl⟩ := List.cons.inj same
      exact first
    | cons head before =>
      obtain ⟨rfl, rfl⟩ := List.cons.inj same
      exact later before next after rfl

theorem permitted_initial {permits : σ → ε → Prop} {start : σ} {events more : List ε}
    (permitted : Permitted step permits start (events ++ more)) : Permitted step permits start events := by
  intro before event after same
  exact permitted before event (after ++ more) (by simp [same])

theorem permitted_rest {permits : σ → ε → Prop} {start : σ} {events more : List ε}
    (permitted : Permitted step permits start (events ++ more)) : Permitted step permits (run step start events) more := by
  intro before event after same
  rw [← run_append]
  exact permitted (events ++ before) event after (by simp [same])

theorem permitted_last {permits : σ → ε → Prop} {start : σ} {events : List ε} {event : ε}
    (permitted : Permitted step permits start (events ++ [event])) :
    permits (run step start events) event :=
  permitted events event [] rfl

theorem permitted_concat {permits : σ → ε → Prop} {start : σ} {events : List ε} {event : ε}
    (permitted : Permitted step permits start events) (last : permits (run step start events) event) :
    Permitted step permits start (events ++ [event]) := by
  induction events generalizing start with
  | nil => exact (permitted_cons step).mpr ⟨last, permitted_nil step permits _⟩
  | cons first events ih =>
    obtain ⟨here, later⟩ := (permitted_cons step).mp permitted
    exact (permitted_cons step).mpr ⟨here, ih later last⟩

/-- The induction rule for runs whose every step is permitted. -/
theorem permitted_history {permits : σ → ε → Prop} {start : σ} {holds : List ε → σ → Prop}
    (initial : holds [] start)
    (keeps : ∀ history event, permits (run step start history) event →
      holds history (run step start history) →
      holds (history ++ [event]) (step (run step start history) event))
    (events : List ε) (permitted : Permitted step permits start events) :
    holds events (run step start events) := by
  induction events using List.reverseRecOn with
  | nil => exact initial
  | append_singleton history event ih =>
    rw [run_concat]
    exact keeps history event (permitted_last step permitted) (ih (permitted_initial step permitted))

/-- An invariant that only permitted steps keep holds after permitted runs. -/
theorem permitted_preserves {permits : σ → ε → Prop} {start : σ} {invariant : σ → Prop}
    (initial : invariant start)
    (keeps : ∀ state event, permits state event → invariant state → invariant (step state event))
    (events : List ε) (permitted : Permitted step permits start events) :
    invariant (run step start events) :=
  @permitted_history σ ε step permits start (fun _ state => invariant state) initial
    (fun history event => keeps (run step start history) event) events permitted

/-- Where a step keeps the invariant exactly when it is permitted, the invariant holds all along
a run exactly when the run is permitted. -/
theorem permitted_iff {permits : σ → ε → Prop} {start : σ} {invariant : σ → Prop} (initial : invariant start)
    (exact_ : ∀ state event, invariant state → (invariant (step state event) ↔ permits state event)) (events : List ε) :
    (∀ before after, events = before ++ after → invariant (run step start before)) ↔ Permitted step permits start events := by
  induction events generalizing start with
  | nil =>
    refine iff_of_true (fun before after same => ?_) (permitted_nil step permits start)
    obtain ⟨rfl, -⟩ := List.append_eq_nil_iff.mp same.symm
    exact initial
  | cons event events ih =>
    rw [permitted_cons]
    constructor
    · intro held
      have next : invariant (step start event) := held [event] events rfl
      refine ⟨(exact_ start event initial).mp next, (ih next).mp fun before after same => ?_⟩
      exact held (event :: before) after (congrArg (event :: ·) same)
    · intro permitted before after same
      have next := (exact_ start event initial).mpr permitted.1
      cases before with
      | nil => exact initial
      | cons first before =>
        obtain ⟨rfl, rest⟩ := List.cons.inj same
        exact (ih next).mpr permitted.2 before after rest

end Runs
