/-! Computations that change a state and may fail, keeping what they changed. A
postcondition is about the outcome and the state together; the rules follow the way
that a computation is put together. -/

namespace Outcomes

variable {ε σ α β : Type}

/-- What the computation comes to from this state meets the postcondition. -/
def Ends (computation : ExceptT ε (StateM σ) α) (start : σ) (post : Except ε α → σ → Prop) : Prop :=
  post (computation.run start).1 (computation.run start).2

variable {start : σ} {post : Except ε α → σ → Prop}

theorem ends_pure {value : α} (held : post (.ok value) start) : Ends (pure value) start post := held

theorem ends_throw {error : ε} (held : post (.error error) start) : Ends (throw error) start post := held

theorem ends_modify {edit : σ → σ} {post : Except ε Unit → σ → Prop} (held : post (.ok ()) (edit start)) :
    Ends (modify edit) start post := held

theorem ends_get {post : Except ε σ → σ → Prop} (held : post (.ok start) start) : Ends get start post := held

theorem run_get_bind (next : σ → ExceptT ε (StateM σ) β) (start : σ) : (get >>= next).run start = (next start).run start := rfl

/-- A sequence fails with its first part, or goes on with its second. -/
theorem run_bind (first : ExceptT ε (StateM σ) α) (next : α → ExceptT ε (StateM σ) β) (start : σ) :
    (first >>= next).run start =
      match first.run start with
      | (.ok value, state) => (next value).run state
      | (.error error, state) => (.error error, state) := by
  change (ExceptT.bindCont next (first.run start).1).run (first.run start).2 = _
  obtain ⟨outcome, state⟩ := first.run start
  cases outcome <;> rfl

theorem ends_bind {first : ExceptT ε (StateM σ) α} {next : α → ExceptT ε (StateM σ) β} {after : Except ε β → σ → Prop}
    (ends : Ends first start post) (failed : ∀ error state, post (.error error) state → after (.error error) state)
    (passed : ∀ value state, post (.ok value) state → Ends (next value) state after) : Ends (first >>= next) start after := by
  rw [Ends] at ends
  rw [Ends, run_bind]
  generalize first.run start = result at ends
  obtain ⟨outcome, state⟩ := result
  cases outcome with
  | error error => exact failed error state ends
  | ok value => exact passed value state ends

/-- Sequences agree from a state where their second parts agree behind the first. -/
theorem run_bind_congr {first : ExceptT ε (StateM σ) α} {next other : α → ExceptT ε (StateM σ) β}
    (same : Ends first start fun outcome state => ∀ value, outcome = .ok value → (next value).run state = (other value).run state) :
    (first >>= next).run start = (first >>= other).run start := by
  rw [Ends] at same
  rw [run_bind, run_bind]
  generalize first.run start = result at same
  obtain ⟨outcome, state⟩ := result
  cases outcome with
  | error error => rfl
  | ok value => exact same value rfl

/-- A first part that passes from this state is passed over. -/
theorem ends_then {first : ExceptT ε (StateM σ) α} {next : α → ExceptT ε (StateM σ) β} {after : Except ε β → σ → Prop}
    {value : α} {state : σ} (passes : first.run start = (.ok value, state)) (rest : Ends (next value) state after) :
    Ends (first >>= next) start after := by
  have ends : Ends first start fun outcome reached => outcome = .ok value ∧ reached = state := by
    rw [Ends, passes]
    exact ⟨rfl, rfl⟩
  apply ends_bind ends
  · intro error reached ⟨failed, _⟩
    cases failed
  · intro passed reached ⟨same, here⟩
    obtain rfl := Except.ok.inj same
    rw [here]
    exact rest

/-- A first part that fails from this state ends the sequence. -/
theorem ends_stop {first : ExceptT ε (StateM σ) α} {next : α → ExceptT ε (StateM σ) β} {after : Except ε β → σ → Prop}
    {error : ε} {state : σ} (fails : first.run start = (.error error, state)) (held : after (.error error) state) :
    Ends (first >>= next) start after := by
  have ends : Ends first start fun outcome reached => outcome = .error error ∧ reached = state := by
    rw [Ends, fails]
    exact ⟨rfl, rfl⟩
  apply ends_bind ends
  · intro failed reached ⟨same, here⟩
    obtain rfl := Except.error.inj same
    rw [here]
    exact held
  · intro passed reached ⟨same, _⟩
    cases same

theorem ends_weaken {computation : ExceptT ε (StateM σ) α} {weaker : Except ε α → σ → Prop}
    (ends : Ends computation start post) (implied : ∀ outcome state, post outcome state → weaker outcome state) :
    Ends computation start weaker :=
  implied _ _ ends

private theorem run_finally (computation : ExceptT ε (StateM σ) α) (finalizer : ExceptT ε (StateM σ) Unit) (start : σ) :
    (tryFinally computation finalizer).run start =
      match (computation.run start).1, finalizer.run (computation.run start).2 with
      | outcome, (.ok _, state) => (outcome, state)
      | _, (.error error, state) => (.error error, state) := by
  change ExceptT.map Prod.fst (tryFinally' computation fun _ => finalizer) start = _
  simp only [tryFinally', ExceptT.run, ExceptT.map, ExceptT.mk, bind, StateT.bind, pure]
  generalize computation start = result
  obtain ⟨outcome, state⟩ := result
  cases outcome with
  | error error =>
    dsimp only
    generalize finalizer state = finished
    obtain ⟨ended, after⟩ := finished
    cases ended <;> rfl
  | ok value =>
    dsimp only
    generalize finalizer state = finished
    obtain ⟨ended, after⟩ := finished
    cases ended <;> rfl

/-- What must be done at the end is done whatever the outcome. -/
theorem ends_finally {computation : ExceptT ε (StateM σ) α} {finalizer : ExceptT ε (StateM σ) Unit} {cleaned : σ → σ}
    (quiet : ∀ state, finalizer.run state = (.ok (), cleaned state))
    (ends : Ends computation start fun outcome state => post outcome (cleaned state)) :
    Ends (tryFinally computation finalizer) start post := by
  rw [Ends, run_finally, quiet]
  exact ends

theorem run_finally_congr {computation other : ExceptT ε (StateM σ) α} {finalizer : ExceptT ε (StateM σ) Unit}
    (same : computation.run start = other.run start) :
    (tryFinally computation finalizer).run start = (tryFinally other finalizer).run start := by
  rw [run_finally, run_finally, same]

theorem ends_forM {items : List β} {step : β → ExceptT ε (StateM σ) PUnit} {invariant : σ → Prop}
    (initial : invariant start)
    (keeps : ∀ item ∈ items, ∀ state, invariant state → Ends (step item) state fun outcome after => outcome = .ok ⟨⟩ ∧ invariant after) :
    Ends (items.forM step) start fun outcome after => outcome = .ok ⟨⟩ ∧ invariant after := by
  induction items generalizing start with
  | nil => exact ⟨rfl, initial⟩
  | cons item items ih =>
    change Ends (step item >>= fun _ => items.forM step) start _
    apply ends_bind (keeps item List.mem_cons_self start initial)
    · intro error state ⟨ok, _⟩
      cases ok
    · intro _ state ⟨_, held⟩
      exact ih held fun other member => keeps other (List.mem_cons_of_mem _ member)

end Outcomes
