import Mathlib.Data.List.Forall2

/-! Programs of statements over a store. A statement that fails ends its program and
leaves the store as the statements before it made it; a transaction takes those back. -/

universe u v w

def Statements (σ : Type u) (ε α : Type v) := σ → Except ε α × σ

namespace Statements

variable {σ : Type u} {ε ε' α β : Type v} {ν : Type w}

protected def pure (value : α) : Statements σ ε α := fun store => (.ok value, store)

protected def bind (program : Statements σ ε α) (next : α → Statements σ ε β) : Statements σ ε β := fun store =>
  match program store with
  | (.ok value, after) => next value after
  | (.error error, after) => (.error error, after)

instance : Monad (Statements σ ε) where
  pure := Statements.pure
  bind := Statements.bind

def fail (error : ε) : Statements σ ε α := fun store => (.error error, store)

/-- A statement that reads. It may fail for reasons of its own. -/
def query (fault : Option ε) (read : σ → α) : Statements σ ε α := fun store =>
  match fault with
  | some error => (.error error, store)
  | none => (.ok (read store), store)

/-- A statement that writes. It may also fail because the store refuses it. -/
def execute (fault : Option ε) (write : σ → Except ε (α × σ)) : Statements σ ε α := fun store =>
  match fault with
  | some error => (.error error, store)
  | none =>
    match write store with
    | .error error => (.error error, store)
    | .ok (value, after) => (.ok value, after)

/-- Rolls back what a failed body wrote. -/
def transaction (body : Statements σ ε α) : Statements σ ε α := fun store =>
  match body store with
  | (.ok value, after) => (.ok value, after)
  | (.error error, _) => (.error error, store)

def mapError (report : ε → ε') (program : Statements σ ε α) : Statements σ ε' α := fun store =>
  match program store with
  | (.ok value, after) => (.ok value, after)
  | (.error error, after) => (.error (report error), after)

/-- The store after the program, however it ended. -/
def stored (program : Statements σ ε α) (store : σ) : σ := (program store).2

section Ends
variable {store after : σ} {value : α}

theorem pure_ok {result : α} : (pure result : Statements σ ε α) store = (.ok value, after) ↔ result = value ∧ store = after := by
  show (Except.ok result, store) = (Except.ok value, after) ↔ _
  rw [Prod.mk.injEq, Except.ok.injEq]

theorem fail_ok {error : ε} : (fail error : Statements σ ε α) store ≠ (.ok value, after) := by
  rintro ⟨⟩

/-- A sequence ends well when both of its parts do. -/
theorem bind_ok {program : Statements σ ε α} {next : α → Statements σ ε β} {result : β} :
    (program >>= next) store = (.ok result, after) ↔
      ∃ value between, program store = (.ok value, between) ∧ next value between = (.ok result, after) := by
  show (Statements.bind program next) store = _ ↔ _
  rw [Statements.bind]
  constructor
  · intro ended
    split at ended
    case h_1 value between ran => exact ⟨value, between, ran, ended⟩
    case h_2 => cases ended
  · rintro ⟨value, between, ran, ended⟩
    rw [ran]
    exact ended

theorem bind_of_ok {program : Statements σ ε α} {next : α → Statements σ ε β} {value : α} {between : σ}
    (ran : program store = (.ok value, between)) : (program >>= next) store = next value between := by
  show Statements.bind program next store = _
  rw [Statements.bind, ran]

theorem query_ok {fault : Option ε} {read : σ → α} :
    query fault read store = (.ok value, after) ↔ fault = none ∧ read store = value ∧ store = after := by
  cases fault with
  | none => simp [query]
  | some error => simp [query]

theorem execute_ok {fault : Option ε} {write : σ → Except ε (α × σ)} :
    execute fault write store = (.ok value, after) ↔ fault = none ∧ write store = .ok (value, after) := by
  cases fault with
  | none =>
    rw [execute]
    cases write store <;> simp [Prod.ext_iff]
  | some error => simp [execute]

theorem transaction_ok {body : Statements σ ε α} :
    transaction body store = (.ok value, after) ↔ body store = (.ok value, after) := by
  rw [transaction]
  split <;> simp_all

theorem mapError_ok {report : ε → ε'} {program : Statements σ ε α} :
    mapError report program store = (.ok value, after) ↔ program store = (.ok value, after) := by
  rw [mapError]
  split <;> simp_all

end Ends

/-- A part of the store that a program leaves alone, however it ends. -/
def Preserves (view : σ → ν) (program : Statements σ ε α) : Prop := ∀ store, view (program.stored store) = view store

section Preserves
variable {view : σ → ν}

theorem preserves_pure (value : α) : Preserves view (pure value : Statements σ ε α) := fun _ => rfl

theorem preserves_fail (error : ε) : Preserves view (fail error : Statements σ ε α) := fun _ => rfl

theorem preserves_query (fault : Option ε) (read : σ → α) : Preserves view (query fault read) := by
  intro store
  cases fault <;> rfl

theorem preserves_execute {fault : Option ε} {write : σ → Except ε (α × σ)}
    (same : ∀ store value after, write store = .ok (value, after) → view after = view store) :
    Preserves view (execute fault write) := by
  intro store
  cases fault with
  | some error => rfl
  | none =>
    rw [stored, execute]
    split
    · rfl
    case h_2 value after written => exact same store value after written

theorem Preserves.bind {program : Statements σ ε α} {next : α → Statements σ ε β} (first : program.Preserves view)
    (second : ∀ value, Preserves view (next value)) : Preserves view (program >>= next) := by
  intro store
  have same := first store
  rw [stored] at same ⊢
  change view (Statements.bind program next store).2 = _
  rw [Statements.bind]
  split
  case h_1 value between ran =>
    rw [ran] at same
    exact (second value between).trans same
  case h_2 error between ran =>
    rw [ran] at same
    exact same

theorem Preserves.transaction {body : Statements σ ε α} (preserved : body.Preserves view) : Preserves view (transaction body) := by
  intro store
  have same := preserved store
  rw [stored] at same ⊢
  rw [Statements.transaction]
  split
  case h_1 value after ran =>
    rw [ran] at same
    exact same
  · rfl

theorem Preserves.mapError {program : Statements σ ε α} (preserved : program.Preserves view) (report : ε → ε') :
    Preserves view (program.mapError report) := by
  intro store
  have same := preserved store
  rw [stored] at same ⊢
  rw [Statements.mapError]
  split
  case h_1 value after ran =>
    rw [ran] at same
    exact same
  case h_2 error after ran =>
    rw [ran] at same
    exact same

end Preserves

theorem mapError_execute {fault : Option ε} {report : ε → ε'} {change : σ → σ} {value : α} :
    mapError report (execute fault fun store => .ok (value, change store)) =
      execute (fault.map report) fun store => .ok (value, change store) := by
  funext store
  cases fault <;> rfl

section Writes
variable {fault : Type} {faults : Nat → Option fault} {changes : List (σ → σ)} {store after : σ}

/-- Changes one after another, each in a statement of its own. -/
def writes : (Nat → Option fault) → List (σ → σ) → Statements σ fault Unit
  | _, [] => pure ()
  | faults, change :: changes => do
    execute (faults 0) fun store => .ok ((), change store)
    writes (fun place => faults (place + 1)) changes

/-- The first statement that fails. -/
def FailsAt (faults : Nat → Option fault) (place : Nat) : Prop :=
  (∀ earlier < place, faults earlier = none) ∧ faults place ≠ none

def applied (changes : List (σ → σ)) (store : σ) : σ := changes.foldl (fun store change => change store) store

theorem applied_concat {change : σ → σ} : applied (changes ++ [change]) store = change (applied changes store) :=
  List.foldl_append

/-- A view follows the changes of the store when it follows each of them. -/
theorem applied_view {view : σ → ν} {steps : List (ν → ν)}
    (each : List.Forall₂ (fun change step => ∀ store, view (change store) = step (view store)) changes steps) :
    view (applied changes store) = applied steps (view store) := by
  induction each generalizing store with
  | nil => rfl
  | cons here _ ih =>
    rw [applied, List.foldl_cons, ← applied, ih, here]
    rfl

theorem failsAt_succ {place : Nat} :
    FailsAt faults (place + 1) ↔ faults 0 = none ∧ FailsAt (fun place => faults (place + 1)) place := by
  constructor
  · intro fails
    exact ⟨fails.1 0 (Nat.succ_pos place), fun earlier before => fails.1 (earlier + 1) (Nat.succ_lt_succ before), fails.2⟩
  · rintro ⟨first, fails⟩
    refine ⟨fun earlier before => ?_, fails.2⟩
    cases earlier with
    | zero => exact first
    | succ earlier => exact fails.1 earlier (Nat.lt_of_succ_lt_succ before)

theorem writes_ok :
    writes faults changes store = (.ok (), after) ↔
      (∀ place < changes.length, faults place = none) ∧ applied changes store = after := by
  induction changes generalizing faults store with
  | nil =>
    rw [writes, pure_ok]
    simp [applied]
  | cons change changes ih =>
    rw [writes, bind_ok]
    constructor
    · rintro ⟨value, between, first, later⟩
      obtain ⟨none, changed⟩ := execute_ok.mp first
      obtain ⟨rfl, rfl⟩ := Prod.mk.inj (Except.ok.inj changed)
      obtain ⟨clear, rfl⟩ := ih.mp later
      refine ⟨fun place below => ?_, rfl⟩
      cases place with
      | zero => exact none
      | succ place => exact clear place (Nat.lt_of_succ_lt_succ below)
    · rintro ⟨clear, same⟩
      refine ⟨(), change store, execute_ok.mpr ⟨clear 0 (Nat.succ_pos _), rfl⟩, ih.mpr ⟨fun place below => ?_, same⟩⟩
      exact clear (place + 1) (Nat.succ_lt_succ below)

/-- An error leaves what the statements before the failing one wrote. -/
theorem writes_error {error : fault} :
    writes faults changes store = (.error error, after) ↔
      ∃ place < changes.length, FailsAt faults place ∧ faults place = some error ∧ applied (changes.take place) store = after := by
  induction changes generalizing faults store with
  | nil =>
    constructor
    · intro ended
      cases ended
    · rintro ⟨place, below, -⟩
      exact absurd below (Nat.not_lt_zero place)
  | cons change changes ih =>
    cases first : faults 0 with
    | some cause =>
      have stops : writes faults (change :: changes) store = (.error cause, store) := by
        show Statements.bind _ _ store = _
        rw [Statements.bind, first]
        rfl
      rw [stops]
      constructor
      · intro ended
        obtain ⟨same, rfl⟩ := Prod.mk.inj ended
        obtain rfl := Except.error.inj same
        refine ⟨0, Nat.succ_pos _, ⟨fun earlier before => absurd before (Nat.not_lt_zero earlier), ?_⟩, first, rfl⟩
        rw [first]
        exact Option.some_ne_none cause
      · rintro ⟨place, -, fails, same, rfl⟩
        cases place with
        | zero =>
          obtain rfl := Option.some.inj (first.symm.trans same)
          rfl
        | succ place =>
          have clear := fails.1 0 (Nat.succ_pos place)
          rw [first] at clear
          cases clear
    | none =>
      have goes : writes faults (change :: changes) store = writes (fun place => faults (place + 1)) changes (change store) := by
        show Statements.bind _ _ store = _
        rw [Statements.bind, first]
        rfl
      rw [goes, ih]
      constructor
      · rintro ⟨place, below, fails, same, rfl⟩
        exact ⟨place + 1, Nat.succ_lt_succ below, failsAt_succ.mpr ⟨first, fails⟩, same, rfl⟩
      · rintro ⟨place, below, fails, same, rfl⟩
        cases place with
        | zero => exact absurd first fails.2
        | succ place => exact ⟨place, Nat.lt_of_succ_lt_succ below, (failsAt_succ.mp fails).2, same, rfl⟩

/-- Writes keep a view of the store at every error if and only if no write before the first
failing one changes it. -/
theorem writes_atomic {view : σ → ν} :
    (∀ error after, writes faults changes store = (.error error, after) → view after = view store) ↔
      ∀ place < changes.length, FailsAt faults place → view (applied (changes.take place) store) = view store := by
  constructor
  · intro kept place below fails
    obtain ⟨error, present⟩ := Option.ne_none_iff_exists'.mp fails.2
    exact kept error _ (writes_error.mpr ⟨place, below, fails, present, rfl⟩)
  · intro kept error after ended
    obtain ⟨place, below, fails, -, rfl⟩ := writes_error.mp ended
    exact kept place below fails

end Writes

/-- A program that reads only. -/
def ReadOnly (program : Statements σ ε α) : Prop := program.Preserves id

/-- A program that leaves the store as it was unless it ends well. -/
def Clean (program : Statements σ ε α) : Prop :=
  ∀ store error after, program store = (.error error, after) → after = store

theorem ReadOnly.clean {program : Statements σ ε α} (reads : program.ReadOnly) : program.Clean := by
  intro store error after ended
  have same : (program store).2 = store := reads store
  rw [ended] at same
  exact same

theorem clean_execute (fault : Option ε) (write : σ → Except ε (α × σ)) : Clean (execute fault write) := by
  intro store error after ended
  cases fault with
  | some cause => exact (Prod.mk.inj ended).2.symm
  | none =>
    rw [execute] at ended
    split at ended
    · exact (Prod.mk.inj ended).2.symm
    · cases ended

theorem clean_transaction (body : Statements σ ε α) : Clean (transaction body) := by
  intro store error after ended
  rw [transaction] at ended
  split at ended
  · cases ended
  · exact (Prod.mk.inj ended).2.symm

theorem Clean.mapError {program : Statements σ ε α} (clean : program.Clean) (report : ε → ε') :
    Clean (program.mapError report) := by
  intro store error after ended
  rw [Statements.mapError] at ended
  split at ended
  case h_1 => cases ended
  case h_2 cause between ran =>
    rw [← (Prod.mk.inj ended).2]
    exact clean store cause between ran

/-- What comes after a reading program decides whether the whole is clean. -/
theorem ReadOnly.bind_clean {program : Statements σ ε α} {next : α → Statements σ ε β} (reads : program.ReadOnly)
    (clean : ∀ value, Clean (next value)) : Clean (program >>= next) := by
  intro store error after ended
  change Statements.bind program next store = _ at ended
  rw [Statements.bind] at ended
  have same : (program store).2 = store := reads store
  split at ended
  case h_1 value between ran =>
    rw [ran] at same
    rw [clean value between error after ended]
    exact same
  case h_2 between ran =>
    rw [ran] at same
    rw [← (Prod.mk.inj ended).2]
    exact same

/-- A clean program can only be followed by one that cannot fail. -/
theorem Clean.bind_pure {program : Statements σ ε α} (clean : program.Clean) (result : α → β) :
    Clean (program >>= fun value => pure (result value)) := by
  intro store error after ended
  change Statements.bind program _ store = _ at ended
  rw [Statements.bind] at ended
  split at ended
  case h_1 => cases ended
  case h_2 cause between ran =>
    rw [← (Prod.mk.inj ended).2]
    exact clean store cause between ran

/-- What a clean program leaves: the store as it was, or that of its good end. -/
theorem Clean.stored {program : Statements σ ε α} (clean : program.Clean) (store : σ) :
    program.stored store = store ∨ ∃ value, program store = (.ok value, program.stored store) := by
  cases ended : program store with
  | mk result after =>
    cases result with
    | error error =>
      refine .inl ?_
      rw [Statements.stored, ended]
      exact clean store error after ended
    | ok value =>
      refine .inr ⟨value, ?_⟩
      rw [Statements.stored, ended]

end Statements
