import Mathlib.Data.List.Forall2

/-! Inverting computations that may fail. -/

namespace Fallible

variable {ε α β : Type}

theorem bind_ok (value : Except ε α) (next : α → Except ε β) (result : β) :
    (value >>= next) = .ok result ↔ ∃ input, value = .ok input ∧ next input = .ok result := by
  cases value <;> simp [bind, Except.bind]

theorem pure_ok (value result : α) : (pure value : Except ε α) = .ok result ↔ value = result := by
  simp [pure, Except.pure]

/-- A traversal succeeds with the results of its items. -/
theorem mapM_ok {step : α → Except ε β} {items : List α} {results : List β} (ok : items.mapM step = .ok results) :
    List.Forall₂ (fun item result => step item = .ok result) items results := by
  induction items generalizing results with
  | nil =>
    obtain rfl := (pure_ok _ _).mp ok
    exact .nil
  | cons item items ih =>
    simp only [List.mapM_cons, bind_ok, pure_ok] at ok
    obtain ⟨result, here, rest, later, rfl⟩ := ok
    exact .cons here (ih later)

theorem mapM_some {step : α → Option β} {items : List α} {results : List β} (found : items.mapM step = some results) :
    List.Forall₂ (fun item result => step item = some result) items results := by
  induction items generalizing results with
  | nil =>
    obtain rfl := Option.some.inj found
    exact .nil
  | cons item items ih =>
    simp only [List.mapM_cons, Option.bind_eq_bind, Option.bind_eq_some_iff] at found
    obtain ⟨result, here, rest, later, same⟩ := found
    obtain rfl := Option.some.inj same
    exact .cons here (ih later)

/-- Every result of a traversal is that of an item. -/
theorem mem_mapM_some {step : α → Option β} {items : List α} {results : List β} (found : items.mapM step = some results)
    {result : β} (member : result ∈ results) : ∃ item ∈ items, step item = some result := by
  have every := mapM_some found
  clear found
  induction every with
  | nil => cases member
  | cons here _ ih =>
    rcases List.mem_cons.mp member with rfl | later
    · exact ⟨_, List.mem_cons_self, here⟩
    · obtain ⟨item, listed, same⟩ := ih later
      exact ⟨item, List.mem_cons_of_mem _ listed, same⟩

/-- Two computations succeed together, with related results, or fail together. -/
inductive Matches (related : α → β → Prop) : Except ε α → Option β → Prop
  | both {result : α} {result' : β} (same : related result result') : Matches related (.ok result) (some result')
  | neither (error : ε) : Matches related (.error error) none

namespace Matches
variable {γ δ : Type} {related : α → β → Prop} {related' : γ → δ → Prop} {value : Except ε α} {value' : Option β}

theorem bind (first : Matches related value value') {next : α → Except ε γ} {next' : β → Option δ}
    (rest : ∀ input input', related input input' → Matches related' (next input) (next' input')) :
    Matches related' (value >>= next) (value' >>= next') := by
  cases first with
  | both same => exact rest _ _ same
  | neither error => exact .neither error

theorem pure {result : γ} {result' : δ} (same : related' result result') :
    @Matches ε _ _ related' (Pure.pure result) (Pure.pure result') := .both same

theorem mapM {ι : Type} {items : List ι} {step : ι → Except ε α} {step' : ι → Option β}
    (each : ∀ item ∈ items, Matches related (step item) (step' item)) :
    Matches (List.Forall₂ related) (items.mapM step) (items.mapM step') := by
  induction items with
  | nil => exact .both .nil
  | cons item items ih =>
    obtain ⟨here, later⟩ := List.forall_mem_cons.mp each
    rw [List.mapM_cons, List.mapM_cons]
    exact here.bind fun _ _ same => (ih later).bind fun _ _ rest => .both (.cons same rest)

/-- Success on one side is success on the other. -/
theorem of_ok {result : α} (matching : Matches related value value') (ok : value = .ok result) :
    ∃ result', value' = some result' ∧ related result result' := by
  cases matching with
  | both same =>
    obtain rfl := Except.ok.inj ok
    exact ⟨_, rfl, same⟩
  | neither error => cases ok

end Matches

end Fallible
