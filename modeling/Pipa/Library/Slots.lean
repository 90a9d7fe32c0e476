import Mathlib.Data.List.Nodup

/-! Texts written slot by slot, where a slot may be left out. Two writings that come to
the same text made the same choices, if the slots begin apart and what a slot can hold is
told apart as well. -/

namespace Slots

variable {α : Type*}

/-- Somewhere both lists go on, with different elements. -/
def Apart (left right : List α) : Prop := ∃ (n : Nat) (a b : α), left[n]? = some a ∧ right[n]? = some b ∧ a ≠ b

namespace Apart
variable {left right : List α}

theorem symm (apart : Apart left right) : Apart right left := by
  obtain ⟨n, a, b, first, second, differ⟩ := apart
  exact ⟨n, b, a, second, first, differ.symm⟩

theorem ne (apart : Apart left right) : left ≠ right := by
  rintro rfl
  obtain ⟨n, a, b, first, second, differ⟩ := apart
  exact differ (Option.some.inj (first.symm.trans second))

/-- Whatever follows, they stay apart. -/
theorem append (apart : Apart left right) (more more' : List α) : Apart (left ++ more) (right ++ more') := by
  obtain ⟨n, a, b, first, second, differ⟩ := apart
  have inside := (List.getElem?_eq_some_iff.mp first).1
  have inside' := (List.getElem?_eq_some_iff.mp second).1
  exact ⟨n, a, b, by rwa [List.getElem?_append_left inside], by rwa [List.getElem?_append_left inside'], differ⟩

/-- What stands in front of both does not matter. -/
theorem behind (apart : Apart left right) (front : List α) : Apart (front ++ left) (front ++ right) := by
  obtain ⟨n, a, b, first, second, differ⟩ := apart
  refine ⟨front.length + n, a, b, ?_, ?_, differ⟩
  · rwa [List.getElem?_append_right (Nat.le_add_right _ _), Nat.add_sub_cancel_left]
  · rwa [List.getElem?_append_right (Nat.le_add_right _ _), Nat.add_sub_cancel_left]

theorem of_prefix {first second : List α} (apart : Apart first second) (starts : first <+: left) (starts' : second <+: right) :
    Apart left right := by
  obtain ⟨more, rfl⟩ := starts
  obtain ⟨more', rfl⟩ := starts'
  exact apart.append more more'

theorem of_heads {a b : α} (differ : a ≠ b) (rest rest' : List α) : Apart (a :: rest) (b :: rest') := ⟨0, a, b, rfl, rfl, differ⟩

end Apart

/-- The first place where two lists differ is found by pairing them. -/
theorem apart_iff_zip {left right : List α} : Apart left right ↔ ∃ pair ∈ left.zip right, pair.1 ≠ pair.2 := by
  constructor
  · rintro ⟨n, a, b, first, second, differ⟩
    have both : (left.zip right)[n]? = some (a, b) := List.getElem?_zip_eq_some.mpr ⟨first, second⟩
    exact ⟨(a, b), List.mem_of_getElem? both, differ⟩
  · rintro ⟨⟨a, b⟩, member, differ⟩
    obtain ⟨n, both⟩ := List.mem_iff_getElem?.mp member
    obtain ⟨first, second⟩ := List.getElem?_zip_eq_some.mp both
    exact ⟨n, a, b, first, second, differ⟩

instance [DecidableEq α] (left right : List α) : Decidable (Apart left right) := decidable_of_iff _ apart_iff_zip.symm

/-- Texts without their terminator are the same or told apart by it. -/
theorem apart_terminated {terminator : α} {left right : List α} (absent : terminator ∉ left) (absent' : terminator ∉ right)
    (differ : left ≠ right) : Apart (left ++ [terminator]) (right ++ [terminator]) := by
  induction left generalizing right with
  | nil =>
    cases right with
    | nil => exact absurd rfl differ
    | cons b right => exact .of_heads (List.ne_of_not_mem_cons absent') _ _
  | cons a left ih =>
    cases right with
    | nil => exact .of_heads (List.ne_of_not_mem_cons absent).symm _ _
    | cons b right =>
      by_cases same : a = b
      · subst same
        have rest : left ≠ right := fun same => differ (congrArg _ same)
        exact (ih (fun inside => absent (List.mem_cons_of_mem _ inside))
          (fun inside => absent' (List.mem_cons_of_mem _ inside)) rest).behind [a]
      · exact .of_heads same _ _

/-- A slot with what it begins with, and what two writings put there. -/
structure Choice (α : Type*) where
  head : List α
  left : Option (List α)
  right : Option (List α)

/-- The slots of a writing one after another. -/
def written (slots : List (Option (List α))) : List α := slots.flatMap fun slot => slot.getD []

/-- Nothing is written, or something of a slot comes first. -/
theorem written_starts (slots : List (Option (List α))) :
    written slots = [] ∨ ∃ text, some text ∈ slots ∧ text <+: written slots := by
  induction slots with
  | nil => exact Or.inl rfl
  | cons slot slots ih =>
    cases slot with
    | some text => exact Or.inr ⟨text, List.mem_cons_self, List.prefix_append _ _⟩
    | none =>
      rcases ih with empty | ⟨text, member, starts⟩
      · exact Or.inl empty
      · exact Or.inr ⟨text, List.mem_cons_of_mem _ member, starts⟩

/-- What a slot may hold begins with its head, which is not empty, and two texts of the
slot are the same or apart. -/
structure Choice.Proper (choice : Choice α) : Prop where
  nonempty : choice.head ≠ []
  left : ∀ text, choice.left = some text → choice.head <+: text
  right : ∀ text, choice.right = some text → choice.head <+: text
  told : ∀ text text', choice.left = some text → choice.right = some text' → text = text' ∨ Apart text text'

/-- A slot is not skipped by one writing alone. -/
theorem not_skipped {head text : List α} {slots : List (Option (List α))} (nonempty : head ≠ []) (starts : head <+: text)
    (others : ∀ other, some other ∈ slots → ∃ head', head' <+: other ∧ Apart head head') (more : List α) :
    text ++ more ≠ written slots := by
  intro same
  rcases written_starts slots with empty | ⟨other, member, first⟩
  · rw [empty] at same
    obtain ⟨rfl, -⟩ := List.append_eq_nil_iff.mp same
    exact nonempty (List.prefix_nil.mp starts)
  · obtain ⟨head', starts', apart⟩ := others other member
    exact (apart.of_prefix (starts.trans (List.prefix_append text more)) (starts'.trans first)).ne same

/-- The same text was written by the same choices. -/
theorem choices_of_written {choices : List (Choice α)} (proper : ∀ choice ∈ choices, choice.Proper)
    (heads : choices.Pairwise fun former latter => Apart former.head latter.head)
    (same : written (choices.map Choice.left) = written (choices.map Choice.right)) :
    ∀ choice ∈ choices, choice.left = choice.right := by
  induction choices with
  | nil => simp
  | cons choice choices ih =>
    obtain ⟨first, others⟩ := List.forall_mem_cons.mp proper
    obtain ⟨ahead, heads⟩ := List.pairwise_cons.mp heads
    have left_behind : ∀ text, some text ∈ choices.map Choice.left → ∃ head, head <+: text ∧ Apart choice.head head := by
      intro text member
      obtain ⟨other, listed, held⟩ := List.mem_map.mp member
      exact ⟨other.head, (others other listed).left text held, ahead other listed⟩
    have right_behind : ∀ text, some text ∈ choices.map Choice.right → ∃ head, head <+: text ∧ Apart choice.head head := by
      intro text member
      obtain ⟨other, listed, held⟩ := List.mem_map.mp member
      exact ⟨other.head, (others other listed).right text held, ahead other listed⟩
    rw [List.map_cons, List.map_cons, written, written, List.flatMap_cons, List.flatMap_cons, ← written, ← written] at same
    cases left : choice.left with
    | none =>
      cases right : choice.right with
      | none =>
        rw [left, right] at same
        exact List.forall_mem_cons.mpr ⟨left.trans right.symm, ih others heads same⟩
      | some text =>
        rw [left, right] at same
        exact absurd same.symm (not_skipped first.nonempty (first.right text right) left_behind _)
    | some text =>
      cases right : choice.right with
      | none =>
        rw [left, right] at same
        exact absurd same (not_skipped first.nonempty (first.left text left) right_behind _)
      | some text' =>
        rw [left, right] at same
        rcases first.told text text' left right with rfl | apart
        · exact List.forall_mem_cons.mpr ⟨left.trans right.symm, ih others heads (List.append_cancel_left same)⟩
        · exact absurd same (apart.append _ _).ne

/-! ### Named results -/

section Named
variable {α β κ : Type*} {f g : α → Option β}

/-- Where a result that is missing on one side cannot come from another item there,
optional results can only coincide item by item. -/
theorem filterMap_same {items : List α}
    (left : ∀ item ∈ items, ∀ other ∈ items, ∀ result, f item = none → g item = some result → f other ≠ some result)
    (right : ∀ item ∈ items, ∀ other ∈ items, ∀ result, g item = none → f item = some result → g other ≠ some result)
    (same : items.filterMap f = items.filterMap g) : ∀ item ∈ items, f item = g item := by
  induction items with
  | nil => exact fun item listed => absurd listed List.not_mem_nil
  | cons item later ih =>
    have head : f item = g item ∧ later.filterMap f = later.filterMap g := by
      rw [List.filterMap_cons, List.filterMap_cons] at same
      cases first : f item with
      | none =>
        cases second : g item with
        | none =>
          rw [first, second] at same
          exact ⟨rfl, same⟩
        | some result =>
          rw [first, second] at same
          have taken : later.filterMap f = result :: later.filterMap g := same
          obtain ⟨other, listed, produced⟩ := List.mem_filterMap.mp (taken ▸ List.mem_cons_self)
          exact absurd produced (left item List.mem_cons_self other (List.mem_cons_of_mem _ listed) result first second)
      | some result =>
        cases second : g item with
        | none =>
          rw [first, second] at same
          have taken : result :: later.filterMap f = later.filterMap g := same
          obtain ⟨other, listed, produced⟩ := List.mem_filterMap.mp (taken ▸ List.mem_cons_self)
          exact absurd produced (right item List.mem_cons_self other (List.mem_cons_of_mem _ listed) result second first)
        | some result' =>
          rw [first, second] at same
          obtain ⟨rfl, rest⟩ := List.cons.inj same
          exact ⟨rfl, rest⟩
    have tail := ih (fun item listed other listed' => left item (List.mem_cons_of_mem _ listed) other (List.mem_cons_of_mem _ listed'))
      (fun item listed other listed' => right item (List.mem_cons_of_mem _ listed) other (List.mem_cons_of_mem _ listed')) head.2
    exact List.forall_mem_cons.mpr ⟨head.1, tail⟩

/-- Results that carry the names of their items, all different, coincide item by item. -/
theorem filterMap_named {key : β → κ} {name : α → κ} (named : ∀ item result, f item = some result → key result = name item)
    (named' : ∀ item result, g item = some result → key result = name item) {items : List α}
    (distinct : (items.map name).Nodup) (same : items.filterMap f = items.filterMap g) :
    ∀ item ∈ items, f item = g item := by
  have elsewhere {f g : α → Option β} (named : ∀ item result, f item = some result → key result = name item)
      (named' : ∀ item result, g item = some result → key result = name item) :
      ∀ item ∈ items, ∀ other ∈ items, ∀ result, f item = none → g item = some result → f other ≠ some result := by
    intro item listed other listed' result missing own foreign
    have names : name other = name item := (named other result foreign).symm.trans (named' item result own)
    have items_same := List.inj_on_of_nodup_map distinct listed' listed names
    rw [items_same, missing] at foreign
    cases foreign
  exact filterMap_same (elsewhere named named') (elsewhere named' named) same

end Named

end Slots
