import Mathlib.Data.List.Pairwise
import Mathlib.Data.List.Sort
import Mathlib.Data.List.Nodup

/-! Sorting by a comparison that is an order only where it is asked. -/

namespace Sorting

variable {α : Type*} {first second : α → α → Bool}

/-- A merge sort asks about two elements in the order in which they came. -/
theorem mergeSort_congr {items : List α} (agree : items.Pairwise fun left right => first left right = second left right) :
    items.mergeSort first = items.mergeSort second :=
  match items, agree with
  | [], _ => by simp
  | [_], _ => by simp
  | a :: b :: rest, agree => by
    have split := List.pairwise_append.mp ((List.take_append_drop ((rest.length + 1 + 1 + 1) / 2) (a :: b :: rest)).symm ▸ agree)
    have merged := @List.map_merge _ _ id first second
      (((a :: b :: rest).take ((rest.length + 1 + 1 + 1) / 2)).mergeSort first)
      (((a :: b :: rest).drop ((rest.length + 1 + 1 + 1) / 2)).mergeSort first)
      (fun left here right there => split.2.2 left ((List.mergeSort_perm ..).mem_iff.mp here) right
        ((List.mergeSort_perm ..).mem_iff.mp there))
    rw [List.map_id, List.map_id, List.map_id] at merged
    simp only [List.mergeSort, List.MergeSort.Internal.splitInTwo_fst, List.MergeSort.Internal.splitInTwo_snd, List.length_cons]
    rw [merged, mergeSort_congr split.1, mergeSort_congr split.2.1]
  termination_by items.length

variable {rank : α → Nat}

/-- Elements of different ranks are sorted by these. -/
theorem mergeSort_rank {sorted shuffled : List α} (perm : shuffled.Perm sorted)
    (increasing : sorted.Pairwise fun left right => rank left < rank right)
    (below : ∀ left right, rank left < rank right → first left right = true ∧ first right left = false) :
    shuffled.mergeSort first = sorted := by
  have distinct : (sorted.map rank).Nodup := (List.pairwise_map.mpr increasing).imp fun before => Nat.ne_of_lt before
  have apart : (shuffled.map rank).Nodup := (perm.map rank).nodup_iff.mpr distinct
  have agree : shuffled.Pairwise fun left right => first left right = decide (rank left ≤ rank right) := by
    refine (List.pairwise_map.mp apart).imp fun {left right} different => ?_
    rcases Nat.lt_or_gt_of_ne different with before | behind
    · rw [(below left right before).1, decide_eq_true (Nat.le_of_lt before)]
    · rw [(below right left behind).2, decide_eq_false (Nat.not_le.mpr behind)]
  rw [mergeSort_congr agree]
  refine List.Perm.eq_of_pairwise ?_ (@List.pairwise_mergeSort _ (fun left right => decide (rank left ≤ rank right)) ?_ ?_ shuffled)
    (increasing.imp fun before => decide_eq_true (Nat.le_of_lt before)) ((List.mergeSort_perm ..).trans perm)
  · intro left right here there before behind
    refine List.inj_on_of_nodup_map distinct (perm.mem_iff.mp ((List.mergeSort_perm ..).mem_iff.mp here)) there ?_
    exact Nat.le_antisymm (of_decide_eq_true before) (of_decide_eq_true behind)
  · intro left middle right before behind
    exact decide_eq_true (Nat.le_trans (of_decide_eq_true before) (of_decide_eq_true behind))
  · intro left right
    simpa using Nat.le_total (rank left) (rank right)

/-! ### Ties -/

section Ties
variable {items : List α} {le : α → α → Bool}

/-- A comparison that is an order of these elements, up to ties. -/
structure Orders (le : α → α → Bool) (items : List α) : Prop where
  total : ∀ left ∈ items, ∀ right ∈ items, le left right = true ∨ le right left = true
  trans : ∀ left ∈ items, ∀ middle ∈ items, ∀ right ∈ items, le left middle = true → le middle right = true → le left right = true

/-- How many elements come before one. -/
def rankOf (le : α → α → Bool) (items : List α) (item : α) : Nat := items.countP fun other => !le item other

theorem countP_strict {test more : α → Bool} {item : α} (implied : ∀ other ∈ items, test other = true → more other = true)
    (member : item ∈ items) (fails : test item = false) (passes : more item = true) : items.countP test < items.countP more := by
  induction items with
  | nil => cases member
  | cons first items ih =>
    obtain ⟨here, implied⟩ := List.forall_mem_cons.mp implied
    have least := List.countP_mono_left implied
    rw [List.countP_cons, List.countP_cons]
    obtain rfl | later := List.mem_cons.mp member
    · rw [fails, passes]
      simp only [Bool.false_eq_true, ↓reduceIte]
      omega
    · have strict := ih implied later
      split
      next tested => rw [if_pos (here tested)]; omega
      next => omega

/-- The comparison agrees with the ranks. -/
theorem Orders.rank_le (orders : Orders le items) {left right : α} (here : left ∈ items) (there : right ∈ items) :
    le left right = decide (rankOf le items left ≤ rankOf le items right) := by
  have ordered {first second : α} (here : first ∈ items) (there : second ∈ items) (before : le first second = true) :
      ∀ other ∈ items, (!le first other) = true → (!le second other) = true := by
    intro other listed after
    rw [Bool.not_eq_true'] at after ⊢
    refine Bool.eq_false_iff.mpr fun behind => ?_
    rw [orders.trans first here second there other listed before behind] at after
    cases after
  by_cases before : le left right = true
  · rw [before, eq_comm, decide_eq_true_eq]
    exact List.countP_mono_left (ordered here there before)
  · have behind := (orders.total left here right there).resolve_left before
    have reflexive : le right right = true := or_self_iff.mp (orders.total right there right there)
    have strict : rankOf le items right < rankOf le items left := by
      refine countP_strict (ordered there here behind) there ?_ ?_
      · rw [reflexive, Bool.not_true]
      · rw [Bool.not_eq_true', Bool.eq_false_iff]
        exact before
    rw [Bool.eq_false_iff.mpr before, eq_comm, decide_eq_false_iff_not]
    exact Nat.not_le.mpr strict

/-- Elements sorted from any order come out the same, up to ties. -/
theorem Orders.mergeSort_ties {shuffled : List α} (orders : Orders le items) (perm : items.Perm shuffled) :
    List.Forall₂ (fun left right => le left right = true ∧ le right left = true) (items.mergeSort le) (shuffled.mergeSort le) := by
  let below (left right : Nat) : Bool := decide (left ≤ right)
  have ranked {some_items : List α} (subset : ∀ item ∈ some_items, item ∈ items) :
      (some_items.mergeSort le).map (rankOf le items) = (some_items.map (rankOf le items)).mergeSort below :=
    List.map_mergeSort fun left here right there => orders.rank_le (subset left here) (subset right there)
  have sorted (ranks : List Nat) : (ranks.mergeSort below).Pairwise fun left right => below left right = true := by
    refine List.pairwise_mergeSort ?_ ?_ ranks
    · intro left middle right before behind
      exact decide_eq_true (Nat.le_trans (of_decide_eq_true before) (of_decide_eq_true behind))
    · intro left right
      simpa [below] using Nat.le_total left right
  have inside : ∀ item ∈ shuffled, item ∈ items := fun item member => perm.mem_iff.mpr member
  have same : (items.mergeSort le).map (rankOf le items) = (shuffled.mergeSort le).map (rankOf le items) := by
    rw [ranked fun item member => member, ranked inside]
    refine List.Perm.eq_of_pairwise ?_ (sorted _) (sorted _) ?_
    · intro left right _ _ before behind
      exact Nat.le_antisymm (of_decide_eq_true before) (of_decide_eq_true behind)
    · exact ((List.mergeSort_perm ..).trans (perm.map _)).trans (List.mergeSort_perm ..).symm
  have equal : List.Forall₂ (fun left right => rankOf le items left = rankOf le items right)
      (items.mergeSort le) (shuffled.mergeSort le) := by
    rw [← List.forall₂_map_right_iff, ← List.forall₂_map_left_iff, List.forall₂_eq_eq_eq]
    exact same
  obtain ⟨length, each⟩ := List.forall₂_iff_get.mp equal
  refine List.forall₂_iff_get.mpr ⟨length, fun index here there => ?_⟩
  have left := (List.mergeSort_perm ..).mem_iff.mp (List.get_mem _ ⟨index, here⟩)
  have right := inside _ ((List.mergeSort_perm ..).mem_iff.mp (List.get_mem _ ⟨index, there⟩))
  rw [orders.rank_le left right, orders.rank_le right left, each index here there]
  exact ⟨decide_eq_true (Nat.le_refl _), decide_eq_true (Nat.le_refl _)⟩

end Ties

/-! ### The first of a sorted list -/

section First
variable {α : Type*} {le : α → α → Bool}

/-- Inserting into the first elements of a list gives the first ones of the longer list. -/
theorem take_orderedInsert (item : α) (items : List α) (count : Nat) :
    ((items.take count).orderedInsert (fun left right => le left right = true) item).take count =
      (items.orderedInsert (fun left right => le left right = true) item).take count := by
  induction items generalizing count with
  | nil => rw [List.take_nil]
  | cons first items ih =>
    cases count with
    | zero => rw [List.take_zero, List.take_zero]
    | succ count =>
      rw [List.take_succ_cons, List.orderedInsert_cons, List.orderedInsert_cons]
      split
      · rw [List.take_succ_cons, List.take_succ_cons]
        cases count with
        | zero => rfl
        | succ count => rw [List.take_succ_cons, List.take_succ_cons, List.take_take, Nat.min_eq_left (Nat.le_succ count)]
      · rw [List.take_succ_cons, List.take_succ_cons, ih]

/-- The first elements of a sorted list are those before which fewer others stand. -/
theorem mem_take_iff {before : α → α → Bool} {items : List α} (irrefl : ∀ item, before item item = false)
    (sorted : items.Pairwise fun left right => before left right = true ∧ before right left = false) {item : α} {count : Nat} :
    item ∈ items.take count ↔ item ∈ items ∧ items.countP (fun other => before other item) < count := by
  induction items generalizing count with
  | nil => simp
  | cons first items ih =>
    obtain ⟨ahead, sorted⟩ := List.pairwise_cons.mp sorted
    cases count with
    | zero => simp
    | succ count =>
      rw [List.take_succ_cons, List.mem_cons, List.mem_cons, ih sorted, List.countP_cons]
      constructor
      · intro listed
        rcases listed with rfl | ⟨listed, few⟩
        · have none : items.countP (fun other => before other item) = 0 := by
            apply List.countP_eq_zero.mpr
            intro other listed
            rw [(ahead other listed).2]
            exact Bool.false_ne_true
          rw [none, irrefl]
          exact ⟨Or.inl rfl, Nat.succ_pos count⟩
        · rw [if_pos (ahead item listed).1]
          exact ⟨Or.inr listed, Nat.succ_lt_succ few⟩
      · intro listed
        obtain ⟨rfl | listed, few⟩ := listed
        · exact Or.inl rfl
        · rw [if_pos (ahead item listed).1] at few
          exact Or.inr ⟨listed, Nat.lt_of_succ_lt_succ few⟩

variable (total : ∀ left right, le left right = true ∨ le right left = true)
  (trans : ∀ left middle right, le left middle = true → le middle right = true → le left right = true)
include total trans

theorem mergeSort_unique {items sorted : List α} (perm : items.Perm sorted) (pairwise : sorted.Pairwise fun left right => le left right = true)
    (antisymm : ∀ left ∈ items, ∀ right ∈ items, le left right = true → le right left = true → left = right) :
    items.mergeSort le = sorted := by
  have ordered := @List.pairwise_mergeSort _ le trans (fun left right => Bool.or_eq_true_iff.mpr (total left right)) items
  refine List.Perm.eq_of_pairwise ?_ ordered pairwise ((List.mergeSort_perm items le).trans perm)
  intro left right here there
  exact antisymm left ((List.mergeSort_perm items le).mem_iff.mp here) right (perm.mem_iff.mpr there)

/-- Sorting one element more inserts it. -/
theorem mergeSort_cons {item : α} {items : List α}
    (antisymm : ∀ left ∈ item :: items, ∀ right ∈ item :: items, le left right = true → le right left = true → left = right) :
    (item :: items).mergeSort le = (items.mergeSort le).orderedInsert (fun left right => le left right = true) item := by
  have ordered := @List.pairwise_mergeSort _ le trans (fun left right => Bool.or_eq_true_iff.mpr (total left right)) items
  have isTotal : Std.Total fun left right => le left right = true := ⟨total⟩
  have isTrans : IsTrans α fun left right => le left right = true := ⟨trans⟩
  refine mergeSort_unique total trans ?_ (ordered.orderedInsert item _) antisymm
  exact ((List.mergeSort_perm items le).symm.cons item).trans (List.perm_orderedInsert _ item _).symm

end First
end Sorting
