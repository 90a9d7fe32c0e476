import Mathlib.Data.List.Basic

/-! Paging by cursors. A server answers a cursor with a page and, while more is to
come, the next cursor. A client that follows the cursors from none sees everything
once and in order, as soon as each page accounts for what its cursor leaves open. -/

namespace Pages

variable {α κ : Type*}

structure Page (α κ : Type*) where
  shown : List α
  next : Option κ

/-- What a client receives that starts at a cursor and follows the next ones until
there is none: `none` when a request fails or the requests run out. -/
def follow (fetch : Nat → Option κ → Option (Page α κ)) : Nat → Nat → Option κ → Option (List (Page α κ))
  | 0, _, _ => none
  | requests + 1, turn, cursor => do
    let page ← fetch turn cursor
    match page.next with
    | none => some [page]
    | some next => return page :: (← follow fetch requests (turn + 1) (some next))

def shown (pages : List (Page α κ)) : List α := pages.flatMap Page.shown

@[simp]
theorem shown_cons (page : Page α κ) (pages : List (Page α κ)) : shown (page :: pages) = page.shown ++ shown pages := rfl

@[simp]
theorem shown_nil : shown ([] : List (Page α κ)) = [] := rfl

/-- A page accounts for what its cursor leaves open: it shows the front of it, and
it names a next cursor exactly when something remains, having shown something. -/
structure Accounts (open_ : Option κ → List α) (valid : Option κ → Prop) (cursor : Option κ) (page : Page α κ) : Prop where
  last : page.next = none → open_ cursor = page.shown
  more : ∀ next, page.next = some next → valid (some next) ∧ page.shown ≠ [] ∧ open_ (some next) ≠ [] ∧
    open_ cursor = page.shown ++ open_ (some next)

variable {fetch : Nat → Option κ → Option (Page α κ)} {open_ : Option κ → List α} {valid : Option κ → Prop}

/-- What a client holds that has followed the cursors for some pages, none of them left out:
all there is when there is no next cursor, and else all but what that leaves open. -/
structure Reached (open_ : Option κ → List α) (valid : Option κ → Prop) (held : List α) (cursor : Option κ) : Prop where
  last : cursor = none → held = open_ none
  more : ∀ next, cursor = some next → valid (some next) ∧ open_ (some next) ≠ [] ∧ open_ none = held ++ open_ (some next)

/-- The first page is held alone. -/
theorem Reached.first {page : Page α κ} (accounts : Accounts open_ valid none page) : Reached open_ valid page.shown page.next := by
  constructor
  · intro ended
    exact (accounts.last ended).symm
  · intro next following
    obtain ⟨isValid, -, remains, split⟩ := accounts.more next following
    exact ⟨isValid, remains, split⟩

/-- Every other page is held behind the ones before it. -/
theorem Reached.extend {held : List α} {cursor : κ} {page : Page α κ} (reached : Reached open_ valid held (some cursor))
    (accounts : Accounts open_ valid (some cursor) page) : Reached open_ valid (held ++ page.shown) page.next := by
  obtain ⟨-, -, whole⟩ := reached.more cursor rfl
  constructor
  · intro ended
    rw [whole, accounts.last ended]
  · intro next following
    obtain ⟨isValid, -, remains, split⟩ := accounts.more next following
    refine ⟨isValid, remains, ?_⟩
    rw [whole, split, List.append_assoc]

theorem Reached.isPrefix {held : List α} {cursor : Option κ} (reached : Reached open_ valid held cursor) : held <+: open_ none := by
  cases cursor with
  | none => exact ⟨[], (List.append_nil held).trans (reached.last rfl)⟩
  | some next =>
    obtain ⟨-, -, whole⟩ := reached.more next rfl
    exact ⟨open_ (some next), whole.symm⟩

/-- Everything is held exactly when no cursor is left. -/
theorem Reached.complete_iff {held : List α} {cursor : Option κ} (reached : Reached open_ valid held cursor) :
    held = open_ none ↔ cursor = none := by
  refine ⟨fun complete => ?_, reached.last⟩
  cases cursor with
  | none => rfl
  | some next =>
    obtain ⟨-, remains, whole⟩ := reached.more next rfl
    rw [← complete] at whole
    exact absurd (List.self_eq_append_right.mp whole) remains

/-- Pages that account for their cursors show everything, and only the one behind
which nothing remains has no next cursor. -/
theorem follow_all (serves : ∀ turn cursor, valid cursor → ∃ page, fetch turn cursor = some page ∧ Accounts open_ valid cursor page)
    (requests turn : Nat) (cursor : Option κ) (known : valid cursor) (enough : (open_ cursor).length < requests) :
    ∃ pages, follow fetch requests turn cursor = some pages ∧ shown pages = open_ cursor ∧
      ∀ index page, pages[index]? = some page → (∃ asked, valid asked ∧ fetch (turn + index) asked = some page) ∧
        (page.next = none ↔ shown (pages.take (index + 1)) = open_ cursor) := by
  induction requests generalizing turn cursor with
  | zero => omega
  | succ requests ih =>
    obtain ⟨page, fetched, accounts⟩ := serves turn cursor known
    cases next : page.next with
    | none =>
      refine ⟨[page], by simp [follow, fetched, next], by simp [accounts.last next], ?_⟩
      intro index other found
      obtain ⟨rfl, rfl⟩ : index = 0 ∧ other = page := by
        cases index with
        | zero => exact ⟨rfl, (Option.some.inj found).symm⟩
        | succ index => cases found
      exact ⟨⟨cursor, known, fetched⟩, by simp [next, accounts.last next]⟩
    | some following =>
      obtain ⟨valid, something, remains, split⟩ := accounts.more following next
      have shorter : (open_ (some following)).length < requests := by
        have positive := List.length_pos_iff.mpr something
        rw [split, List.length_append] at enough
        omega
      obtain ⟨pages, followed, all, each⟩ := ih (turn + 1) (some following) valid shorter
      refine ⟨page :: pages, by simp [follow, fetched, next, followed], by simp [all, split], ?_⟩
      intro index other found
      cases index with
      | zero =>
        obtain rfl := Option.some.inj found
        refine ⟨⟨cursor, known, fetched⟩, ?_⟩
        simp [next, split, remains]
      | succ index =>
        obtain ⟨⟨asked, asking, answer⟩, ends⟩ := each index other found
        refine ⟨⟨asked, asking, by rw [← answer]; congr 1; omega⟩, ?_⟩
        rw [ends, split, List.take_succ_cons, shown_cons, List.append_cancel_left_eq]

/-- A list cut at a limit, with one more entry taken to see whether any remains. -/
theorem take_succ_cut (items : List α) (limit : Nat) :
    (if limit < (items.take (limit + 1)).length then (items.take (limit + 1)).dropLast else items.take (limit + 1)) =
      items.take limit := by
  rw [List.length_take]
  split
  · rw [List.dropLast_eq_take, List.length_take, List.take_take]
    congr 1
    omega
  · rw [List.take_of_length_le (by omega), List.take_of_length_le (by omega)]

/-- Among entries with increasing keys, those with a greater key than one entry's
are the ones behind it. -/
theorem filter_behind {key : α → Nat} {front rest : List α} {last : α}
    (increasing : (front ++ last :: rest).Pairwise (fun earlier later => key earlier < key later)) :
    (front ++ last :: rest).filter (fun item => key last < key item) = rest := by
  obtain ⟨_, behind, before⟩ := List.pairwise_append.mp increasing
  obtain ⟨greater, _⟩ := List.pairwise_cons.mp behind
  have lesser : front.filter (fun item => key last < key item) = [] := by
    rw [List.filter_eq_nil_iff]
    intro item member
    exact fun greater => Nat.lt_asymm (of_decide_eq_true greater) (before item member last (List.mem_cons_self ..))
  rw [List.filter_append, lesser, List.nil_append, List.filter_cons_of_neg (by simp), List.filter_eq_self]
  intro item member
  exact decide_eq_true (greater item member)

end Pages
