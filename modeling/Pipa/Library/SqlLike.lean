import Mathlib.Data.List.Infix

/-! The patterns of LIKE. An escaped unit matches itself, and so does an escape unit with
nothing behind it. -/

namespace SqlLike

inductive Item where
  | any | one
  | unit (unit : Nat)
deriving DecidableEq, Repr

def wildcard (unit : Nat) : Item := if unit = 37 then .any else if unit = 95 then .one else .unit unit

def items (escape : Option Nat) : List Nat → List Item
  | [] => []
  | [unit] => [if some unit = escape then .unit unit else wildcard unit]
  | unit :: next :: rest =>
    if some unit = escape then .unit next :: items escape rest else wildcard unit :: items escape (next :: rest)

def matched : List Item → List Nat → Bool
  | [], subject => subject.isEmpty
  | .any :: items, subject => subject.tails.any (matched items)
  | .one :: items, subject => !subject.isEmpty && matched items subject.tail
  | .unit unit :: items, subject => subject.head? == some unit && matched items subject.tail

/-- The escape unit of a predicate: a backslash without a clause, none for empty text. -/
def escapeUnit : Option (List Nat) → Option Nat
  | none => some 92
  | some text => text.head?

/-- Whether a pattern matches a subject as a whole, unit by unit. -/
def like (pattern : List Nat) (escape : Option (List Nat)) (subject : List Nat) : Bool :=
  matched (items (escapeUnit escape) pattern) subject

/-- Text whose wildcards and escape units are escaped. -/
def escaped (escape : Nat) (text : List Nat) : List Nat :=
  text.flatMap fun unit => if unit = 37 ∨ unit = 95 ∨ unit = escape then [escape, unit] else [unit]

section Items
variable {escape : Nat}

private theorem items_plain {unit : Nat} (plain : unit ≠ escape) (rest : List Nat) :
    items (some escape) (unit :: rest) = wildcard unit :: items (some escape) rest := by
  have other : some unit ≠ some escape := fun same => plain (Option.some.inj same)
  cases rest with
  | nil => simp only [items, if_neg other]
  | cons next rest => rw [items, if_neg other]

theorem items_any (ordinary : escape ≠ 37) (rest : List Nat) :
    items (some escape) (37 :: rest) = .any :: items (some escape) rest :=
  items_plain ordinary.symm rest

/-- Escaped text is read unit by unit, whatever stands behind it. -/
theorem items_escaped (text rest : List Nat) :
    items (some escape) (escaped escape text ++ rest) = text.map .unit ++ items (some escape) rest := by
  induction text with
  | nil => rfl
  | cons unit text ih =>
    have unfolded : escaped escape (unit :: text) =
        (if unit = 37 ∨ unit = 95 ∨ unit = escape then [escape, unit] else [unit]) ++ escaped escape text := rfl
    rw [unfolded, List.append_assoc]
    by_cases special : unit = 37 ∨ unit = 95 ∨ unit = escape
    · rw [if_pos special, List.cons_append, List.singleton_append, items, if_pos rfl, ih]
      rfl
    · obtain ⟨percent, underscore, other⟩ := not_or.mp special |>.imp_right not_or.mp
      rw [if_neg special, List.singleton_append, items_plain other, ih, wildcard, if_neg percent, if_neg underscore]
      rfl

end Items

section Matching
variable {pattern : List Item} {subject : List Nat}

theorem matched_any : matched (.any :: pattern) subject = true ↔
    ∃ front rest, subject = front ++ rest ∧ matched pattern rest = true := by
  rw [matched, List.any_eq_true]
  constructor
  · intro found
    obtain ⟨rest, ⟨front, whole⟩, matches_⟩ := found.imp fun rest => And.imp_left (List.mem_tails rest subject).mp
    exact ⟨front, rest, whole.symm, matches_⟩
  · intro found
    obtain ⟨front, rest, whole, matches_⟩ := found
    exact ⟨rest, (List.mem_tails rest subject).mpr ⟨front, whole.symm⟩, matches_⟩

theorem matched_units (text : List Nat) : matched (text.map .unit ++ pattern) subject = true ↔
    ∃ rest, subject = text ++ rest ∧ matched pattern rest = true := by
  induction text generalizing subject with
  | nil => simp
  | cons unit text ih =>
    rw [List.map_cons, List.cons_append, matched, Bool.and_eq_true, beq_iff_eq, ih]
    constructor
    · intro found
      obtain ⟨first, rest, behind, matches_⟩ := found
      obtain ⟨tail, rfl⟩ := List.head?_eq_some_iff.mp first
      exact ⟨rest, congrArg (unit :: ·) behind, matches_⟩
    · intro found
      obtain ⟨rest, rfl, matches_⟩ := found
      exact ⟨rfl, rest, rfl, matches_⟩

theorem matched_all : matched [.any] subject = true := matched_any.mpr ⟨subject, [], (List.append_nil subject).symm, rfl⟩

theorem matched_front (text : List Nat) : matched (text.map .unit ++ [.any]) subject = true ↔ text <+: subject := by
  rw [matched_units]
  constructor
  · intro found
    obtain ⟨rest, rfl, -⟩ := found
    exact List.prefix_append text rest
  · intro found
    obtain ⟨rest, rfl⟩ := found
    exact ⟨rest, rfl, matched_all⟩

theorem matched_whole (text : List Nat) : matched (text.map .unit) subject = true ↔ subject = text := by
  have split := @matched_units [] subject text
  rw [List.append_nil] at split
  rw [split]
  constructor
  · intro found
    obtain ⟨rest, rfl, none⟩ := found
    rw [List.isEmpty_iff.mp none, List.append_nil]
  · intro same
    exact ⟨[], by rw [same, List.append_nil], rfl⟩

end Matching

section Substrings
variable {escape : Nat} (ordinary : escape ≠ 37) (text subject : List Nat)
include ordinary

/-- Behind escaped text, `%` leaves its beginnings. -/
theorem like_prefix : like (escaped escape text ++ [37]) (some [escape]) subject = true ↔ text <+: subject := by
  rw [like, escapeUnit, List.head?_cons, items_escaped, items_any ordinary]
  exact matched_front text

theorem like_suffix : like (37 :: escaped escape text) (some [escape]) subject = true ↔ text <:+ subject := by
  have read := @items_escaped escape text []
  rw [List.append_nil] at read
  rw [like, escapeUnit, List.head?_cons, items_any ordinary, read, matched_any]
  constructor
  · intro found
    obtain ⟨front, rest, whole, matches_⟩ := found
    obtain rfl := (matched_whole text).mp (by simpa [items] using matches_)
    exact ⟨front, whole.symm⟩
  · intro found
    obtain ⟨front, whole⟩ := found
    exact ⟨front, text, whole.symm, by simpa [items] using (matched_whole text).mpr rfl⟩

theorem like_infix : like (37 :: (escaped escape text ++ [37])) (some [escape]) subject = true ↔ text <:+: subject := by
  rw [like, escapeUnit, List.head?_cons, items_any ordinary, items_escaped, items_any ordinary, matched_any]
  constructor
  · intro found
    obtain ⟨front, rest, rfl, matches_⟩ := found
    obtain ⟨behind, rfl⟩ := (matched_front text).mp matches_
    exact ⟨front, behind, List.append_assoc ..⟩
  · intro found
    obtain ⟨front, behind, whole⟩ := found
    exact ⟨front, text ++ behind, by rw [← whole, List.append_assoc], (matched_front text).mpr (List.prefix_append ..)⟩

end Substrings

end SqlLike
