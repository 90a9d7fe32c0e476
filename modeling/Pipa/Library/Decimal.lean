import Mathlib.Algebra.Ring.Nat

/-! Decimal text of natural numbers, as ASCII bytes, and as characters in fields of a
fixed width, which stand in the order of their numbers. -/

namespace Decimal

def isDigit (byte : UInt8) : Bool := 48 ≤ byte && byte ≤ 57

def digit (number : Nat) : UInt8 := UInt8.ofNat (48 + number % 10)

/-- The shortest decimal text of a number. -/
def text (number : Nat) : List UInt8 :=
  if number < 10 then [digit number] else text (number / 10) ++ [digit number]

/-- The number that a run of digits spells behind a number already read. -/
def spelled (start : Nat) (digits : List UInt8) : Nat :=
  digits.foldl (fun number byte => 10 * number + (byte.toNat - 48)) start

/-- A nonempty run of digits and the number it spells. -/
def read (digits : List UInt8) : Option Nat :=
  if digits ≠ [] ∧ digits.all isDigit = true then some (spelled 0 digits) else none

theorem digit_toNat (number : Nat) : (digit number).toNat = 48 + number % 10 := by
  have small : 48 + number % 10 < UInt8.size := by
    have below := Nat.mod_lt number (by decide : 0 < 10)
    have size : UInt8.size = 256 := rfl
    omega
  exact UInt8.toNat_ofNat_of_lt small

theorem isDigit_digit (number : Nat) : isDigit (digit number) = true := by
  have code := digit_toNat number
  have below := Nat.mod_lt number (by decide : 0 < 10)
  simp only [isDigit, Bool.and_eq_true, decide_eq_true_eq, UInt8.le_iff_toNat_le, code, UInt8.reduceToNat]
  omega

theorem text_ne_nil (number : Nat) : text number ≠ [] := by
  rw [text]
  split <;> simp

theorem text_digits (number : Nat) : ∀ byte ∈ text number, isDigit byte = true := by
  induction number using text.induct with
  | case1 number small =>
    rw [text, if_pos small]
    simp [isDigit_digit]
  | case2 number large ih =>
    rw [text, if_neg large]
    intro byte member
    rcases List.mem_append.mp member with earlier | last
    · exact ih byte earlier
    · obtain rfl := List.mem_singleton.mp last
      exact isDigit_digit number

theorem spelled_text (number : Nat) : spelled 0 (text number) = number := by
  induction number using text.induct with
  | case1 number small =>
    rw [text, if_pos small]
    simp only [spelled, List.foldl_cons, List.foldl_nil, digit_toNat]
    omega
  | case2 number large ih =>
    rw [text, if_neg large, spelled, List.foldl_append]
    change 10 * spelled 0 (text (number / 10)) + ((digit number).toNat - 48) = number
    rw [ih, digit_toNat]
    omega

theorem read_text (number : Nat) : read (text number) = some number := by
  rw [read, if_pos ⟨text_ne_nil number, List.all_eq_true.mpr (text_digits number)⟩, spelled_text]

/-- A greater number has no shorter text. -/
theorem text_length_mono {lesser greater : Nat} (le : lesser ≤ greater) : (text lesser).length ≤ (text greater).length := by
  induction lesser using text.induct generalizing greater with
  | case1 lesser small =>
    rw [text, if_pos small]
    exact List.length_pos_iff.mpr (text_ne_nil greater)
  | case2 lesser large ih =>
    have longer : text greater = text (greater / 10) ++ [digit greater] := by
      rw [text, if_neg (by omega)]
    have shorter := ih (Nat.div_le_div_right le)
    rw [text, if_neg large, longer]
    simpa using shorter

/-! ### Fixed width -/

section FixedWidth

/-- The last digits of a number, so many that they fill the width. -/
def padded : Nat → Nat → List Char
  | 0, _ => []
  | width + 1, number => padded width (number / 10) ++ [Nat.digitChar (number % 10)]

theorem padded_length (width number : Nat) : (padded width number).length = width := by
  induction width generalizing number with
  | zero => rfl
  | succ width ih => rw [padded, List.length_append, ih, List.length_singleton]

/-- Behind parts of one length a text is decided by what follows where these are equal. -/
theorem append_lt_append {first second : List Char} (same : first.length = second.length) {rest rest' : List Char} :
    first ++ rest < second ++ rest' ↔ first < second ∨ first = second ∧ rest < rest' := by
  induction first generalizing second with
  | nil =>
    obtain rfl := List.length_eq_zero_iff.mp same.symm
    simp
  | cons c first ih =>
    cases second with
    | nil => cases same
    | cons d second =>
      rw [List.cons_append, List.cons_append, List.cons_lt_cons_iff, List.cons_lt_cons_iff, ih (Nat.succ.inj same), List.cons.injEq]
      constructor
      · intro before
        rcases before with before | ⟨equal, before | ⟨equal', before⟩⟩
        · exact Or.inl (Or.inl before)
        · exact Or.inl (Or.inr ⟨equal, before⟩)
        · exact Or.inr ⟨⟨equal, equal'⟩, before⟩
      · intro before
        rcases before with (before | ⟨equal, before⟩) | ⟨⟨equal, equal'⟩, before⟩
        · exact Or.inl before
        · exact Or.inr ⟨equal, Or.inl before⟩
        · exact Or.inr ⟨equal, Or.inr ⟨equal', before⟩⟩

theorem digitChar_lt : ∀ {lesser greater : Nat}, lesser < 10 → greater < 10 →
    (Nat.digitChar lesser < Nat.digitChar greater ↔ lesser < greater) := by
  have all : ∀ lesser < 10, ∀ greater < 10, (Nat.digitChar lesser < Nat.digitChar greater ↔ lesser < greater) := by decide
  intro lesser greater small small'
  exact all lesser small greater small'

theorem digitChar_inj : ∀ {first second : Nat}, first < 10 → second < 10 → Nat.digitChar first = Nat.digitChar second → first = second := by
  have all : ∀ first < 10, ∀ second < 10, Nat.digitChar first = Nat.digitChar second → first = second := by decide
  intro first second small small'
  exact all first small second small'

theorem padded_inj {width first second : Nat} (fits : first < 10 ^ width) (fits' : second < 10 ^ width)
    (same : padded width first = padded width second) : first = second := by
  induction width generalizing first second with
  | zero => omega
  | succ width ih =>
    rw [Nat.pow_succ] at fits fits'
    obtain ⟨leading, last⟩ := List.append_inj' same rfl
    have tens := ih (by omega) (by omega) leading
    have units := digitChar_inj (by omega) (by omega) (List.cons.inj last).1
    omega

/-- Texts of one width stand in the order of their numbers. -/
theorem padded_lt {width lesser greater : Nat} (fits : lesser < 10 ^ width) (fits' : greater < 10 ^ width) :
    padded width lesser < padded width greater ↔ lesser < greater := by
  induction width generalizing lesser greater with
  | zero => simp [padded]; omega
  | succ width ih =>
    rw [Nat.pow_succ] at fits fits'
    have tens : lesser / 10 < 10 ^ width := by omega
    have tens' : greater / 10 < 10 ^ width := by omega
    have same : padded width (lesser / 10) = padded width (greater / 10) ↔ lesser / 10 = greater / 10 :=
      ⟨padded_inj tens tens', congrArg (padded width)⟩
    have units : [Nat.digitChar (lesser % 10)] < [Nat.digitChar (greater % 10)] ↔ lesser % 10 < greater % 10 := by
      rw [List.cons_lt_cons_iff, digitChar_lt (by omega) (by omega)]
      simp
    rw [padded, padded, append_lt_append (by rw [padded_length, padded_length]), ih tens tens', same, units]
    omega

/-- Zeros in front of a number's digits fill the width. -/
theorem padded_toDigits {width number : Nat} (positive : 0 < width) (fits : number < 10 ^ width) :
    List.replicate (width - (Nat.toDigits 10 number).length) '0' ++ Nat.toDigits 10 number = padded width number := by
  induction width generalizing number with
  | zero => cases positive
  | succ width ih =>
    rw [padded, Nat.toDigits_eq_if (by decide)]
    have zero (width : Nat) : padded width 0 = List.replicate width '0' := by
      induction width with
      | zero => rfl
      | succ width ih => rw [padded, Nat.zero_div, ih, List.replicate_succ']; rfl
    split
    next small =>
      rw [Nat.div_eq_of_lt small, Nat.mod_eq_of_lt small, zero]
      rfl
    next large =>
      rw [Nat.pow_succ] at fits
      have wide : 0 < width := by
        refine Nat.pos_of_ne_zero fun none => ?_
        subst none
        omega
      rw [← ih wide (by omega), List.length_append, List.length_singleton, Nat.add_sub_add_right, List.append_assoc]

/-- Numbers in fields of fixed width, each with a mark behind it. -/
def written : List (Nat × Char) → List Nat → List Char
  | (width, mark) :: shape, number :: numbers => padded width number ++ mark :: written shape numbers
  | _, _ => []

/-- The numbers fill the fields and fit them. -/
inductive Fits : List (Nat × Char) → List Nat → Prop
  | nil : Fits [] []
  | cons {width : Nat} {mark : Char} {shape : List (Nat × Char)} {number : Nat} {numbers : List Nat}
      (fits : number < 10 ^ width) (others : Fits shape numbers) : Fits ((width, mark) :: shape) (number :: numbers)

/-- Fields of fixed width stand in the order of their numbers. -/
theorem written_lt {shape : List (Nat × Char)} {first second : List Nat} (fits : Fits shape first) (fits' : Fits shape second) :
    written shape first < written shape second ↔ first < second := by
  induction fits generalizing second with
  | nil =>
    cases fits'
    simp [written]
  | @cons width mark shape number numbers bound others ih =>
    cases fits' with
    | @cons _ _ _ number' numbers' bound' others' =>
      have same : padded width number = padded width number' ↔ number = number' :=
        ⟨padded_inj bound bound', congrArg (padded width)⟩
      rw [written, written, append_lt_append (by rw [padded_length, padded_length]), padded_lt bound bound', same,
        List.cons_lt_cons_iff, List.cons_lt_cons_iff, ih others']
      simp

end FixedWidth
end Decimal
