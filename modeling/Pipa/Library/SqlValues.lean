import Mathlib.Data.List.Basic
import Pipa.Library.SqlWriting

/-! String literals as MySQL prints them in its own DDL: quotes are doubled, and
backslashes, line breaks and NUL are escaped. -/

namespace MysqlQuotes

def escaped (c : Char) : List Char :=
  if c = '\'' then ['\'', '\'']
  else if c = '\\' then ['\\', '\\']
  else if c = '\x00' then ['\\', '0']
  else if c = '\n' then ['\\', 'n']
  else if c = '\r' then ['\\', 'r']
  else [c]

/-- What stands between the quotes of a literal. -/
def content (text : List Char) : List Char := text.flatMap escaped

def literal (text : List Char) : List Char := '\'' :: (content text ++ ['\''])

/-- The characters that are printed with a backslash. -/
def Escapes (c : Char) : Prop := c = '\\' ∨ c = '\x00' ∨ c = '\n' ∨ c = '\r'

instance (c : Char) : Decidable (Escapes c) := inferInstanceAs (Decidable (_ ∨ _ ∨ _ ∨ _))

/-- Every character is a doubled quote, a backslash with a letter, or itself. -/
theorem escaped_cases (c : Char) : c = '\'' ∧ escaped c = ['\'', '\''] ∨
    (Escapes c ∧ ∃ letter, (c, letter) ∈ [('\\', '\\'), ('\x00', '0'), ('\n', 'n'), ('\r', 'r')] ∧ escaped c = ['\\', letter]) ∨
      c ≠ '\'' ∧ ¬Escapes c ∧ escaped c = [c] := by
  by_cases quote : c = '\''
  · subst c
    exact .inl ⟨rfl, rfl⟩
  by_cases escapes : Escapes c
  · apply Or.inr
    apply Or.inl
    refine ⟨escapes, ?_⟩
    rcases escapes with rfl | rfl | rfl | rfl
    · exact ⟨'\\', by decide, rfl⟩
    · exact ⟨'0', by decide, rfl⟩
    · exact ⟨'n', by decide, rfl⟩
    · exact ⟨'r', by decide, rfl⟩
  · apply Or.inr
    apply Or.inr
    simp only [Escapes, not_or] at escapes
    refine ⟨quote, by simp [Escapes, escapes], ?_⟩
    simp [escaped, quote, escapes]

theorem content_cons (c : Char) (text : List Char) : content (c :: text) = escaped c ++ content text := List.flatMap_cons

end MysqlQuotes

/-! The values of literals: what a server makes of a string in either mode of
backslashes, and the bytes of a hexadecimal literal. -/

namespace SqlValues
open SqlLexer SqlBoolean SqlWriting

/-- The value of a text that is one string literal. -/
def stringValue (escapes : Bool) (text : List Nat) : Option (List Nat) :=
  match tokens ⟨escapes, true⟩ text with
  | some [.string (quote :: body)] => some (content escapes quote body)
  | _ => none

def hexDigit (unit : Nat) : Option Nat :=
  if 48 ≤ unit ∧ unit ≤ 57 then some (unit - 48)
  else if 65 ≤ unit ∧ unit ≤ 70 then some (unit - 55)
  else if 97 ≤ unit ∧ unit ≤ 102 then some (unit - 87)
  else none

/-- Pairs of digits up to the quote that ends the text. -/
def hexPairs : List Nat → Option (List UInt8)
  | [] => none
  | [unit] => if unit = 39 then some [] else none
  | high :: low :: rest => do
    let high ← hexDigit high
    let low ← hexDigit low
    let bytes ← hexPairs rest
    return UInt8.ofNat (high * 16 + low) :: bytes

/-- The bytes of a text that is one hexadecimal literal. -/
def hexValue : List Nat → Option (List UInt8)
  | mark :: quote :: digits => if (mark = 88 ∨ mark = 120) ∧ quote = 39 then hexPairs digits else none
  | _ => none

theorem stringValue_text (escapes : Bool) (text : List Nat) :
    stringValue escapes (stringText text) = some (content escapes 39 (doubled true 39 text ++ [39])) := by
  have read := (@reads_string ⟨escapes, true⟩ text).whole
  rw [stringValue, stringText, read]

/-- A string with doubled backslashes is its text in the default mode. -/
theorem stringValue_escapes (text : List Nat) : stringValue true (stringText text) = some text := by
  rw [stringValue_text, content_doubled]

theorem doubled_eq_self {unit : Nat} {text : List Nat} : doubled false unit text = text ↔ unit ∉ text := by
  constructor
  · intro same member
    have longer : ∀ others : List Nat, others.length ≤ (doubled false unit others).length := by
      intro others
      induction others with
      | nil => exact Nat.le_refl 0
      | cons other others ih =>
        rw [doubled, List.flatMap_cons, List.length_append, List.length_cons]
        rw [doubled] at ih
        split <;> simp only [List.length_cons, List.length_nil] <;> omega
    obtain ⟨front, behind, rfl⟩ := List.append_of_mem member
    have lengths := congrArg List.length same
    have short := longer front
    have short' := longer behind
    rw [doubled] at lengths short short'
    simp only [List.flatMap_append, List.flatMap_cons, List.length_append, List.length_cons, true_or, if_true,
      List.length_nil] at lengths
    omega
  · intro absent
    rw [doubled, List.flatMap_congr (g := fun other => [other]), List.flatMap_singleton']
    intro other member
    refine if_neg fun special => ?_
    obtain rfl | ⟨never, -⟩ := special
    · exact absent member
    · cases never

/-- Without escapes it is its text exactly if that has no backslash. -/
theorem stringValue_plain_iff (text : List Nat) : stringValue false (stringText text) = some text ↔ 92 ∉ text := by
  rw [stringValue_text, content_backslashes, Option.some_inj, doubled_eq_self]

end SqlValues
