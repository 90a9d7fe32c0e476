import Pipa.Proofs.SqlTextUnits
import Pipa.TableFilter

/-! The operands of a table filter: what the quoting functions write, and which
literal a user's text becomes. -/

namespace Pipa.TableFilter
open SqlLexer SqlBoolean SqlWriting

/-! ### Numerals -/

private theorem digits_units {text : List Char} (digits : text.all Char.isDigit = true) :
    ∀ unit ∈ text.map Char.toNat, isDigit unit = true := by
  intro unit listed
  obtain ⟨c, inside, rfl⟩ := List.mem_map.mp listed
  exact digit_units (List.all_eq_true.mp digits c inside)

/-- The point of a mantissa and what stands around it. -/
private theorem mantissa_units {mantissa : List Char}
    (valid : (match mantissa.dropWhile (· != '.') with
      | _ :: fraction => (mantissa.takeWhile (· != '.')).all Char.isDigit && fraction.all Char.isDigit &&
          (!(mantissa.takeWhile (· != '.')).isEmpty || !fraction.isEmpty)
      | [] => (mantissa.takeWhile (· != '.')).all Char.isDigit && !(mantissa.takeWhile (· != '.')).isEmpty) = true) :
    ∃ whole pointed, mantissa.map Char.toNat = whole ++ pointed ∧ (∀ unit ∈ whole, isDigit unit = true) ∧
      (pointed = [] ∨ ∃ digits, pointed = 46 :: digits ∧ ∀ unit ∈ digits, isDigit unit = true) ∧
      (whole ≠ [] ∨ startsWith isDigit pointed.tail = true) := by
  have parted := @List.takeWhile_append_dropWhile _ (· != '.') mantissa
  cases tail : mantissa.dropWhile (· != '.') with
  | nil =>
    simp only [tail, Bool.and_eq_true] at valid
    rw [tail, List.append_nil] at parted
    rw [parted] at valid
    refine ⟨mantissa.map Char.toNat, [], by simp, digits_units valid.1, Or.inl rfl, Or.inl ?_⟩
    simpa using valid.2
  | cons point fraction =>
    simp only [tail, Bool.and_eq_true] at valid
    obtain ⟨⟨integer, fractional⟩, some_digit⟩ := valid
    have pointed : point = '.' := by
      have first := List.head_dropWhile_not (· != '.') (show mantissa.dropWhile (· != '.') ≠ [] by rw [tail]; exact List.cons_ne_nil _ _)
      simpa [tail] using first
    subst pointed
    refine ⟨(mantissa.takeWhile (· != '.')).map Char.toNat, 46 :: fraction.map Char.toNat, ?_, digits_units integer,
      Or.inr ⟨_, rfl, digits_units fractional⟩, ?_⟩
    · have mapped := congrArg (List.map Char.toNat) parted
      rw [tail, List.map_append] at mapped
      exact mapped.symm
    · cases fraction with
      | nil => exact Or.inl (by simpa using some_digit)
      | cons digit fraction => exact Or.inr (digits_units fractional digit.toNat (by simp))

/-- A sign, or none, and the rest of a number. -/
def signedNumber : List Nat → Literal
  | [] => .number none []
  | sign :: rest => if sign = 43 ∨ sign = 45 then .number (some sign) rest else .number none (sign :: rest)

theorem signedNumber_text (text : List Nat) : literalText (signedNumber text) = text := by
  cases text with
  | nil => rfl
  | cons sign rest =>
    rw [signedNumber]
    split <;> rfl

theorem stripSign_units (text : List Char) :
    ∃ sign, signedNumber (text.map Char.toNat) = .number sign ((stripSign text).map Char.toNat) ∧
      (∀ unit ∈ sign, unit = 43 ∨ unit = 45) ∧ text.map Char.toNat = sign.toList ++ (stripSign text).map Char.toNat := by
  cases text with
  | nil => exact ⟨none, rfl, by simp, rfl⟩
  | cons c text =>
    have plus : (c.toNat = 43) = (c = '+') := propext (@Char.toNat_inj c '+')
    have minus : (c.toNat = 45) = (c = '-') := propext (@Char.toNat_inj c '-')
    by_cases signed : c = '+' ∨ c = '-'
    · exact ⟨some c.toNat, by simp [signedNumber, stripSign, plus, minus, signed], by simp [plus, minus, signed],
        by simp [stripSign, signed]⟩
    · exact ⟨none, by simp [signedNumber, stripSign, plus, minus, signed], by simp, by simp [stripSign, signed]⟩

/-- A text accepted as a number is a sign, or none, and a numeral. -/
theorem isNumericLiteral_proper {value : String} (accepted : isNumericLiteral value = true) :
    ProperLiteral (signedNumber (units value)) := by
  obtain ⟨sign, same, signed, -⟩ := stripSign_units value.toList
  rw [units, same]
  refine .number signed ?_
  simp only [isNumericLiteral] at accepted
  generalize stripSign value.toList = rest at accepted
  have parted := @List.takeWhile_append_dropWhile _ (fun c => !(c == 'e' || c == 'E')) rest
  have mapped := congrArg (List.map Char.toNat) parted
  rw [List.map_append] at mapped
  rw [← mapped]
  cases tail : rest.dropWhile (fun c => !(c == 'e' || c == 'E')) with
  | nil =>
    rw [tail] at accepted
    obtain ⟨whole, pointed, text, digits, point, some_digit⟩ := mantissa_units accepted
    rw [text]
    exact .intro whole pointed [] digits point some_digit (Or.inl rfl)
  | cons mark exponent =>
    rw [tail] at accepted
    simp only [Bool.and_eq_true] at accepted
    obtain ⟨⟨mantissa, nonempty⟩, scale⟩ := accepted
    obtain ⟨whole, pointed, text, digits, point, some_digit⟩ := mantissa_units mantissa
    have marked : mark = 'e' ∨ mark = 'E' := by
      have first := List.head_dropWhile_not (fun c => !(c == 'e' || c == 'E'))
        (show rest.dropWhile (fun c => !(c == 'e' || c == 'E')) ≠ [] by rw [tail]; exact List.cons_ne_nil _ _)
      simp only [tail, List.head_cons, Bool.not_eq_false', Bool.or_eq_true, beq_iff_eq] at first
      exact first
    obtain ⟨sign, -, signed, shape⟩ := stripSign_units exponent
    rw [text, List.map_cons, shape]
    refine .intro whole pointed _ digits point some_digit (Or.inr ⟨mark.toNat, sign.toList, _, rfl, ?_, ?_, ?_, ?_⟩)
    · rcases marked with rfl | rfl <;> decide
    · cases sign with
      | none => exact Or.inl rfl
      | some unit =>
        rcases signed unit rfl with rfl | rfl
        · exact Or.inr (Or.inl rfl)
        · exact Or.inr (Or.inr rfl)
    · simpa using nonempty
    · exact digits_units scale

/-! ### Operands -/

/-- The literal that an operand stands for: numeric and temporal columns trim it. -/
def operandLiteral (column : TableFilterColumn) (value : String) : Literal :=
  let baseType := filterBaseType column.columnType
  if numericFilterBaseTypes.contains baseType then signedNumber (units (Text.trim value))
  else if temporalFilterBaseTypes.contains baseType then .string (units (Text.trim value))
  else .string (units value)

end Pipa.TableFilter
