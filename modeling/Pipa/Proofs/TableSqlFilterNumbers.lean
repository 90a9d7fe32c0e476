import Pipa.TableSqlFilter

/-! The number pattern of the frontend and the hand-written scanner of the backend accept
the same texts. -/

namespace Pipa.TableSql
open ColumnPatterns Regex TableFilter

def isSign (c : Char) : Bool := c == '+' || c == '-'

/-- An expression none of whose words begins with a sign, behind an optional sign. -/
theorem spells_signed {regex : Regex} (unsigned : ∀ {word}, Spells regex word → stripSign word = word) {word : List Char} :
    Spells (.seq (.optional (.char isSign)) regex) word ↔ Spells regex (stripSign word) := by
  rw [spells_seq]
  constructor
  · rintro ⟨sign, rest, signed, spells, rfl⟩
    rcases spells_optional.mp signed with signed | rfl
    · obtain ⟨c, mark, rfl⟩ := spells_char.mp signed
      simp only [isSign, Bool.or_eq_true, beq_iff_eq] at mark
      rw [List.singleton_append, stripSign, if_pos mark]
      exact spells
    · rwa [List.nil_append, unsigned spells]
  · intro spells
    cases word with
    | nil => exact ⟨[], [], spells_optional.mpr (Or.inr rfl), spells, rfl⟩
    | cons c rest =>
      rw [stripSign] at spells
      by_cases mark : c = '+' ∨ c = '-'
      · rw [if_pos mark] at spells
        refine ⟨[c], rest, spells_optional.mpr (Or.inl (.char ?_)), spells, rfl⟩
        rcases mark with rfl | rfl <;> rfl
      · rw [if_neg mark] at spells
        exact ⟨[], c :: rest, spells_optional.mpr (Or.inr rfl), spells, rfl⟩

theorem digit_unsigned {c : Char} (digit : c.isDigit = true) : ¬ (c = '+' ∨ c = '-') := by
  rintro (rfl | rfl) <;> cases digit

theorem digit_pointless {c : Char} (digit : c.isDigit = true) : (c != '.') = true := by
  rw [bne_iff_ne]
  rintro rfl
  cases digit

/-- Digits, with a point in front of them, behind them or among them. -/
def mantissa : Regex :=
  .alt (.seq (.plus (.char Char.isDigit)) (.optional (.seq (symbol '.') (.star (.char Char.isDigit)))))
    (.seq (symbol '.') (.plus (.char Char.isDigit)))

/-- The scanner's check of a mantissa. -/
def isMantissa (text : List Char) : Bool :=
  let integerPart := text.takeWhile (· != '.')
  let integerDigits := integerPart.all Char.isDigit
  match text.dropWhile (· != '.') with
  | _ :: fraction => integerDigits && fraction.all Char.isDigit && (!integerPart.isEmpty || !fraction.isEmpty)
  | [] => integerDigits && !integerPart.isEmpty

theorem spells_point {word : List Char} : Spells (symbol '.') word ↔ word = ['.'] := by
  rw [symbol, spells_char]
  constructor
  · rintro ⟨c, same, rfl⟩
    rw [eq_of_beq same]
  · rintro rfl
    exact ⟨'.', rfl, rfl⟩

theorem isMantissa_whole {whole : List Char} (digits : ∀ c ∈ whole, c.isDigit = true) :
    isMantissa whole = !whole.isEmpty := by
  have taken : whole.takeWhile (· != '.') = whole := List.takeWhile_eq_self_iff.mpr fun c member => digit_pointless (digits c member)
  have left : whole.dropWhile (· != '.') = [] := List.dropWhile_eq_nil_iff.mpr fun c member => digit_pointless (digits c member)
  rw [isMantissa, left, taken]
  simp only [List.all_eq_true.mpr digits, Bool.true_and]

theorem isMantissa_pointed {whole : List Char} (digits : ∀ c ∈ whole, c.isDigit = true) (fraction : List Char) :
    isMantissa (whole ++ '.' :: fraction) = (fraction.all Char.isDigit && (!whole.isEmpty || !fraction.isEmpty)) := by
  have plain : ∀ c ∈ whole, (c != '.') = true := fun c member => digit_pointless (digits c member)
  have taken : (whole ++ '.' :: fraction).takeWhile (· != '.') = whole := by
    rw [List.takeWhile_append_of_pos plain]
    simp
  have left : (whole ++ '.' :: fraction).dropWhile (· != '.') = '.' :: fraction := by
    rw [List.dropWhile_append_of_pos plain]
    simp
  rw [isMantissa, left, taken]
  simp only [List.all_eq_true.mpr digits, Bool.true_and]

theorem spells_mantissa {text : List Char} : Spells mantissa text ↔ isMantissa text = true := by
  constructor
  · intro spells
    rcases spells_alt.mp spells with spells | spells
    · obtain ⟨whole, more, plain, pointed, rfl⟩ := spells_seq.mp spells
      obtain ⟨nonempty, digits⟩ := spells_plus.mp plain
      rcases spells_optional.mp pointed with pointed | rfl
      · obtain ⟨point, fraction, dot, rest, rfl⟩ := spells_seq.mp pointed
        rw [spells_point.mp dot, List.singleton_append, isMantissa_pointed digits]
        simp [List.all_eq_true.mpr (spells_star.mp rest), nonempty]
      · rw [List.append_nil, isMantissa_whole digits]
        simp [nonempty]
    · obtain ⟨point, fraction, dot, rest, rfl⟩ := spells_seq.mp spells
      obtain ⟨nonempty, digits⟩ := spells_plus.mp rest
      rw [spells_point.mp dot, List.singleton_append]
      have pointed := @isMantissa_pointed [] (by simp) fraction
      rw [List.nil_append] at pointed
      rw [pointed]
      simp [List.all_eq_true.mpr digits, nonempty]
  · intro accepted
    have parted := @List.takeWhile_append_dropWhile _ (· != '.') text
    rw [isMantissa] at accepted
    cases tail : text.dropWhile (· != '.') with
    | nil =>
      rw [tail, List.append_nil] at parted
      rw [tail, parted] at accepted
      simp only [Bool.and_eq_true, Bool.not_eq_true', List.isEmpty_eq_false_iff] at accepted
      refine .left (spells_seq.mpr ⟨text, [], spells_plus.mpr ⟨accepted.2, List.all_eq_true.mp accepted.1⟩,
        spells_optional.mpr (Or.inr rfl), (List.append_nil _).symm⟩)
    | cons point fraction =>
      have dot : point = '.' := by
        have first := List.head_dropWhile_not (· != '.') (show text.dropWhile (· != '.') ≠ [] by rw [tail]; exact List.cons_ne_nil _ _)
        simpa [tail] using first
      rw [tail] at accepted parted
      simp only [Bool.and_eq_true, Bool.or_eq_true, Bool.not_eq_true', List.isEmpty_eq_false_iff] at accepted
      obtain ⟨⟨integer, fractional⟩, some_digit⟩ := accepted
      rw [← parted, dot]
      have rest : Spells (.star (.char Char.isDigit)) fraction := spells_star.mpr (List.all_eq_true.mp fractional)
      by_cases whole : text.takeWhile (· != '.') = []
      · rw [whole, List.nil_append]
        have digits := some_digit.resolve_left (absurd whole)
        exact .right (spells_seq.mpr ⟨['.'], fraction, spells_point.mpr rfl,
          spells_plus.mpr ⟨digits, List.all_eq_true.mp fractional⟩, rfl⟩)
      · refine .left (spells_seq.mpr ⟨_, '.' :: fraction, spells_plus.mpr ⟨whole, List.all_eq_true.mp integer⟩,
          spells_optional.mpr (Or.inl (spells_seq.mpr ⟨['.'], fraction, spells_point.mpr rfl, rest, rfl⟩)), rfl⟩)

/-! ### Exponents -/

/-- What a mantissa is made of. -/
def isMark (c : Char) : Bool := !(c == 'e' || c == 'E')

theorem folds_e (c : Char) : folds 'e' c = true ↔ isMark c = false := by
  have other : ('e'.toLower == 's') = false ∧ ('e'.toLower == 'k') = false := ⟨rfl, rfl⟩
  rw [folds, other.1, other.2, Bool.false_and, Bool.false_and, Bool.or_false, Bool.or_false, beq_iff_eq, isMark,
    Bool.not_eq_false', Bool.or_eq_true, beq_iff_eq, beq_iff_eq]
  constructor
  · intro same
    have codes := congrArg Char.toNat same
    rw [toLower_toNat, toLower_toNat] at codes
    have lower : ¬ (65 ≤ 'e'.toNat ∧ 'e'.toNat ≤ 90) := by decide
    have known : c.toNat = 'e'.toNat ∨ c.toNat = 'E'.toNat := by
      rw [if_neg lower] at codes
      change 101 = _ at codes
      change c.toNat = 101 ∨ c.toNat = 69
      split at codes <;> omega
    exact known.imp Char.toNat_inj.mp Char.toNat_inj.mp
  · rintro (rfl | rfl) <;> rfl

/-- The digits behind an exponent's mark. -/
def isExponent (signed : List Char) : Bool := !(stripSign signed).isEmpty && (stripSign signed).all Char.isDigit

theorem spells_exponent {signed : List Char} :
    Spells (.seq (.optional (.char isSign)) (.plus (.char Char.isDigit))) signed ↔ isExponent signed = true := by
  have unsigned {word : List Char} (spells : Spells (.plus (.char Char.isDigit)) word) : stripSign word = word := by
    obtain ⟨nonempty, digits⟩ := spells_plus.mp spells
    obtain ⟨c, rest, rfl⟩ := List.exists_cons_of_ne_nil nonempty
    rw [stripSign, if_neg (digit_unsigned (digits c List.mem_cons_self))]
  rw [spells_signed unsigned, spells_plus, isExponent]
  simp

/-- A mantissa and the exponent that may follow it. -/
def unsignedNumber : Regex :=
  .seq mantissa (.optional (.seq (.char (folds 'e')) (.seq (.optional (.char isSign)) (.plus (.char Char.isDigit)))))

theorem mantissa_marks {text : List Char} (spells : Spells mantissa text) : ∀ c ∈ text, c.isDigit = true ∨ c = '.' := by
  have digit : ∀ c, c.isDigit = true → c.isDigit = true ∨ c = '.' := fun _ => Or.inl
  have point : ∀ c, (c == '.') = true → c.isDigit = true ∨ c = '.' := fun _ same => Or.inr (eq_of_beq same)
  exact spells.within ⟨⟨⟨digit, digit⟩, ⟨point, digit⟩, trivial⟩, point, digit, digit⟩

theorem mantissa_unsigned {text : List Char} (spells : Spells mantissa text) (behind : List Char) :
    stripSign (text ++ behind) = text ++ behind := by
  cases text with
  | nil => cases spells_mantissa.mp spells
  | cons c text =>
    have unsigned : ¬ (c = '+' ∨ c = '-') := by
      rcases mantissa_marks spells c List.mem_cons_self with digit | rfl
      · exact digit_unsigned digit
      · decide
    rw [List.cons_append, stripSign, if_neg unsigned]

theorem unsignedNumber_unsigned {text : List Char} (spells : Spells unsignedNumber text) : stripSign text = text := by
  obtain ⟨front, behind, former, -, rfl⟩ := spells_seq.mp spells
  exact mantissa_unsigned former behind

theorem spells_unsigned {text : List Char} :
    Spells unsignedNumber text ↔ isMantissa (text.takeWhile isMark) = true ∧
      ∀ mark signed, text.dropWhile isMark = mark :: signed → isExponent signed = true := by
  rw [unsignedNumber, spells_seq]
  constructor
  · rintro ⟨front, behind, spells, exponent, rfl⟩
    have marks : ∀ c ∈ front, isMark c = true := by
      intro c member
      rcases mantissa_marks spells c member with digit | rfl
      · rw [isMark, Bool.not_eq_true']
        refine Bool.eq_false_iff.mpr fun letter => ?_
        simp only [Bool.or_eq_true, beq_iff_eq] at letter
        rcases letter with rfl | rfl <;> cases digit
      · rfl
    rw [List.takeWhile_append_of_pos marks, List.dropWhile_append_of_pos marks]
    rcases spells_optional.mp exponent with exponent | rfl
    · obtain ⟨letter, signed, folded, digits, rfl⟩ := spells_seq.mp exponent
      obtain ⟨c, same, rfl⟩ := spells_char.mp folded
      have stops := (folds_e c).mp same
      rw [List.singleton_append, List.takeWhile_cons_of_neg (Bool.eq_false_iff.mp stops),
        List.dropWhile_cons_of_neg (Bool.eq_false_iff.mp stops), List.append_nil]
      refine ⟨spells_mantissa.mp spells, fun mark signed' split => ?_⟩
      obtain ⟨rfl, rfl⟩ := List.cons.inj split
      exact spells_exponent.mp digits
    · rw [List.takeWhile_nil, List.dropWhile_nil, List.append_nil]
      exact ⟨spells_mantissa.mp spells, fun _ _ impossible => absurd impossible.symm (List.cons_ne_nil _ _)⟩
  · rintro ⟨accepted, exponent⟩
    refine ⟨_, _, spells_mantissa.mpr accepted, ?_, List.takeWhile_append_dropWhile.symm⟩
    cases tail : text.dropWhile isMark with
    | nil => exact spells_optional.mpr (Or.inr rfl)
    | cons mark signed =>
      have stops := List.head_dropWhile_not isMark (show text.dropWhile isMark ≠ [] by rw [tail]; exact List.cons_ne_nil _ _)
      simp only [tail, List.head_cons] at stops
      exact spells_optional.mpr (Or.inl (spells_seq.mpr ⟨[mark], signed, .char ((folds_e mark).mpr stops),
        spells_exponent.mpr (exponent mark signed tail), rfl⟩))

theorem isNumericLiteral_parts (value : String) :
    isNumericLiteral value = true ↔ isMantissa ((stripSign value.toList).takeWhile isMark) = true ∧
      ∀ mark signed, (stripSign value.toList).dropWhile isMark = mark :: signed → isExponent signed = true := by
  have marks : (fun c => !(c == 'e' || c == 'E')) = isMark := rfl
  rw [isNumericLiteral]
  simp only [marks]
  cases (stripSign value.toList).dropWhile isMark with
  | nil => exact ⟨fun valid => ⟨valid, fun _ _ none => by cases none⟩, fun valid => valid.1⟩
  | cons mark signed =>
    rw [Bool.and_eq_true, Bool.and_eq_true]
    constructor
    · rintro ⟨⟨mantissa, some⟩, digits⟩
      refine ⟨mantissa, fun _ _ same => ?_⟩
      obtain ⟨-, rfl⟩ := List.cons.inj same
      rw [isExponent, some, digits, Bool.true_and]
    · rintro ⟨mantissa, exponent⟩
      obtain ⟨some, digits⟩ := Bool.and_eq_true_iff.mp (exponent mark signed rfl)
      exact ⟨⟨mantissa, some⟩, digits⟩

/-- The pattern matches what the scanner accepts. -/
theorem filterNumber_accepts (value : String) : filterNumber.isMatch value.toList = isNumericLiteral value := by
  have plain : scientific.Plain := by
    simp [scientific, number, digits, symbol, Regex.optional, Regex.plus, Plain]
  rw [Bool.eq_iff_iff, filterNumber, isMatch_anchored_iff plain, isNumericLiteral_parts, ← spells_unsigned,
    ← spells_signed unsignedNumber_unsigned]
  exact spells_assoc

end Pipa.TableSql
