import Pipa.Library.JsonText
import Mathlib.Data.List.Chain
import Mathlib.Data.List.TakeWhile

/-! JSON texts as lexemes with the text they are written in. A text has certain lexemes
exactly if it lays them out with nothing but blanks between them. -/

namespace JsonText

/-- A token and how it is written. -/
structure Lexeme where
  token : Token
  text : List Nat
deriving DecidableEq, Repr

def rawLexeme : Scanner.Reader (Option Lexeme) := fun unit rest =>
  (lexeme unit rest).map fun found =>
    (found.1.map fun token => ⟨token, (unit :: rest).take (rest.length + 1 - found.2.length)⟩, found.2)

def lexemes (text : List Nat) : Option (List Lexeme) := (Scanner.scan rawLexeme text).map List.reduceOption

/-- Brackets, commas and colons. -/
def Token.isMark : Token → Bool
  | .openArray | .closeArray | .openObject | .closeObject | .comma | .colon => true
  | _ => false

def isMarkUnit (unit : Nat) : Bool := [91, 93, 123, 125, 44, 58].contains unit

/-- What follows is the end, a blank or a mark. -/
def Stops (rest : List Nat) : Prop := ∀ unit ∈ rest.head?, isSpace unit = true ∨ isMarkUnit unit = true

/-! ### Numbers -/

def numeralUnit (unit : Nat) : Bool := isDigit unit || unit == 43 || unit == 45 || unit == 46 || unit == 69 || unit == 101

/-- No digit follows. -/
def Undigited (rest : List Nat) : Prop := ∀ unit ∈ rest.head?, isDigit unit = false

theorem undigited_cons {unit : Nat} (other : isDigit unit = false) (rest : List Nat) : Undigited (unit :: rest) := by
  intro first same
  obtain rfl := Option.some.inj same
  exact other

theorem digits_span {digits rest : List Nat} (inside : ∀ unit ∈ digits, isDigit unit = true) (behind : Undigited rest) :
    (digits ++ rest).takeWhile isDigit = digits ∧ (digits ++ rest).dropWhile isDigit = rest := by
  have stops : rest.takeWhile isDigit = [] ∧ rest.dropWhile isDigit = rest := by
    cases rest with
    | nil => exact ⟨rfl, rfl⟩
    | cons unit rest => simp [behind unit rfl]
  rw [List.takeWhile_append_of_pos inside, List.dropWhile_append_of_pos inside, stops.1, stops.2, List.append_nil]
  exact ⟨rfl, rfl⟩

theorem takeWhile_digits (text : List Nat) : ∀ unit ∈ text.takeWhile isDigit, isDigit unit = true :=
  fun _ member => List.mem_takeWhile_imp member

/-- A part of a number, and what it needs behind it to be read alone. -/
structure Part (read : List Nat → Option (List Nat × List Nat)) (before : List Nat → Prop) (part : List Nat) : Prop where
  digits : ∀ unit ∈ part, numeralUnit unit = true
  reads : ∀ rest, before rest → read (part ++ rest) = some (part, rest)

theorem digit_numeral {unit : Nat} (digit : isDigit unit = true) : numeralUnit unit = true := by
  simp [numeralUnit, digit]

theorem integerPart_part {text whole after : List Nat} (read : integerPart text = some (whole, after)) :
    text = whole ++ after ∧ whole ≠ [] ∧ Part integerPart Undigited whole := by
  cases text with
  | nil => cases read
  | cons unit rest =>
    rw [integerPart] at read
    split at read
    next zero =>
      cases read
      refine ⟨rfl, List.cons_ne_nil _ _, ?_, ?_⟩
      · intro other member
        obtain rfl := List.mem_singleton.mp member
        rw [zero]
        rfl
      · intro rest' _
        rw [List.singleton_append, integerPart, if_pos zero]
    next other =>
      split at read
      next digit =>
        cases read
        have inside := takeWhile_digits rest
        refine ⟨by rw [List.cons_append, List.takeWhile_append_dropWhile], List.cons_ne_nil _ _, ?_, ?_⟩
        · intro unit' member
          obtain rfl | later := List.mem_cons.mp member
          · exact digit_numeral digit
          · exact digit_numeral (inside _ later)
        · intro rest' behind
          obtain ⟨taken, left⟩ := digits_span inside behind
          rw [List.cons_append, integerPart, if_neg other, if_pos digit, taken, left]
      next => cases read

/-- Neither a digit nor a point follows. -/
def Unpointed (rest : List Nat) : Prop := Undigited rest ∧ rest.head? ≠ some 46

theorem fractionPart_part {text part after : List Nat} (read : fractionPart text = (part, after)) :
    text = part ++ after ∧ (part = [] ∨ part.head? = some 46) ∧ Part (some ∘ fractionPart) Unpointed part := by
  have nothing (rest : List Nat) (behind : Unpointed rest) : fractionPart rest = ([], rest) := by
    unfold fractionPart
    split
    next => exact absurd rfl behind.2
    next => rfl
  have missing (same : fractionPart text = ([], text)) :
      text = part ++ after ∧ (part = [] ∨ part.head? = some 46) ∧ Part (some ∘ fractionPart) Unpointed part := by
    obtain ⟨rfl, rfl⟩ := Prod.mk.inj (read.symm.trans same)
    refine ⟨rfl, .inl rfl, fun _ member => absurd member List.not_mem_nil, fun rest behind => ?_⟩
    exact congrArg some (nothing rest behind)
  by_cases pointed : ∃ unit rest, text = 46 :: unit :: rest ∧ isDigit unit = true
  · obtain ⟨unit, rest, rfl, digit⟩ := pointed
    rw [fractionPart, if_pos digit] at read
    cases read
    have inside := takeWhile_digits rest
    refine ⟨by simp, .inr rfl, ?_, ?_⟩
    · intro other member
      rcases List.mem_cons.mp member with rfl | member
      · rfl
      rcases List.mem_cons.mp member with rfl | later
      · exact digit_numeral digit
      · exact digit_numeral (inside _ later)
    · intro rest' behind
      obtain ⟨taken, left⟩ := digits_span inside behind.1
      rw [Function.comp_apply, List.cons_append, List.cons_append, fractionPart, if_pos digit, taken, left]
  · refine missing ?_
    unfold fractionPart
    split
    next unit rest => rw [if_neg fun digit => pointed ⟨unit, rest, rfl, digit⟩]
    next => rfl

/-- Nothing follows that goes on with an exponent. -/
def Unscaled (rest : List Nat) : Prop := Undigited rest ∧ rest.head? ≠ some 101 ∧ rest.head? ≠ some 69

theorem exponentPart_part {text part after : List Nat} (read : exponentPart text = (part, after)) :
    text = part ++ after ∧ (part = [] ∨ part.head? = some 101 ∨ part.head? = some 69) ∧
      Part (some ∘ exponentPart) Unscaled part := by
  have nothing (rest : List Nat) (behind : Unscaled rest) : exponentPart rest = ([], rest) := by
    cases rest with
    | nil => rfl
    | cons unit rest =>
      have unmarked : ¬(unit = 101 ∨ unit = 69) := by
        rintro (rfl | rfl)
        · exact behind.2.1 rfl
        · exact behind.2.2 rfl
      simp [exponentPart, unmarked]
  have missing (same : exponentPart text = ([], text)) :
      text = part ++ after ∧ (part = [] ∨ part.head? = some 101 ∨ part.head? = some 69) ∧
        Part (some ∘ exponentPart) Unscaled part := by
    obtain ⟨rfl, rfl⟩ := Prod.mk.inj (read.symm.trans same)
    refine ⟨rfl, .inl rfl, fun _ member => absurd member List.not_mem_nil, fun rest behind => ?_⟩
    exact congrArg some (nothing rest behind)
  cases text with
  | nil => exact missing rfl
  | cons unit rest =>
    by_cases scaled : (unit = 101 ∨ unit = 69) ∧
        (rest.drop ((rest.take 1).filter fun next => next = 43 ∨ next = 45).length).takeWhile isDigit ≠ []
    · rw [exponentPart] at read
      simp only [if_pos scaled] at read
      obtain ⟨rfl, rfl⟩ := Prod.mk.inj read
      obtain ⟨sign, signed, isSign, split⟩ : ∃ sign, ((rest.take 1).filter fun next => next = 43 ∨ next = 45) = sign ∧
          (sign = [] ∨ sign = [43] ∨ sign = [45]) ∧ rest = sign ++ rest.drop sign.length := by
        cases rest with
        | nil => exact ⟨[], rfl, .inl rfl, rfl⟩
        | cons next rest =>
          by_cases isSign : next = 43 ∨ next = 45
          · refine ⟨[next], by simp [isSign], .inr ?_, rfl⟩
            rcases isSign with rfl | rfl
            · exact .inl rfl
            · exact .inr rfl
          · exact ⟨[], by simp [isSign], .inl rfl, rfl⟩
      rw [signed] at scaled ⊢
      have inside := takeWhile_digits (rest.drop sign.length)
      refine ⟨?_, ?_, ?_, ?_⟩
      · rw [List.cons_append, List.append_assoc, List.takeWhile_append_dropWhile, ← split]
      · rcases scaled.1 with rfl | rfl
        · exact .inr (.inl rfl)
        · exact .inr (.inr rfl)
      · intro other member
        rcases List.mem_cons.mp member with rfl | member
        · rcases scaled.1 with rfl | rfl
          · rfl
          · rfl
        rcases List.mem_append.mp member with member | later
        · rcases isSign with rfl | rfl | rfl
          · cases member
          · obtain rfl := List.mem_singleton.mp member
            rfl
          · obtain rfl := List.mem_singleton.mp member
            rfl
        · exact digit_numeral (inside _ later)
      · intro rest' behind
        obtain ⟨digits, same⟩ : ∃ digits, (rest.drop sign.length).takeWhile isDigit = digits := ⟨_, rfl⟩
        rw [same] at scaled inside ⊢
        obtain ⟨taken, left⟩ := digits_span inside behind.1
        obtain ⟨digit, more, shape⟩ := List.exists_cons_of_ne_nil scaled.2
        have again : ((sign ++ (digits ++ rest')).take 1).filter (fun next => next = 43 ∨ next = 45) = sign := by
          rcases isSign with rfl | rfl | rfl
          · have first : isDigit digit = true := inside digit (by simp [shape])
            have unsigned : ¬(digit = 43 ∨ digit = 45) := by
              rintro (rfl | rfl) <;> cases first
            simp [shape, unsigned]
          · rfl
          · rfl
        rw [Function.comp_apply, List.cons_append, List.append_assoc, exponentPart]
        simp only [again, List.drop_left, taken, left]
        rw [if_pos ⟨scaled.1, scaled.2⟩]
    · refine missing ?_
      rw [exponentPart]
      simp only [if_neg scaled]

/-- The sign in front of a number. -/
def signOf (text : List Nat) : List Nat := (text.take 1).filter (· = 45)

theorem numeral_eq (text : List Nat) : numeral text = (integerPart (text.drop (signOf text).length)).map fun whole =>
    (signOf text ++ whole.1 ++ (fractionPart whole.2).1 ++ (exponentPart (fractionPart whole.2).2).1,
      (exponentPart (fractionPart whole.2).2).2) := by
  rw [numeral, signOf]
  cases integerPart (text.drop ((text.take 1).filter (· = 45)).length) with
  | none => rfl
  | some whole => rfl

theorem signOf_cases (text : List Nat) : (signOf text = [] ∨ signOf text = [45]) ∧ text = signOf text ++ text.drop (signOf text).length := by
  cases text with
  | nil => exact ⟨.inl rfl, rfl⟩
  | cons unit rest =>
    by_cases minus : unit = 45
    · subst unit
      exact ⟨.inr rfl, rfl⟩
    · have none : signOf (unit :: rest) = [] := by simp [signOf, minus]
      rw [none]
      exact ⟨.inl rfl, rfl⟩

theorem Stops.apart {rest : List Nat} (stops : Stops rest) : Unscaled rest ∧ Unpointed rest := by
  have free (unit : Nat) (stop : isSpace unit = true ∨ isMarkUnit unit = true) :
      isDigit unit = false ∧ unit ≠ 46 ∧ unit ≠ 101 ∧ unit ≠ 69 := by
    have listed : unit ∈ [32, 9, 10, 13] ++ [91, 93, 123, 125, 44, 58] := by
      apply List.mem_append.mpr
      apply stop.imp
      · intro space
        simpa [isSpace, or_assoc] using space
      · intro mark
        simpa [isMarkUnit] using mark
    have all : ∀ unit ∈ [32, 9, 10, 13] ++ [91, 93, 123, 125, 44, 58],
        isDigit unit = false ∧ unit ≠ 46 ∧ unit ≠ 101 ∧ unit ≠ 69 := by decide
    exact all unit listed
  have undigited : Undigited rest := fun unit first => (free unit (stops unit first)).1
  exact ⟨⟨undigited, fun first => (free _ (stops _ first)).2.2.1 rfl, fun first => (free _ (stops _ first)).2.2.2 rfl⟩,
    undigited, fun first => (free _ (stops _ first)).2.1 rfl⟩

/-- A number that was read is read again in front of anything that stops it. -/
theorem numeral_local {text number after : List Nat} (read : numeral text = some (number, after)) :
    text = number ++ after ∧ number ≠ [] ∧ (∀ unit ∈ number, numeralUnit unit = true) ∧
      ∀ rest, Stops rest → numeral (number ++ rest) = some (number, rest) := by
  rw [numeral_eq] at read
  obtain ⟨⟨whole, behind⟩, first, same⟩ := Option.map_eq_some_iff.mp read
  obtain ⟨pointed, behind', second⟩ : ∃ pointed behind', fractionPart behind = (pointed, behind') := ⟨_, _, rfl⟩
  obtain ⟨scaled, behind'', third⟩ : ∃ scaled behind'', exponentPart behind' = (scaled, behind'') := ⟨_, _, rfl⟩
  simp only [second, third] at same
  obtain ⟨rfl, rfl⟩ := Prod.mk.inj same
  obtain ⟨isSign, split⟩ := signOf_cases text
  obtain ⟨sign, isSignOf⟩ : ∃ sign, signOf text = sign := ⟨_, rfl⟩
  rw [isSignOf] at isSign split first ⊢
  obtain ⟨front, nonempty, isWhole⟩ := integerPart_part first
  obtain ⟨rfl, starts, isPointed⟩ := fractionPart_part second
  obtain ⟨rfl, starts', isScaled⟩ := exponentPart_part third
  obtain ⟨unit, more, shape⟩ := List.exists_cons_of_ne_nil nonempty
  have unsigned : unit ≠ 45 := by
    rintro rfl
    rw [front, shape] at first
    cases first
  refine ⟨?_, ?_, ?_, ?_⟩
  · rw [front] at split
    simpa [List.append_assoc] using split
  · simp [nonempty]
  · intro unit member
    simp only [List.mem_append] at member
    rcases member with ((member | member) | member) | member
    · rcases isSign with rfl | rfl
      · cases member
      · obtain rfl := List.mem_singleton.mp member
        rfl
    · exact isWhole.digits unit member
    · exact isPointed.digits unit member
    · exact isScaled.digits unit member
  · intro rest stops
    obtain ⟨unscaled, unpointed⟩ := stops.apart
    have third := Option.some.inj (isScaled.reads rest unscaled)
    have middle : Unpointed (scaled ++ rest) := by
      rcases starts' with rfl | marked
      · exact unpointed
      · obtain ⟨tail, rfl⟩ | ⟨tail, rfl⟩ := marked.imp List.head?_eq_some_iff.mp List.head?_eq_some_iff.mp
        · exact ⟨undigited_cons rfl _, by simp⟩
        · exact ⟨undigited_cons rfl _, by simp⟩
    have second := Option.some.inj (isPointed.reads (scaled ++ rest) middle)
    have early : Undigited (pointed ++ (scaled ++ rest)) := by
      rcases starts with rfl | marked
      · exact middle.1
      · obtain ⟨tail, rfl⟩ := List.head?_eq_some_iff.mp marked
        exact undigited_cons rfl _
    have first := isWhole.reads (pointed ++ (scaled ++ rest)) early
    have signed : signOf (sign ++ (whole ++ (pointed ++ (scaled ++ rest)))) = sign := by
      rcases isSign with rfl | rfl
      · simp [signOf, shape, unsigned]
      · rfl
    rw [List.append_assoc, List.append_assoc, List.append_assoc, numeral_eq, signed, List.drop_left, first]
    simp only [Option.map_some, second, third]

/-! ### Strings -/

/-- What stands between the quotes of a string with these units. -/
inductive Body : List Nat → List Nat → Prop where
  | nil : Body [] []
  | unicode {first second third fourth unit : Nat} {body units : List Nat} (hex : hexUnit first second third fourth = some unit)
      (behind : Body body units) : Body (92 :: 117 :: first :: second :: third :: fourth :: body) (unit :: units)
  | escape {letter unit : Nat} {body units : List Nat} (means : escaped letter = some unit) (behind : Body body units) :
      Body (92 :: letter :: body) (unit :: units)
  | plain {unit : Nat} {body units : List Nat} (visible : 32 ≤ unit) (unquoted : unit ≠ 34) (bare : unit ≠ 92)
      (behind : Body body units) : Body (unit :: body) (utf16 unit ++ units)

theorem Body.reads {body units : List Nat} (isBody : Body body units) (rest : List Nat) :
    closeString (body ++ 34 :: rest) = some (units, rest) := by
  induction isBody with
  | nil => rw [List.nil_append, closeString]
  | unicode hex behind ih =>
    simp only [List.cons_append, closeString, hex, ih]
    rfl
  | @escape letter unit body units means behind ih =>
    have other : letter ≠ 117 := by
      rintro rfl
      cases means
    rw [List.cons_append, List.cons_append, closeString]
    · rw [means, ih]
      rfl
    · intro first second third fourth rest same
      exact absurd same other
  | plain visible unquoted bare behind ih =>
    rw [List.cons_append, closeString]
    · rw [if_neg (Nat.not_lt.mpr visible), ih]
      rfl
    · exact unquoted
    · exact fun same => absurd same bare
    · exact fun first second third fourth rest same => absurd same bare
    · exact fun letter rest same => absurd same bare

theorem hexDigit_visible {unit value : Nat} (digit : hexDigit unit = some value) : 32 ≤ unit := by
  by_contra hidden
  rw [hexDigit, if_neg (by omega), if_neg (by omega), if_neg (by omega)] at digit
  cases digit

theorem escaped_visible {letter unit : Nat} (means : escaped letter = some unit) : 32 ≤ letter := by
  by_contra hidden
  rw [escaped, if_neg (by omega), if_neg (by omega), if_neg (by omega), if_neg (by omega), if_neg (by omega),
    if_neg (by omega)] at means
  cases means

theorem hexUnit_visible {first second third fourth unit : Nat} (hex : hexUnit first second third fourth = some unit) :
    32 ≤ first ∧ 32 ≤ second ∧ 32 ≤ third ∧ 32 ≤ fourth := by
  obtain ⟨_, here, hex⟩ := Option.bind_eq_some_iff.mp hex
  obtain ⟨_, secondHere, hex⟩ := Option.bind_eq_some_iff.mp hex
  obtain ⟨_, thirdHere, hex⟩ := Option.bind_eq_some_iff.mp hex
  obtain ⟨_, fourthHere, hex⟩ := Option.bind_eq_some_iff.mp hex
  exact ⟨hexDigit_visible here, hexDigit_visible secondHere, hexDigit_visible thirdHere, hexDigit_visible fourthHere⟩

/-- A string holds no control characters. -/
theorem Body.visible {body units : List Nat} (isBody : Body body units) : ∀ unit ∈ body, 32 ≤ unit := by
  induction isBody with
  | nil => exact fun _ member => absurd member List.not_mem_nil
  | unicode hex behind ih =>
    obtain ⟨first, second, third, fourth⟩ := hexUnit_visible hex
    simp only [List.forall_mem_cons]
    exact ⟨by decide, by decide, first, second, third, fourth, ih⟩
  | escape means behind ih =>
    simp only [List.forall_mem_cons]
    exact ⟨by decide, escaped_visible means, ih⟩
  | plain visible unquoted bare behind ih => exact List.forall_mem_cons.mpr ⟨visible, ih⟩

/-- A string that is closed has such a body. -/
theorem body_of_closed {text units after : List Nat} (closed : closeString text = some (units, after)) :
    ∃ body, text = body ++ 34 :: after ∧ Body body units := by
  fun_induction closeString text generalizing units with
  | case1 => cases closed
  | case2 after =>
    cases closed
    exact ⟨[], rfl, .nil⟩
  | case3 => cases closed
  | case4 first second third fourth rest ih =>
    obtain ⟨unit, hex, closed⟩ := Option.bind_eq_some_iff.mp closed
    obtain ⟨⟨later, behind⟩, inside, same⟩ := Option.bind_eq_some_iff.mp closed
    cases same
    obtain ⟨body, rfl, isBody⟩ := ih inside
    exact ⟨_, rfl, .unicode hex isBody⟩
  | case5 letter rest other ih =>
    obtain ⟨unit, means, closed⟩ := Option.bind_eq_some_iff.mp closed
    obtain ⟨⟨later, behind⟩, inside, same⟩ := Option.bind_eq_some_iff.mp closed
    cases same
    obtain ⟨body, rfl, isBody⟩ := ih inside
    exact ⟨_, rfl, .escape means isBody⟩
  | case6 => cases closed
  | case7 unit rest unquoted ended long short visible ih =>
    obtain ⟨⟨later, behind⟩, inside, same⟩ := Option.map_eq_some_iff.mp closed
    cases same
    obtain ⟨body, rfl, isBody⟩ := ih inside
    refine ⟨_, rfl, .plain (Nat.not_lt.mp visible) unquoted ?_ isBody⟩
    rintro rfl
    cases body with
    | nil => exact short 34 after rfl rfl
    | cons first body => exact short first (body ++ 34 :: after) rfl rfl

/-! ### Lexemes and their texts -/

def markOf (unit : Nat) : Option Token :=
  if unit = 91 then some .openArray
  else if unit = 93 then some .closeArray
  else if unit = 123 then some .openObject
  else if unit = 125 then some .closeObject
  else if unit = 44 then some .comma
  else if unit = 58 then some .colon
  else none

/-- The letters of true, false and null. -/
def literalTexts : List (List Nat) := [[116, 114, 117, 101], [102, 97, 108, 115, 101], [110, 117, 108, 108]]

theorem names_eq (text : List Nat) :
    (["true", "false", "null"].findSome? fun name => text.dropPrefix? (name.toList.map Char.toNat)) =
      literalTexts.findSome? fun name => text.dropPrefix? name := by
  have spelled : (["true", "false", "null"].map fun name => name.toList.map Char.toNat) = literalTexts := by decide
  rw [← spelled, List.findSome?_map]
  rfl

/-- The lexemes of JSON as they are written. -/
inductive Proper : Lexeme → Prop where
  | mark {unit : Nat} {token : Token} (marks : markOf unit = some token) : Proper ⟨token, [unit]⟩
  | string {body units : List Nat} (isBody : Body body units) : Proper ⟨.string units, 34 :: (body ++ [34])⟩
  | literal {text : List Nat} (listed : text ∈ literalTexts) : Proper ⟨.literal, text⟩
  | number {text : List Nat} (nonempty : text ≠ []) (part : Part numeral Stops text) : Proper ⟨.number text, text⟩

theorem markOf_cases {unit : Nat} {token : Token} (marks : markOf unit = some token) :
    (unit, token) ∈ [(91, .openArray), (93, .closeArray), (123, .openObject), (125, .closeObject), (44, .comma), (58, .colon)] := by
  rw [markOf] at marks
  split at marks
  next same => subst same; cases marks; decide
  split at marks
  next same => subst same; cases marks; decide
  split at marks
  next same => subst same; cases marks; decide
  split at marks
  next same => subst same; cases marks; decide
  split at marks
  next same => subst same; cases marks; decide
  split at marks
  next same => subst same; cases marks; decide
  cases marks

theorem lexeme_mark {unit : Nat} {token : Token} (marks : markOf unit = some token) (rest : List Nat) :
    lexeme unit rest = some (some token, rest) ∧ token.isMark = true ∧ isMarkUnit unit = true := by
  have listed := markOf_cases marks
  simp only [List.mem_cons, List.not_mem_nil, or_false, Prod.mk.injEq] at listed
  rcases listed with ⟨rfl, rfl⟩ | ⟨rfl, rfl⟩ | ⟨rfl, rfl⟩ | ⟨rfl, rfl⟩ | ⟨rfl, rfl⟩ | ⟨rfl, rfl⟩
  all_goals exact ⟨rfl, rfl, rfl⟩

theorem lexeme_string {body units : List Nat} (isBody : Body body units) (rest : List Nat) :
    lexeme 34 (body ++ 34 :: rest) = some (some (.string units), rest) := by
  have closed := isBody.reads rest
  simp [lexeme, isSpace, closed]

theorem lexeme_literal {text : List Nat} (listed : text ∈ literalTexts) (rest : List Nat) :
    ∃ unit piece, text = unit :: piece ∧ lexeme unit (piece ++ rest) = some (some .literal, rest) := by
  simp only [literalTexts, List.mem_cons, List.not_mem_nil, or_false] at listed
  rcases listed with rfl | rfl | rfl
  all_goals
    refine ⟨_, _, rfl, ?_⟩
    rw [lexeme, names_eq]
    simp [isSpace, literalTexts, List.findSome?, List.dropPrefix?]

/-- A character of a number begins nothing but a number. -/
theorem lexeme_number {unit : Nat} (inside : numeralUnit unit = true) (rest : List Nat) :
    lexeme unit rest = (numeral (unit :: rest)).map fun found => (some (.number found.1), found.2) := by
  have kind : unit ≠ 32 ∧ unit ≠ 9 ∧ unit ≠ 10 ∧ unit ≠ 13 ∧ unit ≠ 91 ∧ unit ≠ 93 ∧ unit ≠ 123 ∧ unit ≠ 125 ∧ unit ≠ 44 ∧
      unit ≠ 58 ∧ unit ≠ 34 ∧ unit ≠ 116 ∧ unit ≠ 102 ∧ unit ≠ 110 := by
    simp only [numeralUnit, isDigit, Bool.or_eq_true, Bool.and_eq_true, decide_eq_true_eq, beq_iff_eq] at inside
    omega
  have unnamed : (literalTexts.findSome? fun name => (unit :: rest).dropPrefix? name) = none := by
    simp [literalTexts, List.findSome?, List.dropPrefix?, kind]
  rw [lexeme, names_eq, unnamed]
  simp [isSpace, kind]

/-- What was read is a blank or a lexeme with its text. -/
theorem lexeme_cases {unit : Nat} {rest after : List Nat} {token : Option Token} (read : lexeme unit rest = some (token, after)) :
    isSpace unit = true ∧ token = none ∧ after = rest ∨
      ∃ written, Proper written ∧ token = some written.token ∧ unit :: rest = written.text ++ after := by
  by_cases space : isSpace unit = true
  · rw [lexeme, if_pos space] at read
    cases read
    exact .inl ⟨space, rfl, rfl⟩
  apply Or.inr
  cases marks : markOf unit with
  | some kind =>
    cases read.symm.trans (lexeme_mark marks rest).1
    exact ⟨⟨kind, [unit]⟩, .mark marks, rfl, rfl⟩
  | none =>
    have other : unit ≠ 91 ∧ unit ≠ 93 ∧ unit ≠ 123 ∧ unit ≠ 125 ∧ unit ≠ 44 ∧ unit ≠ 58 := by
      refine ⟨?_, ?_, ?_, ?_, ?_, ?_⟩
      all_goals
        rintro rfl
        cases marks
    rw [lexeme, if_neg space, if_neg other.1, if_neg other.2.1, if_neg other.2.2.1, if_neg other.2.2.2.1,
      if_neg other.2.2.2.2.1, if_neg other.2.2.2.2.2, names_eq] at read
    split at read
    next quote =>
      obtain ⟨⟨units, behind⟩, closed, same⟩ := Option.map_eq_some_iff.mp read
      cases same
      obtain ⟨body, rfl, isBody⟩ := body_of_closed closed
      exact ⟨_, .string isBody, rfl, by simp [quote]⟩
    next =>
      split at read
      next behind found =>
        cases read
        obtain ⟨name, listed, dropped⟩ := List.exists_of_findSome?_eq_some found
        obtain ⟨front, whole, same⟩ := List.dropPrefix?_eq_some_iff.mp dropped
        obtain rfl := eq_of_beq same
        exact ⟨⟨.literal, front⟩, .literal listed, rfl, whole⟩
      next =>
        obtain ⟨⟨number, behind⟩, isNumber, same⟩ := Option.map_eq_some_iff.mp read
        cases same
        obtain ⟨whole, nonempty, inside, again⟩ := numeral_local isNumber
        exact ⟨⟨.number number, number⟩, .number nonempty ⟨inside, again⟩, rfl, whole⟩

theorem rawLexeme_cases {unit : Nat} {rest after : List Nat} {found : Option Lexeme}
    (read : rawLexeme unit rest = some (found, after)) : isSpace unit = true ∧ found = none ∧ after = rest ∨
      ∃ written, Proper written ∧ found = some written ∧ unit :: rest = written.text ++ after := by
  obtain ⟨⟨token, behind⟩, inner, same⟩ := Option.map_eq_some_iff.mp read
  cases same
  obtain ⟨space, rfl, rfl⟩ | ⟨written, proper, rfl, whole⟩ := lexeme_cases inner
  · exact .inl ⟨space, rfl, rfl⟩
  · refine .inr ⟨written, proper, ?_, whole⟩
    have size : rest.length + 1 - behind.length = written.text.length := by
      have length := congrArg List.length whole
      rw [List.length_cons, List.length_append] at length
      omega
    rw [Option.map_some, size, whole, List.take_left]

theorem Proper.nonempty {written : Lexeme} (proper : Proper written) : written.text ≠ [] := by
  cases proper with
  | mark marks => exact List.cons_ne_nil _ _
  | string isBody => exact List.cons_ne_nil _ _
  | literal listed =>
    rintro rfl
    exact absurd listed (by decide)
  | number nonempty part => exact nonempty

/-- A mark is read anywhere, and what is no mark in front of a stop. -/
theorem Proper.reads {written : Lexeme} (proper : Proper written) {rest : List Nat} (stops : written.token.isMark = true ∨ Stops rest) :
    ∃ unit piece, written.text = unit :: piece ∧ rawLexeme unit (piece ++ rest) = some (some written, rest) := by
  have whole {unit : Nat} {piece : List Nat} (shape : written.text = unit :: piece)
      (read : lexeme unit (piece ++ rest) = some (some written.token, rest)) :
      ∃ unit piece, written.text = unit :: piece ∧ rawLexeme unit (piece ++ rest) = some (some written, rest) := by
    refine ⟨unit, piece, shape, ?_⟩
    have size : (piece ++ rest).length + 1 - rest.length = (unit :: piece).length := by
      rw [List.length_append, List.length_cons]
      omega
    rw [rawLexeme, read, Option.map_some, Option.map_some, size, ← List.cons_append, List.take_left, ← shape]
  cases proper with
  | mark marks => exact whole rfl (lexeme_mark marks _).1
  | string isBody =>
    refine whole rfl ?_
    rw [List.append_assoc]
    exact lexeme_string isBody rest
  | literal listed =>
    obtain ⟨unit, piece, shape, read⟩ := lexeme_literal listed rest
    exact whole shape read
  | @number text nonempty part =>
    obtain ⟨unit, piece, rfl⟩ := List.exists_cons_of_ne_nil nonempty
    have stop : Stops rest := stops.resolve_left Bool.false_ne_true
    have again := part.reads rest stop
    refine whole rfl ?_
    rw [lexeme_number (part.digits unit List.mem_cons_self), ← List.cons_append, again]
    rfl

/-- Lexemes hold no control characters, blanks of their own or line breaks. -/
theorem Proper.visible {written : Lexeme} (proper : Proper written) : ∀ unit ∈ written.text, 32 ≤ unit := by
  cases proper with
  | mark marks =>
    intro unit member
    obtain rfl := List.mem_singleton.mp member
    by_contra hidden
    simp only [markOf] at marks
    rw [if_neg (by omega), if_neg (by omega), if_neg (by omega), if_neg (by omega), if_neg (by omega), if_neg (by omega)] at marks
    cases marks
  | string isBody =>
    simp only [List.forall_mem_cons, List.forall_mem_append]
    exact ⟨by decide, isBody.visible, by decide, fun _ member => absurd member List.not_mem_nil⟩
  | literal listed =>
    have all : ∀ text ∈ literalTexts, ∀ unit ∈ text, 32 ≤ unit := by decide
    exact all _ listed
  | number nonempty part =>
    intro unit member
    have inside := part.digits unit member
    simp only [numeralUnit, isDigit, Bool.or_eq_true, Bool.and_eq_true, decide_eq_true_eq, beq_iff_eq] at inside
    omega

/-! ### Texts with blanks between their lexemes -/

/-- These lexemes, one after another, with blanks around them. -/
inductive Laid : List Lexeme → List Nat → Prop where
  | nil : Laid [] []
  | blank {written : List Lexeme} {unit : Nat} {text : List Nat} (space : isSpace unit = true) (behind : Laid written text) :
      Laid written (unit :: text)
  | lexeme {first : Lexeme} {written : List Lexeme} {text : List Nat} (proper : Proper first) (behind : Laid written text) :
      Laid (first :: written) (first.text ++ text)

theorem Laid.append {first second : List Lexeme} {front back : List Nat} (laid : Laid first front) (laid' : Laid second back) :
    Laid (first ++ second) (front ++ back) := by
  induction laid with
  | nil => exact laid'
  | blank space behind ih => exact .blank space ih
  | @lexeme first written text proper behind ih =>
    rw [List.cons_append, List.append_assoc]
    exact .lexeme proper ih

theorem laid_single {written : Lexeme} (proper : Proper written) : Laid [written] written.text := by
  have laid := Laid.lexeme proper .nil
  rwa [List.append_nil] at laid

theorem rawLexeme_advances : Scanner.Advances rawLexeme := by
  intro unit rest found after read
  obtain ⟨space, rfl, rfl⟩ | ⟨written, proper, rfl, whole⟩ := rawLexeme_cases read
  · exact Nat.le_refl _
  · have length := congrArg List.length whole
    have nonempty := List.length_pos_iff.mpr proper.nonempty
    rw [List.length_cons, List.length_append] at length
    omega

theorem laid_blanks {blanks : List Nat} (spaces : ∀ unit ∈ blanks, isSpace unit = true) : Laid [] blanks := by
  induction blanks with
  | nil => exact .nil
  | cons unit blanks ih =>
    obtain ⟨first, later⟩ := List.forall_mem_cons.mp spaces
    exact .blank first (ih later)

theorem Laid.intercalate {between : List Lexeme} {separator : List Nat} (laid : Laid between separator)
    {reads : List (List Lexeme)} {texts : List (List Nat)} (each : List.Forall₂ Laid reads texts) :
    Laid (between.intercalate reads) (separator.intercalate texts) := by
  induction each with
  | nil => exact .nil
  | @cons read text reads texts first others ih =>
    cases others with
    | nil =>
      rw [List.intercalate_singleton, List.intercalate_singleton]
      exact first
    | cons second others =>
      rw [List.intercalate_cons_cons, List.intercalate_cons_cons]
      exact (first.append laid).append ih

/-- Blanks behind every line break. -/
def indent (blanks text : List Nat) : List Nat := text.flatMap fun unit => if unit = 10 then unit :: blanks else [unit]

theorem indent_visible (blanks : List Nat) {text : List Nat} (visible : ∀ unit ∈ text, 32 ≤ unit) : indent blanks text = text := by
  induction text with
  | nil => rfl
  | cons unit text ih =>
    obtain ⟨first, later⟩ := List.forall_mem_cons.mp visible
    have other : unit ≠ 10 := by omega
    rw [indent, List.flatMap_cons, if_neg other, ← indent, ih later, List.singleton_append]

/-- Line breaks stand between the lexemes only, so blanks behind them change no lexeme. -/
theorem Laid.indent {written : List Lexeme} {text blanks : List Nat} (laid : Laid written text)
    (spaces : ∀ unit ∈ blanks, isSpace unit = true) : Laid written (indent blanks text) := by
  induction laid with
  | nil => exact .nil
  | @blank written unit text space behind ih =>
    rw [JsonText.indent, List.flatMap_cons, ← JsonText.indent]
    split
    · exact .blank space ((laid_blanks spaces).append ih)
    · exact .blank space ih
  | @lexeme first written text proper behind ih =>
    rw [JsonText.indent, List.flatMap_append, ← JsonText.indent, ← JsonText.indent, indent_visible blanks proper.visible]
    exact .lexeme proper ih

/-- A text that is scanned lays out its lexemes. -/
theorem laid_of_lexemes {text : List Nat} {written : List Lexeme} (read : lexemes text = some written) : Laid written text := by
  obtain ⟨found, scanned, rfl⟩ := Option.map_eq_some_iff.mp read
  clear read
  induction found generalizing text with
  | nil =>
    cases text with
    | nil => exact .nil
    | cons unit rest =>
      obtain ⟨_, _, _, _, _, same⟩ := Scanner.scan_some rawLexeme_advances scanned
      cases same
  | cons lexeme found ih =>
    cases text with
    | nil => cases scanned
    | cons unit rest =>
      obtain ⟨first, after, later, read, behind, same⟩ := Scanner.scan_some rawLexeme_advances scanned
      cases same
      obtain ⟨space, rfl, rfl⟩ | ⟨written, proper, rfl, whole⟩ := rawLexeme_cases read
      · exact .blank space (ih behind)
      · rw [whole]
        exact .lexeme proper (ih behind)

/-- Of two neighbors one is a mark. -/
def Apart (written : List Lexeme) : Prop :=
  written.IsChain fun former latter => former.token.isMark = true ∨ latter.token.isMark = true

theorem Proper.mark_unit {written : Lexeme} (proper : Proper written) (isMark : written.token.isMark = true) :
    ∃ unit, written.text = [unit] ∧ isMarkUnit unit = true := by
  cases proper with
  | mark marks => exact ⟨_, rfl, (lexeme_mark marks []).2.2⟩
  | string | literal | number => cases isMark

theorem Laid.stops {written : List Lexeme} {text : List Nat} (laid : Laid written text)
    (marked : ∀ first ∈ written.head?, first.token.isMark = true) : Stops text := by
  intro unit first
  cases laid with
  | nil => cases first
  | blank space behind =>
    obtain rfl := Option.some.inj first
    exact .inl space
  | lexeme proper behind =>
    obtain ⟨mark, shape, isMark⟩ := proper.mark_unit (marked _ rfl)
    rw [shape] at first
    obtain rfl := Option.some.inj first
    exact .inr isMark

/-- A text that lays out lexemes that are apart is scanned as these. -/
theorem lexemes_of_laid {written : List Lexeme} {text : List Nat} (laid : Laid written text) (apart : Apart written) :
    lexemes text = some written := by
  induction laid with
  | nil => rfl
  | @blank written unit text space behind ih =>
    have read : rawLexeme unit text = some (none, text) := by
      rw [rawLexeme, JsonText.lexeme, if_pos space]
      rfl
    rw [lexemes, Scanner.scan_of_read rawLexeme_advances read, Option.map_map]
    exact ih apart
  | @lexeme first written text proper behind ih =>
    have stops : first.token.isMark = true ∨ Stops text := by
      by_cases isMark : first.token.isMark = true
      · exact .inl isMark
      · refine .inr (behind.stops fun next head => ?_)
        exact ((List.isChain_cons.mp apart).1 next head).resolve_left isMark
    obtain ⟨unit, piece, shape, read⟩ := proper.reads stops
    have later := ih (List.isChain_cons.mp apart).2
    obtain ⟨found, scanned, rfl⟩ := Option.map_eq_some_iff.mp later
    rw [shape, List.cons_append, lexemes, Scanner.scan_of_read rawLexeme_advances read, scanned]
    rfl

/-! ### Documents -/

/-- The tokens of a text are those of its lexemes. -/
theorem tokens_eq (text : List Nat) : tokens text = (lexemes text).map (List.map (·.token)) := by
  have raw (unit : Nat) (rest : List Nat) :
      lexeme unit rest = (rawLexeme unit rest).map fun found => (found.1.map (·.token), found.2) := by
    rw [rawLexeme, Option.map_map]
    rcases lexeme unit rest with _ | ⟨_ | token, after⟩
    all_goals rfl
  rw [tokens, lexemes, Scanner.scan_map raw, Option.map_map, Option.map_map]
  exact congrArg (Option.map · _) (funext fun found => List.reduceOption_map)

/-- One of two tokens is a mark. -/
def Separates (former latter : Token) : Prop := former.isMark = true ∨ latter.isMark = true

/-- A document in front of a mark keeps its neighbors apart. -/
theorem isChain_before_mark {front back : List Token} {mark : Token} (isMark : mark.isMark = true) (chain : front.IsChain Separates)
    (chain' : (mark :: back).IsChain Separates) : (front ++ mark :: back).IsChain Separates := by
  refine List.isChain_append.mpr ⟨chain, chain', fun former _ latter head => ?_⟩
  obtain rfl := Option.some.inj head
  exact .inr isMark

theorem isChain_behind_mark {tokens : List Token} {mark : Token} (isMark : mark.isMark = true) (chain : tokens.IsChain Separates) :
    (mark :: tokens).IsChain Separates := List.isChain_cons.mpr ⟨fun _ _ => .inl isMark, chain⟩

mutual
theorem Value.separates {value : List Token} (isValue : Value value) : value.IsChain Separates :=
  match isValue with
  | .literal | .number _ | .string _ => .singleton _
  | .emptyArray | .emptyObject => isChain_behind_mark rfl (.singleton _)
  | .array inside => isChain_behind_mark rfl (isChain_before_mark rfl inside.separates (.singleton _))
  | .object inside => isChain_behind_mark rfl (isChain_before_mark rfl inside.separates (.singleton _))

theorem Items.separates {items : List Token} (areItems : Items items) : items.IsChain Separates :=
  match areItems with
  | .last only => only.separates
  | .more first others => isChain_before_mark rfl first.separates (isChain_behind_mark rfl others.separates)

theorem Members.separates {members : List Token} (areMembers : Members members) : members.IsChain Separates :=
  match areMembers with
  | .last _ only => List.isChain_cons_cons.mpr ⟨.inr rfl, isChain_behind_mark rfl only.separates⟩
  | .more _ first others => List.isChain_cons_cons.mpr ⟨.inr rfl, isChain_behind_mark rfl
      (isChain_before_mark rfl first.separates (isChain_behind_mark rfl others.separates))⟩
end

/-- The lexemes of a document are apart. -/
theorem apart_of_value {written : List Lexeme} (isValue : Value (written.map (·.token))) : Apart written := by
  have chain := isValue.separates
  rw [List.isChain_map] at chain
  exact chain

end JsonText
