import Pipa.Library.Scanner
import Mathlib.Data.List.ReduceOption

/-! The lexical rules of MySQL text. Text is a list of code units, so that bytes,
UTF-16 units and scalar values are read alike; units from 128 on can only stand in
identifiers, quotes and comments. The content of an executable comment is code. -/

namespace SqlLexer

/-- The choices in which servers and readings of the manual differ. -/
structure Rules where
  /-- A backslash inside a string escapes the next unit. -/
  backslashEscapes : Bool
  /-- A numeral may begin or end with its point. -/
  barePoint : Bool
deriving DecidableEq, Repr

inductive Token where
  | word (text : List Nat)
  | number (text : List Nat)
  | string (text : List Nat)
  | quoted (text : List Nat)
  | operator (text : List Nat)
  | symbol (unit : Nat)
deriving DecidableEq, Repr

def isSpace (unit : Nat) : Bool := unit == 32 || (9 ≤ unit && unit ≤ 13)

def isControl (unit : Nat) : Bool := unit < 32 || unit == 127

def isDigit (unit : Nat) : Bool := 48 ≤ unit && unit ≤ 57

def isLetter (unit : Nat) : Bool := (65 ≤ unit && unit ≤ 90) || (97 ≤ unit && unit ≤ 122)

/-- Letters, digits, `_`, `$` and everything beyond ASCII. -/
def isIdentifier (unit : Nat) : Bool :=
  isLetter unit || isDigit unit || unit == 95 || unit == 36 || 128 ≤ unit

/-- The units of comparison operators: `!`, `<`, `=` and `>`. -/
def isComparison (unit : Nat) : Bool := unit == 33 || (60 ≤ unit && unit ≤ 62)

def startsWith (test : Nat → Bool) (text : List Nat) : Bool := text.head?.any test

/-- What stands inside a quote up to its end, and what follows it. Neither an
escaped nor a doubled quote ends it. -/
def closeQuote (escapes : Bool) (quote : Nat) : List Nat → Option (List Nat × List Nat)
  | [] => none
  | [unit] => if unit = quote then some ([unit], []) else none
  | unit :: next :: rest =>
    if (escapes && unit == 92 || unit == quote && next == quote) = true then
      (closeQuote escapes quote rest).map fun (body, after) => (unit :: next :: body, after)
    else if unit = quote then some ([unit], next :: rest)
    else (closeQuote escapes quote (next :: rest)).map fun (body, after) => (unit :: body, after)

/-- A line comment ends before its newline. -/
def skipLine (text : List Nat) : List Nat := text.dropWhile (· != 10)

/-- A block comment ends behind the first `*` and `/`. -/
def closeComment : List Nat → Option (List Nat)
  | [] => none
  | unit :: rest => if unit = 42 ∧ rest.head? = some 47 then some rest.tail else closeComment rest

/-- `--` starts a comment only before whitespace, a control character or the end. -/
def startsLineComment (unit : Nat) (rest : List Nat) : Bool :=
  unit == 45 && rest.head? == some 45 && (rest.tail.head?.all fun next => isSpace next || isControl next)

/-- `/*` starts a comment, unless `!` or `M!` makes it executable. -/
def startsBlockComment (unit : Nat) (rest : List Nat) : Bool :=
  unit == 47 && rest.head? == some 42 &&
    !(rest.tail.head? == some 33 ||
      (rest.tail.head?.any fun next => next == 77 || next == 109) && rest.tail.tail.head? == some 33)

/-- A point and the digits behind it. -/
def fraction (barePoint : Bool) : List Nat → List Nat × List Nat
  | [] => ([], [])
  | unit :: rest =>
    if unit = 46 ∧ (barePoint || startsWith isDigit rest) = true then
      (unit :: rest.takeWhile isDigit, rest.dropWhile isDigit)
    else ([], unit :: rest)

/-- An `e`, an optional sign, and at least one digit. -/
def exponent : List Nat → List Nat × List Nat
  | [] => ([], [])
  | [unit] => ([], [unit])
  | unit :: next :: rest =>
    if unit = 101 ∨ unit = 69 then
      if isDigit next then (unit :: (next :: rest).takeWhile isDigit, (next :: rest).dropWhile isDigit)
      else if (next = 43 ∨ next = 45) ∧ startsWith isDigit rest = true then
        (unit :: next :: rest.takeWhile isDigit, rest.dropWhile isDigit)
      else ([], unit :: next :: rest)
    else ([], unit :: next :: rest)

/-- The longest numeral at the start of the text. -/
def numeral (barePoint : Bool) (text : List Nat) : List Nat × List Nat :=
  let fractional := fraction barePoint (text.dropWhile isDigit)
  let scaled := exponent fractional.2
  (text.takeWhile isDigit ++ fractional.1 ++ scaled.1, scaled.2)

/-- The first lexeme of a text: a token, or nothing for whitespace and comments.
An open quote or comment has none. -/
def lexeme (rules : Rules) (unit : Nat) (rest : List Nat) : Option (Option Token × List Nat) :=
  if isSpace unit then some (none, rest)
  else if unit = 39 ∨ unit = 34 then
    (closeQuote rules.backslashEscapes unit rest).map fun (body, after) => (some (.string (unit :: body)), after)
  else if unit = 96 then
    (closeQuote false unit rest).map fun (body, after) => (some (.quoted (unit :: body)), after)
  else if unit = 35 ∨ startsLineComment unit rest = true then some (none, skipLine rest)
  else if startsBlockComment unit rest then (closeComment rest.tail).map fun after => (none, after)
  else if isDigit unit || (rules.barePoint && unit == 46 && startsWith isDigit rest) then
    let (text, after) := numeral rules.barePoint (unit :: rest)
    some (some (.number text), after)
  else if isIdentifier unit then
    some (some (.word (unit :: rest.takeWhile isIdentifier)), rest.dropWhile isIdentifier)
  else if isComparison unit then
    some (some (.operator (unit :: rest.takeWhile isComparison)), rest.dropWhile isComparison)
  else some (some (.symbol unit), rest)

/-- All lexemes of a text, with `none` for whitespace and comments between tokens. -/
def scan (rules : Rules) (text : List Nat) : Option (List (Option Token)) := Scanner.scan (lexeme rules) text

/-- The tokens of a text. -/
def tokens (rules : Rules) (text : List Nat) : Option (List Token) := (scan rules text).map List.reduceOption

/-- The code units of a string are its scalar values. -/
def units (text : String) : List Nat := text.toList.map Char.toNat

def upper (unit : Nat) : Nat := if 97 ≤ unit ∧ unit ≤ 122 then unit - 32 else unit

/-- Keywords are read in any case. -/
def isKeyword (name : String) : Token → Bool
  | .word text => text.map upper == units name
  | _ => false

@[simp]
theorem units_append (first second : String) : units (first ++ second) = units first ++ units second := by
  simp [units]

section Shorter
variable {rules : Rules}

theorem closeQuote_shorter {escapes : Bool} {quote : Nat} {text body after : List Nat}
    (closed : closeQuote escapes quote text = some (body, after)) : after.length < text.length := by
  induction text using closeQuote.induct escapes quote generalizing body with
  | case1 => cases closed
  | case2 =>
    rw [closeQuote, if_pos rfl] at closed
    obtain ⟨-, rfl⟩ := Prod.mk.inj (Option.some.inj closed)
    simp
  | case3 unit other =>
    rw [closeQuote, if_neg other] at closed
    cases closed
  | case4 unit next rest pair ih =>
    rw [closeQuote, if_pos pair] at closed
    obtain ⟨⟨inner, left⟩, found, same⟩ := Option.map_eq_some_iff.mp closed
    obtain ⟨-, rfl⟩ := Prod.mk.inj same
    have shorter := ih found
    simp only [List.length_cons]
    omega
  | case5 next rest lone =>
    rw [closeQuote, if_neg lone, if_pos rfl] at closed
    obtain ⟨-, rfl⟩ := Prod.mk.inj (Option.some.inj closed)
    simp
  | case6 unit next rest single other ih =>
    rw [closeQuote, if_neg single, if_neg other] at closed
    obtain ⟨⟨inner, left⟩, found, same⟩ := Option.map_eq_some_iff.mp closed
    obtain ⟨-, rfl⟩ := Prod.mk.inj same
    have shorter := ih found
    simp only [List.length_cons] at shorter ⊢
    omega

theorem closeComment_shorter {text after : List Nat} (closed : closeComment text = some after) :
    after.length < text.length := by
  induction text with
  | nil => cases closed
  | cons unit rest ih =>
    rw [closeComment] at closed
    split at closed
    · obtain rfl := Option.some.inj closed
      simp only [List.length_tail, List.length_cons]
      omega
    · have shorter := ih closed
      simp only [List.length_cons]
      omega

theorem fraction_append (barePoint : Bool) (text : List Nat) :
    (fraction barePoint text).1 ++ (fraction barePoint text).2 = text := by
  cases text with
  | nil => rfl
  | cons unit rest =>
    rw [fraction]
    split <;> simp

theorem exponent_append (text : List Nat) : (exponent text).1 ++ (exponent text).2 = text := by
  fun_cases exponent text <;> simp

theorem numeral_append (barePoint : Bool) (text : List Nat) :
    (numeral barePoint text).1 ++ (numeral barePoint text).2 = text := by
  rw [numeral, List.append_assoc, exponent_append, List.append_assoc, fraction_append, List.takeWhile_append_dropWhile]

/-- A numeral takes at least the unit that announced it. -/
theorem numeral_shorter {barePoint : Bool} {unit : Nat} {rest : List Nat}
    (starts : (isDigit unit || (barePoint && unit == 46 && startsWith isDigit rest)) = true) :
    (numeral barePoint (unit :: rest)).2.length ≤ rest.length := by
  have whole := congrArg List.length (numeral_append barePoint (unit :: rest))
  have taken : (numeral barePoint (unit :: rest)).1 ≠ [] := by
    cases digit : isDigit unit with
    | true => simp [numeral, digit]
    | false =>
      simp only [digit, Bool.false_or, Bool.and_eq_true, beq_iff_eq] at starts
      obtain ⟨⟨bare, rfl⟩, -⟩ := starts
      simp [numeral, digit, fraction, bare]
  have positive := List.length_pos_iff.mpr taken
  simp only [List.length_append, List.length_cons] at whole
  omega

/-- Every lexeme takes at least one unit. -/
theorem lexeme_shorter {rules : Rules} {unit : Nat} {rest after : List Nat} {token : Option Token}
    (read : lexeme rules unit rest = some (token, after)) : after.length ≤ rest.length := by
  unfold lexeme at read
  have dropped (test : Nat → Bool) : (rest.dropWhile test).length ≤ rest.length :=
    (List.dropWhile_suffix test).length_le
  split at read
  · obtain ⟨-, rfl⟩ := Prod.mk.inj (Option.some.inj read)
    exact Nat.le_refl _
  split at read
  · obtain ⟨⟨body, left⟩, closed, same⟩ := Option.map_eq_some_iff.mp read
    obtain ⟨-, rfl⟩ := Prod.mk.inj same
    exact Nat.le_of_lt (closeQuote_shorter closed)
  split at read
  · obtain ⟨⟨body, left⟩, closed, same⟩ := Option.map_eq_some_iff.mp read
    obtain ⟨-, rfl⟩ := Prod.mk.inj same
    exact Nat.le_of_lt (closeQuote_shorter closed)
  split at read
  · obtain ⟨-, rfl⟩ := Prod.mk.inj (Option.some.inj read)
    exact dropped _
  split at read
  · obtain ⟨left, closed, same⟩ := Option.map_eq_some_iff.mp read
    obtain ⟨-, rfl⟩ := Prod.mk.inj same
    have shorter := closeComment_shorter closed
    simp only [List.length_tail] at shorter
    omega
  split at read
  next starts =>
    obtain ⟨-, rfl⟩ := Prod.mk.inj (Option.some.inj read)
    exact numeral_shorter starts
  split at read
  · obtain ⟨-, rfl⟩ := Prod.mk.inj (Option.some.inj read)
    exact dropped _
  split at read
  · obtain ⟨-, rfl⟩ := Prod.mk.inj (Option.some.inj read)
    exact dropped _
  · obtain ⟨-, rfl⟩ := Prod.mk.inj (Option.some.inj read)
    exact Nat.le_refl _

theorem lexeme_advances : Scanner.Advances (lexeme rules) := fun _ _ _ _ => lexeme_shorter

/-- A text is its first lexeme and the lexemes behind it. -/
theorem scan_cons (unit : Nat) (rest : List Nat) :
    scan rules (unit :: rest) = (lexeme rules unit rest).bind fun (token, after) =>
      (scan rules after).map (token :: ·) := Scanner.scan_cons lexeme_advances unit rest

theorem tokens_cons (unit : Nat) (rest : List Nat) :
    tokens rules (unit :: rest) = (lexeme rules unit rest).bind fun (token, after) =>
      (tokens rules after).map (token.toList ++ ·) := by
  rw [tokens, scan_cons]
  cases lexeme rules unit rest with
  | none => rfl
  | some found =>
    obtain ⟨token, after⟩ := found
    cases scanned : scan rules after with
    | none => simp [tokens, scanned]
    | some lexemes => cases token <;> simp [tokens, scanned]

theorem tokens_of_lexeme {unit : Nat} {rest after : List Nat} {token : Option Token}
    (read : lexeme rules unit rest = some (token, after)) :
    tokens rules (unit :: rest) = (tokens rules after).map (token.toList ++ ·) := by
  rw [tokens_cons, read]
  rfl

@[simp]
theorem tokens_nil : tokens rules [] = some [] := rfl

end Shorter

section Writing
variable {rules : Rules}

/-- What follows is the end, a blank, a closing parenthesis or a comma. -/
def Delimited (rest : List Nat) : Prop := ∀ unit, rest.head? = some unit → unit = 32 ∨ unit = 41 ∨ unit = 44

theorem delimited_nil : Delimited [] := by
  intro unit same
  cases same

theorem delimited_cons {unit : Nat} (delimits : unit = 32 ∨ unit = 41 ∨ unit = 44) (rest : List Nat) :
    Delimited (unit :: rest) := by
  intro first same
  obtain rfl := Option.some.inj same
  exact delimits

/-- In front of a delimiter the text reads as these tokens, whatever comes behind. -/
def Reads (rules : Rules) (text : List Nat) (read : List Token) : Prop :=
  ∀ rest, Delimited rest → tokens rules (text ++ rest) = (tokens rules rest).map (read ++ ·)

theorem Reads.whole {text : List Nat} {read : List Token} (reads : Reads rules text read) :
    tokens rules text = some read := by
  simpa using reads [] delimited_nil

theorem reads_nil : Reads rules [] [] := by
  intro rest _
  simp

/-- Writing one text behind another reads their tokens one after the other. -/
theorem Reads.append {first second : List Nat} {read read' : List Token} (reads : Reads rules first read)
    (reads' : Reads rules second read') (apart : ∀ rest, Delimited rest → Delimited (second ++ rest)) :
    Reads rules (first ++ second) (read ++ read') := by
  intro rest delimited
  rw [List.append_assoc, reads _ (apart rest delimited), reads' rest delimited, Option.map_map]
  congr 1
  funext later
  simp

theorem Reads.blank {text : List Nat} {read : List Token} (reads : Reads rules text read) :
    Reads rules (32 :: text) read := by
  intro rest delimited
  have first : lexeme rules 32 (text ++ rest) = some (none, text ++ rest) := rfl
  rw [List.cons_append, tokens_of_lexeme first, reads rest delimited, Option.map_map]
  congr 1

/-- Parentheses and commas are tokens of their own. -/
theorem Reads.symbol {unit : Nat} (plain : unit = 40 ∨ unit = 41 ∨ unit = 44) {text : List Nat} {read : List Token}
    (reads : Reads rules text read) : Reads rules (unit :: text) (.symbol unit :: read) := by
  intro rest delimited
  have first : lexeme rules unit (text ++ rest) = some (some (.symbol unit), text ++ rest) := by
    rcases plain with rfl | rfl | rfl
    all_goals simp [lexeme, isSpace, startsLineComment, startsBlockComment, isDigit, isIdentifier, isLetter, isComparison]
  rw [List.cons_append, tokens_of_lexeme first, reads rest delimited, Option.map_map]
  congr 1

/-- A run of units of one kind ends where another kind begins. -/
theorem span_stops {test : Nat → Bool} {text rest : List Nat} (inside : ∀ unit ∈ text, test unit = true)
    (stop : startsWith test rest = false) :
    (text ++ rest).takeWhile test = text ∧ (text ++ rest).dropWhile test = rest := by
  rw [List.takeWhile_append_of_pos inside, List.dropWhile_append_of_pos inside]
  cases rest with
  | nil => simp
  | cons unit rest =>
    have other : test unit = false := by simpa [startsWith] using stop
    simp [other]

theorem span_delimited {test : Nat → Bool} (stops : ∀ unit, unit = 32 ∨ unit = 41 ∨ unit = 44 → test unit = false)
    {text rest : List Nat} (inside : ∀ unit ∈ text, test unit = true) (delimited : Delimited rest) :
    (text ++ rest).takeWhile test = text ∧ (text ++ rest).dropWhile test = rest := by
  apply span_stops inside
  cases rest with
  | nil => rfl
  | cons unit rest => simpa [startsWith] using stops unit (delimited unit rfl)

theorem reads_word {unit : Nat} {text : List Nat} (inside : ∀ other ∈ unit :: text, isIdentifier other = true)
    (initial : isDigit unit = false) : Reads rules (unit :: text) [.word (unit :: text)] := by
  intro rest delimited
  obtain ⟨first, others⟩ := List.forall_mem_cons.mp inside
  have stops : ∀ other, other = 32 ∨ other = 41 ∨ other = 44 → isIdentifier other = false := by
    rintro other (rfl | rfl | rfl) <;> decide
  obtain ⟨taken, left⟩ := span_delimited stops others delimited
  have read : lexeme rules unit (text ++ rest) = some (some (.word (unit :: text)), rest) := by
    have kind : unit ≠ 32 ∧ ¬ (9 ≤ unit ∧ unit ≤ 13) ∧ unit ≠ 39 ∧ unit ≠ 34 ∧ unit ≠ 96 ∧ unit ≠ 35 ∧ unit ≠ 45 ∧
        unit ≠ 47 ∧ unit ≠ 46 := by
      simp only [isIdentifier, isLetter, isDigit, Bool.or_eq_true, Bool.and_eq_true, decide_eq_true_eq,
        beq_iff_eq] at first
      omega
    simp [lexeme, isSpace, startsLineComment, startsBlockComment, kind, initial, first, taken, left]
  rw [List.cons_append, tokens_of_lexeme read]
  rfl

theorem reads_operator {unit : Nat} {text : List Nat} (inside : ∀ other ∈ unit :: text, isComparison other = true) :
    Reads rules (unit :: text) [.operator (unit :: text)] := by
  intro rest delimited
  obtain ⟨first, others⟩ := List.forall_mem_cons.mp inside
  have stops : ∀ other, other = 32 ∨ other = 41 ∨ other = 44 → isComparison other = false := by
    rintro other (rfl | rfl | rfl) <;> decide
  obtain ⟨taken, left⟩ := span_delimited stops others delimited
  have read : lexeme rules unit (text ++ rest) = some (some (.operator (unit :: text)), rest) := by
    have kind : unit = 33 ∨ unit = 60 ∨ unit = 61 ∨ unit = 62 := by
      simp only [isComparison, Bool.or_eq_true, Bool.and_eq_true, decide_eq_true_eq, beq_iff_eq] at first
      omega
    rcases kind with rfl | rfl | rfl | rfl
    all_goals simp [lexeme, isSpace, startsLineComment, startsBlockComment, isDigit, isIdentifier, isLetter, first,
      taken, left]
  rw [List.cons_append, tokens_of_lexeme read]
  rfl

/-- Text written inside quotes: the quote is doubled, and so is a backslash if asked. -/
def doubled (backslashes : Bool) (quote : Nat) (text : List Nat) : List Nat :=
  text.flatMap fun unit => if unit = quote ∨ backslashes = true ∧ unit = 92 then [unit, unit] else [unit]

private theorem closeQuote_single {escapes : Bool} {quote unit : Nat} (ordinary : unit ≠ quote)
    (unescaped : escapes = true → unit ≠ 92) (rest : List Nat) :
    closeQuote escapes quote (unit :: rest) =
      (closeQuote escapes quote rest).map fun (body, after) => (unit :: body, after) := by
  cases rest with
  | nil => simp [closeQuote, ordinary]
  | cons next rest =>
    rw [closeQuote, if_neg, if_neg ordinary]
    cases escapes with
    | false => simp [ordinary]
    | true => simp [ordinary, unescaped rfl]

private theorem closeQuote_pair {escapes : Bool} {quote unit next : Nat}
    (pair : (escapes && unit == 92 || unit == quote && next == quote) = true) (rest : List Nat) :
    closeQuote escapes quote (unit :: next :: rest) =
      (closeQuote escapes quote rest).map fun (body, after) => (unit :: next :: body, after) := by
  rw [closeQuote, if_pos pair]

/-- Doubled text runs to the quote that was written behind it, whether or not
backslashes escape. -/
theorem closeQuote_doubled {escapes backslashes : Bool} {quote : Nat} (covered : escapes = true → backslashes = true)
    (ordinary : quote ≠ 92) (text : List Nat) {rest : List Nat} (apart : rest.head? ≠ some quote) :
    closeQuote escapes quote (doubled backslashes quote text ++ quote :: rest) =
      some (doubled backslashes quote text ++ [quote], rest) := by
  induction text with
  | nil =>
    cases rest with
    | nil => simp [doubled, closeQuote]
    | cons next rest =>
      have other : next ≠ quote := fun same => apart (by simp [same])
      simp [doubled, closeQuote, other, ordinary]
  | cons unit text ih =>
    have unfolded : doubled backslashes quote (unit :: text) =
        (if unit = quote ∨ backslashes = true ∧ unit = 92 then [unit, unit] else [unit]) ++
          doubled backslashes quote text := rfl
    rw [unfolded]
    by_cases same : unit = quote
    · subst unit
      rw [if_pos (Or.inl rfl), List.append_assoc, List.cons_append, List.cons_append, List.nil_append,
        closeQuote_pair (by simp), ih]
      rfl
    · by_cases backslash : backslashes = true ∧ unit = 92
      · obtain ⟨writes, rfl⟩ := backslash
        rw [if_pos (Or.inr ⟨writes, rfl⟩), List.append_assoc, List.cons_append, List.cons_append, List.nil_append]
        cases escapes with
        | true =>
          rw [closeQuote_pair (by simp), ih]
          rfl
        | false =>
          rw [closeQuote_single same (by simp), closeQuote_single same (by simp), ih]
          rfl
      · rw [if_neg (by tauto), List.append_assoc, List.cons_append, List.nil_append,
          closeQuote_single same (fun reads is => backslash ⟨covered reads, is⟩), ih]
        rfl

private theorem apart_of_delimited {rest : List Nat} (delimited : Delimited rest) {quote : Nat}
    (other : quote ≠ 32 ∧ quote ≠ 41 ∧ quote ≠ 44) : rest.head? ≠ some quote := by
  intro same
  have delimits := delimited quote same
  omega

/-- A string literal written with both doublings is one token in either mode. -/
theorem reads_string (text : List Nat) :
    Reads rules (39 :: (doubled true 39 text ++ [39])) [.string (39 :: (doubled true 39 text ++ [39]))] := by
  intro rest delimited
  have closed := @closeQuote_doubled rules.backslashEscapes true 39 (fun _ => rfl) (by decide) text rest
    (apart_of_delimited delimited (by decide))
  have read : lexeme rules 39 (doubled true 39 text ++ 39 :: rest) =
      some (some (.string (39 :: (doubled true 39 text ++ [39]))), rest) := by
    simp [lexeme, isSpace, closed]
  rw [List.cons_append, List.append_assoc, List.singleton_append, tokens_of_lexeme read]
  rfl

/-- A quoted identifier with doubled quotes is one token. -/
theorem reads_quoted (text : List Nat) :
    Reads rules (96 :: (doubled false 96 text ++ [96])) [.quoted (96 :: (doubled false 96 text ++ [96]))] := by
  intro rest delimited
  have closed := @closeQuote_doubled false false 96 (fun same => same) (by decide) text rest
    (apart_of_delimited delimited (by decide))
  have read : lexeme rules 96 (doubled false 96 text ++ 96 :: rest) =
      some (some (.quoted (96 :: (doubled false 96 text ++ [96]))), rest) := by
    simp [lexeme, isSpace, closed]
  rw [List.cons_append, List.append_assoc, List.singleton_append, tokens_of_lexeme read]
  rfl

/-- A numeral: digits, perhaps with a point among them, and perhaps an exponent. -/
inductive IsNumeral : List Nat → Prop where
  | intro (whole pointed scaled : List Nat) (digits : ∀ unit ∈ whole, isDigit unit = true)
      (point : pointed = [] ∨ ∃ digits, pointed = 46 :: digits ∧ ∀ unit ∈ digits, isDigit unit = true)
      (some_digit : whole ≠ [] ∨ startsWith isDigit pointed.tail = true)
      (scale : scaled = [] ∨ ∃ mark sign digits, scaled = mark :: (sign ++ digits) ∧ (mark = 101 ∨ mark = 69) ∧
        (sign = [] ∨ sign = [43] ∨ sign = [45]) ∧ digits ≠ [] ∧ ∀ unit ∈ digits, isDigit unit = true) :
      IsNumeral (whole ++ pointed ++ scaled)

private theorem digit_stops : ∀ unit, unit = 32 ∨ unit = 41 ∨ unit = 44 → isDigit unit = false := by
  rintro unit (rfl | rfl | rfl) <;> decide

private theorem exponent_delimited {scaled rest : List Nat}
    (scale : scaled = [] ∨ ∃ mark sign digits, scaled = mark :: (sign ++ digits) ∧ (mark = 101 ∨ mark = 69) ∧
      (sign = [] ∨ sign = [43] ∨ sign = [45]) ∧ digits ≠ [] ∧ ∀ unit ∈ digits, isDigit unit = true)
    (delimited : Delimited rest) : exponent (scaled ++ rest) = (scaled, rest) := by
  rcases scale with rfl | ⟨mark, sign, digits, rfl, marked, signed, nonempty, inside⟩
  · rw [List.nil_append]
    cases rest with
    | nil => rfl
    | cons unit rest =>
      have other : ¬ (unit = 101 ∨ unit = 69) := by
        have delimits := delimited unit rfl
        omega
      cases rest with
      | nil => rfl
      | cons next rest => rw [exponent, if_neg other]
  · obtain ⟨taken, left⟩ := span_delimited digit_stops inside delimited
    obtain ⟨digit, digits, rfl⟩ := List.exists_cons_of_ne_nil nonempty
    have first := (List.forall_mem_cons.mp inside).1
    rcases signed with rfl | rfl | rfl
    · rw [List.cons_append] at taken left
      rw [List.nil_append, List.cons_append, List.cons_append, exponent, if_pos marked, if_pos first, taken, left]
    all_goals
      have unsigned : startsWith isDigit (digit :: digits ++ rest) = true := first
      rw [List.cons_append, List.append_assoc, List.singleton_append, exponent, if_pos marked, if_neg (by decide),
        if_pos ⟨by decide, unsigned⟩, taken, left]
      rfl

private theorem fraction_pointed {pointed after : List Nat}
    (point : pointed = [] ∨ ∃ digits, pointed = 46 :: digits ∧ ∀ unit ∈ digits, isDigit unit = true)
    (stop : startsWith isDigit after = false) (pointless : after.head? ≠ some 46) :
    fraction true (pointed ++ after) = (pointed, after) := by
  rcases point with rfl | ⟨digits, rfl, inside⟩
  · cases after with
    | nil => rfl
    | cons unit after =>
      have other : unit ≠ 46 := fun same => pointless (by simp [same])
      simp [fraction, other]
  · obtain ⟨taken, left⟩ := span_stops inside stop
    simp [fraction, taken, left]

/-- Behind the digits and the point comes an exponent or a delimiter. -/
private theorem scaled_head {scaled rest : List Nat}
    (scale : scaled = [] ∨ ∃ mark sign digits, scaled = mark :: (sign ++ digits) ∧ (mark = 101 ∨ mark = 69) ∧
      (sign = [] ∨ sign = [43] ∨ sign = [45]) ∧ digits ≠ [] ∧ ∀ unit ∈ digits, isDigit unit = true)
    (delimited : Delimited rest) : ∀ unit, (scaled ++ rest).head? = some unit →
      unit = 101 ∨ unit = 69 ∨ unit = 32 ∨ unit = 41 ∨ unit = 44 := by
  intro unit first
  rcases scale with rfl | ⟨mark, sign, digits, rfl, marked, -⟩
  · exact Or.inr (Or.inr (delimited unit first))
  · obtain rfl : mark = unit := by simpa using first
    omega

/-- A numeral in front of a delimiter is one token. -/
theorem reads_number (bare : rules.barePoint = true) {text : List Nat} (isNumeral : IsNumeral text) :
    Reads rules text [.number text] := by
  intro rest delimited
  obtain ⟨whole, pointed, scaled, digits, point, some_digit, scale⟩ := isNumeral
  have head := scaled_head scale delimited
  have stop : startsWith isDigit (scaled ++ rest) = false := by
    cases first : (scaled ++ rest).head? with
    | none => simp [startsWith, first]
    | some unit =>
      have kind := head unit first
      simp only [startsWith, first, Option.any_some, isDigit, Bool.and_eq_false_iff, decide_eq_false_iff_not]
      omega
  have pointless : (scaled ++ rest).head? ≠ some 46 := by
    intro first
    have kind := head 46 first
    omega
  have unwhole : startsWith isDigit (pointed ++ (scaled ++ rest)) = false := by
    rcases point with rfl | ⟨digits, rfl, -⟩
    · exact stop
    · rfl
  have read : numeral rules.barePoint (whole ++ pointed ++ scaled ++ rest) = (whole ++ pointed ++ scaled, rest) := by
    obtain ⟨taken, left⟩ := span_stops digits unwhole
    have scaling := exponent_delimited scale delimited
    have grouped : whole ++ pointed ++ scaled ++ rest = whole ++ (pointed ++ (scaled ++ rest)) := by simp
    rw [bare, numeral, grouped, taken, left, fraction_pointed point stop pointless, scaling]
  obtain ⟨unit, tail, shape, starts⟩ : ∃ unit tail, whole ++ pointed ++ scaled ++ rest = unit :: tail ∧
      (isDigit unit || (rules.barePoint && unit == 46 && startsWith isDigit tail)) = true := by
    cases whole with
    | cons digit whole => exact ⟨digit, _, rfl, by simp [digits digit List.mem_cons_self]⟩
    | nil =>
      have follows : startsWith isDigit pointed.tail = true := by simpa using some_digit
      rcases point with rfl | ⟨digits, rfl, -⟩
      · cases follows
      · cases digits with
        | nil => cases follows
        | cons digit digits =>
          have first : isDigit digit = true := follows
          exact ⟨46, _, rfl, by simp [bare, startsWith, first]⟩
  have kind : unit ≠ 32 ∧ ¬ (9 ≤ unit ∧ unit ≤ 13) ∧ unit ≠ 39 ∧ unit ≠ 34 ∧ unit ≠ 96 ∧ unit ≠ 35 ∧ unit ≠ 45 ∧
      unit ≠ 47 := by
    simp only [isDigit, Bool.or_eq_true, Bool.and_eq_true, decide_eq_true_eq, beq_iff_eq] at starts
    omega
  have first : lexeme rules unit tail = some (some (.number (whole ++ pointed ++ scaled)), rest) := by
    rw [shape] at read
    have line : startsLineComment unit tail = false := by simp [startsLineComment, kind]
    have block : startsBlockComment unit tail = false := by simp [startsBlockComment, kind]
    have blank : isSpace unit = false := by
      simp only [isSpace, Bool.or_eq_false_iff, Bool.and_eq_false_iff, decide_eq_false_iff_not, beq_eq_false_iff_ne]
      omega
    rw [lexeme, if_neg (by simp [blank]), if_neg (by omega), if_neg (by omega), if_neg (by simp [line, kind]),
      if_neg (by simp [block]), if_pos starts, read]
  rw [shape, tokens_of_lexeme first]
  rfl

/-- A sign in front of a numeral is a token of its own. -/
theorem reads_signed (bare : rules.barePoint = true) {sign : Nat} (signed : sign = 43 ∨ sign = 45) {text : List Nat}
    (isNumeral : IsNumeral text) : Reads rules (sign :: text) [.symbol sign, .number text] := by
  intro rest delimited
  have undashed : (text ++ rest).head? ≠ some 45 := by
    obtain ⟨whole, pointed, scaled, digits, point, some_digit, -⟩ := isNumeral
    cases whole with
    | cons digit whole =>
      have first := digits digit List.mem_cons_self
      intro same
      obtain rfl : digit = 45 := by simpa using same
      cases first
    | nil =>
      rcases point with rfl | ⟨digits, rfl, -⟩
      · simp [startsWith] at some_digit
      · simp
  have line : startsLineComment sign (text ++ rest) = false := by
    simp only [startsLineComment, beq_eq_false_iff_ne.mpr undashed, Bool.and_false, Bool.false_and]
  have first : lexeme rules sign (text ++ rest) = some (some (.symbol sign), text ++ rest) := by
    rcases signed with rfl | rfl
    all_goals simp [lexeme, isSpace, line, startsBlockComment, isDigit, isIdentifier, isLetter, isComparison]
  rw [List.cons_append, tokens_of_lexeme first, reads_number bare isNumeral rest delimited, Option.map_map]
  congr 1

end Writing

end SqlLexer
