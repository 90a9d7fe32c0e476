import Pipa.Library.SqlLexer
import Pipa.SqlPolicy
import Mathlib.Data.List.TakeWhile

/-! The policy's lexer beside the server's: what it emits for each lexeme of the
server, and where it loses their boundaries. -/

namespace Pipa.SqlPolicy
open SqlLexer

/-- The server's rules in its default mode; a numeral starts and ends with a digit. -/
def serverRules : Rules := ⟨true, false⟩

/-! ### The steps of the policy's lexer -/

theorem consumeQuoted_eq {quote : Nat} (ordinary : quote ≠ 92) (escapes : Bool) (text : List Nat) :
    consumeQuoted quote escapes text = (closeQuote escapes quote text).map Prod.snd := by
  induction text using closeQuote.induct escapes quote with
  | case1 => rfl
  | case2 =>
    have plain : (escapes && quote == 92) = false := by simp [ordinary]
    simp [consumeQuoted, closeQuote, plain]
  | case3 unit other => simp [consumeQuoted, closeQuote, other]
  | case4 unit next rest pair ih =>
    rw [closeQuote, if_pos pair, Option.map_map, consumeQuoted]
    by_cases escaped : (escapes && unit == 92) = true
    · rw [if_pos escaped, ih]
      rfl
    · have quoted : unit = quote ∧ next = quote := by simpa [escaped] using pair
      rw [if_neg escaped, if_pos quoted.1, if_pos quoted.2, ih]
      rfl
  | case5 next rest lone =>
    have plain : (escapes && quote == 92) = false := by simp [ordinary]
    have other : next ≠ quote := by
      intro same
      exact lone (by simp [same])
    rw [closeQuote, if_neg lone, if_pos rfl, consumeQuoted, if_neg (by simp [plain]), if_pos rfl, if_neg other]
    rfl
  | case6 unit next rest single other ih =>
    have plain : ¬ (escapes && unit == 92) = true := by
      intro escaped
      exact single (by simp [escaped])
    rw [closeQuote, if_neg single, if_neg other, Option.map_map, consumeQuoted, if_neg plain, if_neg other, ih]
    rfl

theorem consumeLineComment_eq (text : List Nat) : consumeLineComment text = skipLine text := by
  induction text with
  | nil => rfl
  | cons unit text ih =>
    rw [consumeLineComment, ih, skipLine, skipLine, List.dropWhile_cons]
    by_cases newline : unit = 10 <;> simp [newline]

theorem consumeBlockComment_eq (text : List Nat) : consumeBlockComment text = closeComment text := by
  induction text with
  | nil => rfl
  | cons unit text ih =>
    cases text with
    | nil => simp [consumeBlockComment, closeComment]
    | cons next text =>
      rw [consumeBlockComment, closeComment, ih]
      by_cases closes : unit = 42 ∧ next = 47 <;> simp [closes]

theorem lexStep_advances (escapes : Bool) : Scanner.Advances (lexStep escapes) := by
  intro byte rest token after read
  have dropped (test : Nat → Bool) : (rest.dropWhile test).length ≤ rest.length :=
    (List.dropWhile_suffix test).length_le
  have quoted {quote : Nat} {escapes : Bool} (ordinary : quote ≠ 92) {after : List Nat}
      (read : consumeQuoted quote escapes rest = some after) : after.length ≤ rest.length := by
    rw [consumeQuoted_eq ordinary] at read
    obtain ⟨⟨body, left⟩, closed, rfl⟩ := Option.map_eq_some_iff.mp read
    exact Nat.le_of_lt (closeQuote_shorter closed)
  unfold lexStep at read
  split at read
  · obtain ⟨-, rfl⟩ := Prod.mk.inj (Option.some.inj read)
    exact Nat.le_refl _
  split at read
  next quote =>
    obtain ⟨left, closed, same⟩ := Option.map_eq_some_iff.mp read
    obtain ⟨-, rfl⟩ := Prod.mk.inj same
    exact quoted (by omega) closed
  split at read
  · obtain ⟨left, closed, same⟩ := Option.map_eq_some_iff.mp read
    obtain ⟨-, rfl⟩ := Prod.mk.inj same
    exact quoted (by decide) closed
  split at read
  · obtain ⟨-, rfl⟩ := Prod.mk.inj (Option.some.inj read)
    rw [consumeLineComment_eq]
    exact dropped _
  split at read
  · obtain ⟨-, rfl⟩ := Prod.mk.inj (Option.some.inj read)
    rw [consumeLineComment_eq]
    have shorter := (@List.dropWhile_suffix _ rest.tail (· != 10)).length_le
    simp only [List.length_tail] at shorter
    rw [skipLine]
    omega
  split at read
  · split at read
    · cases read
    · obtain ⟨left, closed, same⟩ := Option.map_eq_some_iff.mp read
      obtain ⟨-, rfl⟩ := Prod.mk.inj same
      rw [consumeBlockComment_eq] at closed
      have shorter := closeComment_shorter closed
      simp only [List.length_tail] at shorter
      omega
  iterate 3
    split at read
    · obtain ⟨-, rfl⟩ := Prod.mk.inj (Option.some.inj read)
      exact Nat.le_refl _
  split at read
  · obtain ⟨-, rfl⟩ := Prod.mk.inj (Option.some.inj read)
    exact dropped _
  split at read
  all_goals
    obtain ⟨-, rfl⟩ := Prod.mk.inj (Option.some.inj read)
    exact Nat.le_refl _

@[simp]
theorem lexMysql_nil (escapes : Bool) : lexMysql [] escapes = some [] := rfl

/-- Lexing past one round of the loop. -/
theorem lexMysql_step {escapes : Bool} {byte : Nat} {rest after : List Nat} {token : Option SqlToken}
    (read : lexStep escapes byte rest = some (token, after)) :
    lexMysql (byte :: rest) escapes = (lexMysql after escapes).map (token.toList ++ ·) := by
  rw [lexMysql, Scanner.scan_of_read (lexStep_advances escapes) read, lexMysql, Option.map_map, Option.map_map]
  congr 1
  funext later
  cases token <;> simp

/-- What was lexed began with a round of the loop. -/
theorem lexMysql_some {escapes : Bool} {byte : Nat} {rest : List Nat} {tokens : List SqlToken}
    (lexed : lexMysql (byte :: rest) escapes = some tokens) :
    ∃ token after later, lexStep escapes byte rest = some (token, after) ∧ lexMysql after escapes = some later ∧
      tokens = token.toList ++ later := by
  obtain ⟨lexemes, scanned, rfl⟩ := Option.map_eq_some_iff.mp lexed
  obtain ⟨token, after, later, read, behind, rfl⟩ := Scanner.scan_some (lexStep_advances escapes) scanned
  exact ⟨token, after, later.reduceOption, read, by simp [lexMysql, behind], by cases token <;> simp⟩

/-- A word goes on over letters, digits, `_` and `$`. -/
theorem lexStep_word {byte : Nat} (starts : (isAsciiAlphabetic byte || byte == 95) = true) (rest : List Nat) :
    lexStep true byte rest =
      some (some (.word ((byte :: rest.takeWhile isWordByte).map toAsciiUppercase)), rest.dropWhile isWordByte) := by
  have kind : byte ≠ 32 ∧ byte ≠ 9 ∧ byte ≠ 10 ∧ byte ≠ 12 ∧ byte ≠ 13 ∧ byte ≠ 39 ∧ byte ≠ 34 ∧ byte ≠ 96 ∧
      byte ≠ 35 ∧ byte ≠ 45 ∧ byte ≠ 47 ∧ byte ≠ 40 ∧ byte ≠ 41 ∧ byte ≠ 59 := by
    simp only [isAsciiAlphabetic, Bool.or_eq_true, Bool.and_eq_true, decide_eq_true_eq, beq_iff_eq] at starts
    omega
  simp only [lexStep, isAsciiWhitespace, kind, beq_eq_false_iff_ne.mpr, ne_eq, not_false_eq_true, Bool.or_self,
    Bool.false_eq_true, if_false, or_self, false_and, starts, if_true]

/-- Digits, control characters and bytes beyond ASCII are passed over. -/
theorem lexStep_passed {byte : Nat} (passed : isDigit byte = true ∨ 128 ≤ byte ∨ (isControl byte = true ∧ isSpace byte = false))
    (rest : List Nat) : lexStep true byte rest = some (none, rest) := by
  have kind : byte ≠ 32 ∧ byte ≠ 9 ∧ byte ≠ 10 ∧ byte ≠ 12 ∧ byte ≠ 13 ∧ byte ≠ 39 ∧ byte ≠ 34 ∧ byte ≠ 96 ∧
      byte ≠ 35 ∧ byte ≠ 45 ∧ byte ≠ 47 ∧ byte ≠ 40 ∧ byte ≠ 41 ∧ byte ≠ 59 ∧ byte ≠ 95 := by
    simp only [isDigit, isControl, isSpace, Bool.or_eq_true, Bool.and_eq_true, decide_eq_true_eq, beq_iff_eq,
      Bool.or_eq_false_iff, Bool.and_eq_false_iff, decide_eq_false_iff_not, beq_eq_false_iff_ne] at passed
    omega
  have unlettered : isAsciiAlphabetic byte = false := by
    simp only [isDigit, isControl, isAsciiAlphabetic, Bool.or_eq_true, Bool.and_eq_true, decide_eq_true_eq, beq_iff_eq,
      Bool.or_eq_false_iff, Bool.and_eq_false_iff, decide_eq_false_iff_not] at passed ⊢
    omega
  have unpunctuated : isAsciiPunctuation byte = false := by
    simp only [isDigit, isControl, isAsciiPunctuation, Bool.or_eq_true, Bool.and_eq_true, decide_eq_true_eq, beq_iff_eq,
      Bool.or_eq_false_iff, Bool.and_eq_false_iff, decide_eq_false_iff_not] at passed ⊢
    omega
  simp only [lexStep, isAsciiWhitespace, kind, beq_eq_false_iff_ne.mpr, ne_eq, not_false_eq_true, Bool.or_self,
    Bool.false_eq_true, if_false, or_self, false_and, unlettered, unpunctuated]

/-- Other punctuation stands for itself. -/
theorem lexStep_symbol {byte : Nat} (punctuation : isAsciiPunctuation byte = true)
    (plain : byte ≠ 39 ∧ byte ≠ 34 ∧ byte ≠ 96 ∧ byte ≠ 35 ∧ byte ≠ 40 ∧ byte ≠ 41 ∧ byte ≠ 59 ∧ byte ≠ 95)
    {rest : List Nat} (uncommented : byte = 45 → startsLineComment byte rest = false)
    (undivided : byte = 47 → rest.head? ≠ some 42) :
    lexStep true byte rest = some (some (.symbol byte), rest) := by
  have blank : isAsciiWhitespace byte = false := by
    simp only [isAsciiPunctuation, isAsciiWhitespace, Bool.or_eq_true, Bool.and_eq_true, decide_eq_true_eq,
      Bool.or_eq_false_iff, beq_eq_false_iff_ne] at punctuation ⊢
    omega
  have unlettered : isAsciiAlphabetic byte = false := by
    simp only [isAsciiPunctuation, isAsciiAlphabetic, Bool.or_eq_true, Bool.and_eq_true, decide_eq_true_eq,
      Bool.or_eq_false_iff, Bool.and_eq_false_iff, decide_eq_false_iff_not] at punctuation ⊢
    omega
  have dashed : ¬ (byte = 45 ∧ rest.head? = some 45 ∧
      (rest.tail.head?.any fun next => isAsciiWhitespace next || isAsciiControl next) = true) := by
    rintro ⟨rfl, second, third⟩
    have comment := uncommented rfl
    cases next : rest.tail.head? with
    | none => simp [next] at third
    | some unit =>
      simp only [startsLineComment, second, next, Option.all_some, isSpace, isControl, beq_self_eq_true, Bool.and_self,
        Bool.true_and, Bool.or_eq_false_iff, Bool.and_eq_false_iff, decide_eq_false_iff_not, beq_eq_false_iff_ne] at comment
      simp only [next, Option.any_some, isAsciiWhitespace, isAsciiControl, Bool.or_eq_true, decide_eq_true_eq,
        beq_iff_eq] at third
      omega
  have divided : ¬ (byte = 47 ∧ rest.head? = some 42) := fun both => undivided both.1 both.2
  simp only [lexStep, blank, plain, beq_eq_false_iff_ne.mpr, ne_eq, not_false_eq_true, Bool.or_self,
    Bool.false_eq_true, if_false, or_self, dashed, divided, unlettered, punctuation, if_true]

/-! ### Texts that are lexed apart from what follows -/

/-- The policy's lexer emits these tokens for a text, and goes on behind it. -/
def Lexed (text rest : List Nat) (emitted : List SqlToken) : Prop :=
  lexMysql (text ++ rest) true = (lexMysql rest true).map (emitted ++ ·)

theorem lexed_nil (rest : List Nat) : Lexed [] rest [] := by
  simp [Lexed]

theorem Lexed.append {first second rest : List Nat} {emitted emitted' : List SqlToken}
    (lexed : Lexed first (second ++ rest) emitted) (lexed' : Lexed second rest emitted') :
    Lexed (first ++ second) rest (emitted ++ emitted') := by
  rw [Lexed, List.append_assoc, lexed, lexed', Option.map_map]
  congr 1
  funext later
  simp

theorem Lexed.step {byte : Nat} {text rest : List Nat} {token : Option SqlToken} {emitted : List SqlToken}
    (read : lexStep true byte (text ++ rest) = some (token, text ++ rest)) (lexed : Lexed text rest emitted) :
    Lexed (byte :: text) rest (token.toList ++ emitted) := by
  rw [Lexed, List.cons_append, lexMysql_step read, lexed, Option.map_map]
  congr 1
  funext later
  simp

theorem Lexed.some {text rest : List Nat} {emitted tokens : List SqlToken} (lexed : Lexed text rest emitted)
    (whole : lexMysql (text ++ rest) true = some tokens) :
    ∃ later, lexMysql rest true = some later ∧ tokens = emitted ++ later := by
  rw [lexed] at whole
  obtain ⟨later, behind, rfl⟩ := Option.map_eq_some_iff.mp whole
  exact ⟨later, behind, rfl⟩

/-- Digits leave no token. -/
theorem lexed_digits {text : List Nat} (digits : ∀ byte ∈ text, isDigit byte = true) (rest : List Nat) :
    Lexed text rest [] := by
  induction text with
  | nil => exact lexed_nil rest
  | cons byte text ih =>
    obtain ⟨first, others⟩ := List.forall_mem_cons.mp digits
    exact (ih others).step (lexStep_passed (Or.inl first) _)

/-- Comparison operators are symbols. -/
theorem lexed_operator {text : List Nat} (inside : ∀ byte ∈ text, isComparison byte = true) (rest : List Nat) :
    Lexed text rest (text.map .symbol) := by
  induction text with
  | nil => exact lexed_nil rest
  | cons byte text ih =>
    obtain ⟨first, others⟩ := List.forall_mem_cons.mp inside
    have kind : byte = 33 ∨ byte = 60 ∨ byte = 61 ∨ byte = 62 := by
      simp only [isComparison, Bool.or_eq_true, Bool.and_eq_true, decide_eq_true_eq, beq_iff_eq] at first
      omega
    refine (ih others).step (lexStep_symbol ?_ ?_ ?_ ?_)
    · rcases kind with rfl | rfl | rfl | rfl <;> rfl
    · omega
    · omega
    · omega

theorem span_append {test : Nat → Bool} (text : List Nat) {rest : List Nat}
    (stops : startsWith test rest = false) :
    (text ++ rest).takeWhile test = text.takeWhile test ∧ (text ++ rest).dropWhile test = text.dropWhile test ++ rest := by
  induction text with
  | nil =>
    have none := @span_stops test [] rest (by simp) stops
    exact none
  | cons unit text ih =>
    simp only [List.cons_append, List.takeWhile_cons, List.dropWhile_cons]
    cases test unit with
    | false => exact ⟨rfl, rfl⟩
    | true => exact ⟨congrArg (unit :: ·) ih.1, ih.2⟩

theorem isIdentifier_of_isWordByte {byte : Nat} (inside : isWordByte byte = true) : isIdentifier byte = true := by
  simp only [isWordByte, isAsciiAlphabetic, isAsciiDigit, isIdentifier, isLetter, isDigit, Bool.or_eq_true,
    Bool.and_eq_true, decide_eq_true_eq, beq_iff_eq] at inside ⊢
  omega

theorem startsWith_mono {test test' : Nat → Bool} (weaker : ∀ unit, test unit = true → test' unit = true)
    {text : List Nat} (stops : startsWith test' text = false) : startsWith test text = false := by
  cases text with
  | nil => rfl
  | cons unit text =>
    cases starts : test unit with
    | false => simp [startsWith, starts]
    | true => simp [startsWith, weaker unit starts] at stops

/-- A token that structures no statement. -/
def Plain (emitted : List SqlToken) : Prop := .semicolon ∉ emitted

/-- The identifiers of the server are fragments for the policy: words, `$`, and
bytes that it passes over. -/
theorem lexed_identifier {text rest : List Nat} (inside : ∀ byte ∈ text, isIdentifier byte = true)
    (stops : startsWith isIdentifier rest = false) :
    ∃ emitted, Lexed text rest emitted ∧ Plain emitted ∧
      (emitted = [] → ∀ byte ∈ text, isDigit byte = true ∨ 128 ≤ byte) := by
  generalize length : text.length = count
  induction count using Nat.strongRecOn generalizing text with
  | ind count ih =>
    cases text with
    | nil => exact ⟨[], lexed_nil rest, by simp [Plain], by simp⟩
    | cons byte text =>
      obtain ⟨first, others⟩ := List.forall_mem_cons.mp inside
      simp only [List.length_cons] at length
      cases starts : isAsciiAlphabetic byte || byte == 95 with
      | true =>
        have unworded : startsWith isWordByte rest = false := startsWith_mono (fun _ => isIdentifier_of_isWordByte) stops
        obtain ⟨taken, left⟩ := span_append text unworded
        have shorter := (@List.dropWhile_suffix _ text isWordByte).length_le
        have later : ∀ other ∈ text.dropWhile isWordByte, isIdentifier other = true := fun other listed =>
          others other ((List.dropWhile_suffix _).subset listed)
        obtain ⟨emitted, lexed, plain, -⟩ := ih _ (by omega) later rfl
        have read := lexStep_word starts (text ++ rest)
        rw [taken, left] at read
        refine ⟨.word ((byte :: text.takeWhile isWordByte).map toAsciiUppercase) :: emitted, ?_, ?_, by simp⟩
        · rw [Lexed, List.cons_append, lexMysql_step read, lexed, Option.map_map]
          congr 1
        · simpa [Plain] using plain
      | false =>
        obtain ⟨emitted, lexed, plain, unseen⟩ := ih _ (by omega) others rfl
        by_cases dollar : byte = 36
        · subst byte
          exact ⟨_, lexed.step (lexStep_symbol rfl (by decide) (by omega) (by omega)), by simpa [Plain] using plain, by simp⟩
        · have passed : isDigit byte = true ∨ 128 ≤ byte := by
            simp only [isIdentifier, isLetter, isAsciiAlphabetic, isDigit, Bool.or_eq_true, Bool.and_eq_true,
              decide_eq_true_eq, beq_iff_eq, Bool.or_eq_false_iff, Bool.and_eq_false_iff, decide_eq_false_iff_not,
              beq_eq_false_iff_ne] at first starts ⊢
            omega
          refine ⟨emitted, lexed.step (lexStep_passed (by tauto) _), plain, fun empty => ?_⟩
          exact List.forall_mem_cons.mpr ⟨passed, unseen empty⟩

/-- A word of letters and `_` is the same word for the policy. -/
theorem lexed_word {byte : Nat} {text rest : List Nat}
    (letters : ∀ other ∈ byte :: text, (isAsciiAlphabetic other || other == 95) = true)
    (stops : startsWith isIdentifier rest = false) :
    Lexed (byte :: text) rest [.word ((byte :: text).map toAsciiUppercase)] := by
  obtain ⟨first, others⟩ := List.forall_mem_cons.mp letters
  have inside : ∀ other ∈ text, isWordByte other = true := by
    intro other listed
    have letter := others other listed
    simp only [isWordByte, Bool.or_eq_true] at letter ⊢
    tauto
  obtain ⟨taken, left⟩ := span_stops inside (startsWith_mono (fun _ => isIdentifier_of_isWordByte) stops)
  have read := lexStep_word first (text ++ rest)
  rw [taken, left] at read
  rw [Lexed, List.cons_append, lexMysql_step read]
  rfl

/-! ### Numerals -/

def isMark (unit : Nat) : Bool := unit == 101 || unit == 69

def isSign (unit : Nat) : Bool := unit == 43 || unit == 45

/-- A numeral with an exponent that has no sign. -/
def bareExponent (numeral : List Nat) : Bool := numeral.any isMark && !numeral.any isSign

private theorem digits_unmarked {text : List Nat} (digits : ∀ unit ∈ text, isDigit unit = true) :
    text.any isMark = false ∧ text.any isSign = false := by
  have kind (unit : Nat) (listed : unit ∈ text) : 48 ≤ unit ∧ unit ≤ 57 := by
    simpa [isDigit] using digits unit listed
  constructor <;> rw [List.any_eq_false] <;> intro unit listed <;> have code := kind unit listed <;>
    simp only [isMark, isSign, Bool.or_eq_true, beq_iff_eq] <;> omega

theorem mem_takeWhile_digit (text : List Nat) : ∀ unit ∈ text.takeWhile isDigit, isDigit unit = true := by
  intro unit listed
  exact List.mem_takeWhile_imp listed

theorem startsWith_dropWhile (test : Nat → Bool) (text : List Nat) : startsWith test (text.dropWhile test) = false := by
  cases left : text.dropWhile test with
  | nil => rfl
  | cons unit rest =>
    have other := List.head_dropWhile_not test (show text.dropWhile test ≠ [] by rw [left]; exact List.cons_ne_nil _ _)
    simp only [left, List.head_cons] at other
    simp [startsWith, other]

/-- The point of a numeral is a symbol. -/
private theorem lexed_fraction (text : List Nat) :
    ∃ emitted, Plain emitted ∧ (fraction false text).1.any isMark = false ∧ (fraction false text).1.any isSign = false ∧
      lexMysql text true = (lexMysql (fraction false text).2 true).map (emitted ++ ·) := by
  fun_cases fraction false text with
  | case1 => exact ⟨[], by simp [Plain], rfl, rfl, by simp⟩
  | case2 unit rest pointed =>
    obtain ⟨rfl, -⟩ := pointed
    have digits := mem_takeWhile_digit rest
    obtain ⟨unmarked, unsigned⟩ := digits_unmarked digits
    have skipped := lexed_digits digits (rest.dropWhile isDigit)
    have read : lexStep true 46 (rest.takeWhile isDigit ++ rest.dropWhile isDigit) = some (some (.symbol 46), _) :=
      lexStep_symbol rfl (by decide) (by omega) (by omega)
    have lexed := skipped.step read
    rw [Lexed, List.cons_append, List.takeWhile_append_dropWhile] at lexed
    exact ⟨[.symbol 46], by simp [Plain], by simp [unmarked, isMark], by simp [unsigned, isSign], lexed⟩
  | case3 => exact ⟨[], by simp [Plain], rfl, rfl, by simp⟩

/-- An unsigned exponent starts a word for the policy, which goes on behind the
digits. A sign ends it before the digits. -/
private theorem lexed_exponent (text : List Nat) :
    ∃ emitted, Plain emitted ∧ (bareExponent (exponent text).1 = true → emitted ≠ [] ∧
        startsWith isDigit (exponent text).2 = false) ∧
      lexMysql text true = (lexMysql (if bareExponent (exponent text).1 then
        (exponent text).2.dropWhile isWordByte else (exponent text).2) true).map (emitted ++ ·) := by
  have marks {unit : Nat} (marked : unit = 101 ∨ unit = 69) : (isAsciiAlphabetic unit || unit == 95) = true := by
    rcases marked with rfl | rfl <;> rfl
  fun_cases exponent text with
  | case1 => exact ⟨[], by simp [Plain], by simp [bareExponent], by simp [bareExponent]⟩
  | case2 => exact ⟨[], by simp [Plain], by simp [bareExponent], by simp [bareExponent]⟩
  | case3 unit next rest marked digit =>
    have digits := mem_takeWhile_digit (next :: rest)
    obtain ⟨unmarked, unsigned⟩ := digits_unmarked digits
    have bare : bareExponent (unit :: (next :: rest).takeWhile isDigit) = true := by
      rcases marked with rfl | rfl <;> simp [bareExponent, unsigned, isMark, isSign]
    have inside : ∀ other ∈ (next :: rest).takeWhile isDigit, isWordByte other = true := by
      intro other listed
      have code := digits other listed
      simp only [isDigit, isWordByte, isAsciiDigit, Bool.or_eq_true] at code ⊢
      tauto
    have left : (next :: rest).dropWhile isWordByte = ((next :: rest).dropWhile isDigit).dropWhile isWordByte := by
      conv_lhs => rw [← @List.takeWhile_append_dropWhile _ isDigit (next :: rest)]
      rw [List.dropWhile_append_of_pos inside]
    have lexed := lexMysql_step (lexStep_word (marks marked) (next :: rest))
    rw [left] at lexed
    refine ⟨[.word ((unit :: (next :: rest).takeWhile isWordByte).map toAsciiUppercase)], by simp [Plain],
      fun _ => ⟨by simp, startsWith_dropWhile isDigit _⟩, ?_⟩
    rw [if_pos bare]
    exact lexed
  | case4 unit next rest marked other signed =>
    obtain ⟨signed, follows⟩ := signed
    have digits := mem_takeWhile_digit rest
    have skipped := lexed_digits digits (rest.dropWhile isDigit)
    rw [Lexed, List.takeWhile_append_dropWhile] at skipped
    have undashed : rest.head? ≠ some 45 := by
      cases rest with
      | nil => simp
      | cons digit rest =>
        intro same
        obtain rfl : digit = 45 := by simpa using same
        cases follows
    have uncommented : next = 45 → startsLineComment next rest = false := by
      rintro rfl
      simp [startsLineComment, undashed]
    have stops : isWordByte next = false := by
      rcases signed with rfl | rfl <;> rfl
    have punctuation : isAsciiPunctuation next = true := by
      rcases signed with rfl | rfl <;> rfl
    have sign := lexMysql_step (lexStep_symbol punctuation (by omega) uncommented (by omega))
    have mark := lexMysql_step (lexStep_word (marks marked) (next :: rest))
    rw [List.takeWhile_cons_of_neg (by simp [stops]), List.dropWhile_cons_of_neg (by simp [stops]), sign, skipped] at mark
    have bare : bareExponent (unit :: next :: rest.takeWhile isDigit) = false := by
      rcases signed with rfl | rfl <;> simp [bareExponent, isSign]
    refine ⟨[.word ([unit].map toAsciiUppercase), .symbol next], by simp [Plain], by simp [bare], ?_⟩
    rw [if_neg (by simp [bare]), mark, Option.map_map, Option.map_map]
    congr 1
  | case5 => exact ⟨[], by simp [Plain], by simp [bareExponent], by simp [bareExponent]⟩
  | case6 => exact ⟨[], by simp [Plain], by simp [bareExponent], by simp [bareExponent]⟩

/-- A numeral of the server: only behind an unsigned exponent does the policy's
word go on. -/
theorem lexed_numeral (text : List Nat) :
    ∃ emitted, Plain emitted ∧ (bareExponent (numeral false text).1 = true → emitted ≠ [] ∧
        startsWith isDigit (numeral false text).2 = false) ∧
      lexMysql text true = (lexMysql (if bareExponent (numeral false text).1 then
        (numeral false text).2.dropWhile isWordByte else (numeral false text).2) true).map (emitted ++ ·) := by
  have digits := mem_takeWhile_digit text
  obtain ⟨unmarked, unsigned⟩ := digits_unmarked digits
  have skipped := lexed_digits digits (text.dropWhile isDigit)
  rw [Lexed, List.takeWhile_append_dropWhile] at skipped
  obtain ⟨point, plain, unmarked', unsigned', lexed⟩ := lexed_fraction (text.dropWhile isDigit)
  obtain ⟨scale, plain', bare, lexed'⟩ := lexed_exponent (fraction false (text.dropWhile isDigit)).2
  have same : bareExponent (numeral false text).1 =
      bareExponent (exponent (fraction false (text.dropWhile isDigit)).2).1 := by
    simp [bareExponent, numeral, unmarked, unsigned, unmarked', unsigned']
  refine ⟨point ++ scale, ?_, ?_, ?_⟩
  · simp only [Plain, List.mem_append, not_or] at plain plain' ⊢
    exact ⟨plain, plain'⟩
  · rw [same]
    intro bared
    obtain ⟨some, stops⟩ := bare bared
    exact ⟨by simp [some], stops⟩
  · rw [same, skipped, lexed, lexed', Option.map_map, Option.map_map]
    simp only [numeral]
    congr 1
    funext later
    simp

/-! ### What is emitted for each lexeme -/

/-- Tokens of the server that may leave no trace in the policy's tokens. -/
def Unseen : Token → Prop
  | .number _ => True
  | .word text => ∀ unit ∈ text, isDigit unit = true ∨ 128 ≤ unit
  | .symbol unit => isControl unit = true
  | _ => False

/-- Behind this lexeme the policy is still inside a word. -/
def swallows : Option Token → Bool
  | some (.number text) => bareExponent text
  | _ => false

/-- What the policy's tokens for one lexeme of the server tell, where the policy may
still be inside a word when the lexeme begins. -/
structure Emits (inside : Bool) (lexeme : Option Token) (emitted : List SqlToken) : Prop where
  separator : lexeme = some (.symbol 59) → emitted = [.semicolon]
  plain : lexeme ≠ some (.symbol 59) → Plain emitted
  gap : lexeme = none → wordsOf emitted = []
  unseen : inside = false → emitted = [] → ∀ token ∈ lexeme, Unseen token
  swallowed : swallows lexeme = true → emitted ≠ []
  keyword : inside = false → ∀ text, lexeme = some (.word text) →
    (∀ unit ∈ text, (isAsciiAlphabetic unit || unit == 95) = true) → emitted = [.word (text.map toAsciiUppercase)]

/-- The lexemes of the server and the policy's tokens for them. -/
inductive Tracks : Bool → List (Option Token) → List SqlToken → Prop where
  | nil {inside} : Tracks inside [] []
  | cons {inside lexeme emitted lexemes later} (emits : Emits inside lexeme emitted)
      (tracks : Tracks (swallows lexeme) lexemes later) : Tracks inside (lexeme :: lexemes) (emitted ++ later)

theorem Emits.weaken {inside : Bool} {lexeme : Option Token} {emitted : List SqlToken}
    (emits : Emits false lexeme emitted) : Emits inside lexeme emitted := by
  cases inside with
  | false => exact emits
  | true => exact { emits with unseen := by simp, keyword := by simp }

theorem emits_gap {emitted : List SqlToken} (quiet : ∀ token ∈ emitted, ∃ byte, token = .symbol byte) :
    Emits false none emitted where
  separator := by simp
  plain := by
    intro _ listed
    obtain ⟨byte, same⟩ := quiet _ listed
    cases same
  gap := by
    intro _
    rw [wordsOf, List.filterMap_eq_nil_iff]
    intro token listed
    obtain ⟨byte, rfl⟩ := quiet _ listed
    rfl
  unseen := by simp
  swallowed := by simp [swallows]
  keyword := by simp

/-- A token that is neither a word nor a separator, with a trace of its own. -/
theorem emits_plain {token : Token} {emitted : List SqlToken} (other : token ≠ .symbol 59)
    (unworded : ∀ text, token ≠ .word text) (plain : Plain emitted) (trace : emitted = [] → Unseen token)
    (swallowed : swallows (some token) = true → emitted ≠ []) : Emits false (some token) emitted where
  separator := fun same => absurd (Option.some.inj same) other
  plain := fun _ => plain
  gap := by simp
  unseen := by
    intro _ empty found same
    obtain rfl := Option.some.inj same
    exact trace empty
  swallowed := swallowed
  keyword := fun _ text same => absurd (Option.some.inj same) (unworded text)

end Pipa.SqlPolicy
