import Pipa.Library.SqlLexer
import Mathlib.Data.List.TakeWhile

/-! Phrases of a statement: texts that are read as tokens of their own, whatever stands
in front of them, when what stands behind them begins as it should. -/

namespace SqlLexer

variable {rules : Rules}

/-- What follows is the end, or begins with a unit of this kind. -/
def Meets (stop : Nat → Bool) (rest : List Nat) : Prop := ∀ unit, rest.head? = some unit → stop unit = true

theorem meets_nil (stop : Nat → Bool) : Meets stop [] := by
  intro unit same
  cases same

theorem meets_cons {stop : Nat → Bool} {unit : Nat} (stops : stop unit = true) (rest : List Nat) : Meets stop (unit :: rest) := by
  intro first same
  obtain rfl := Option.some.inj same
  exact stops

theorem Meets.startsWith {stop test : Nat → Bool} (apart : ∀ unit, stop unit = true → test unit = false) {rest : List Nat}
    (meets : Meets stop rest) : startsWith test rest = false := by
  cases rest with
  | nil => rfl
  | cons unit rest => simpa [SqlLexer.startsWith] using apart unit (meets unit rfl)

/-- In front of such a unit the text reads as these tokens, whatever comes behind. -/
def ReadsBefore (rules : Rules) (stop : Nat → Bool) (text : List Nat) (read : List Token) : Prop :=
  ∀ rest, Meets stop rest → tokens rules (text ++ rest) = (tokens rules rest).map (read ++ ·)

/-- Any unit may follow. -/
def anything (_ : Nat) : Bool := true

/-- A blank or a semicolon. -/
def isGap (unit : Nat) : Bool := unit == 32 || unit == 59

namespace ReadsBefore
variable {stop stop' : Nat → Bool} {text text' : List Nat} {read read' : List Token}

theorem whole (reads : ReadsBefore rules stop text read) : tokens rules text = some read := by
  simpa using reads [] (meets_nil stop)

theorem mono (reads : ReadsBefore rules stop text read) (fewer : ∀ unit, stop' unit = true → stop unit = true) :
    ReadsBefore rules stop' text read := fun rest meets => reads rest fun unit same => fewer unit (meets unit same)

/-- One phrase behind another. -/
theorem append (reads : ReadsBefore rules stop text read) (reads' : ReadsBefore rules stop' text' read')
    (meets : ∀ rest, Meets stop' rest → Meets stop (text' ++ rest)) :
    ReadsBefore rules stop' (text ++ text') (read ++ read') := by
  intro rest follows
  rw [List.append_assoc, reads _ (meets rest follows), reads' rest follows, Option.map_map]
  congr 1
  funext later
  simp

end ReadsBefore

/-- A phrase of one lexeme. -/
theorem readsBefore_lexeme {stop : Nat → Bool} {unit : Nat} {text : List Nat} (token : Option Token)
    (read : ∀ rest, Meets stop rest → lexeme rules unit (text ++ rest) = some (token, rest)) :
    ReadsBefore rules stop (unit :: text) token.toList := by
  intro rest follows
  rw [List.cons_append, tokens_of_lexeme (read rest follows)]

theorem readsBefore_blank : ReadsBefore rules anything [32] [] :=
  readsBefore_lexeme none fun _ _ => rfl

/-- Parentheses, commas, semicolons and stars are tokens of their own. -/
theorem readsBefore_symbol {unit : Nat} (plain : unit = 40 ∨ unit = 41 ∨ unit = 42 ∨ unit = 44 ∨ unit = 59) :
    ReadsBefore rules anything [unit] [.symbol unit] := by
  refine readsBefore_lexeme (some (.symbol unit)) fun rest _ => ?_
  rcases plain with rfl | rfl | rfl | rfl | rfl
  all_goals simp [lexeme, isSpace, startsLineComment, startsBlockComment, isDigit, isIdentifier, isLetter, isComparison]

/-- A point is a token of its own where no digit follows. -/
theorem readsBefore_point : ReadsBefore rules (fun unit => !isDigit unit) [46] [.symbol 46] := by
  refine readsBefore_lexeme (some (.symbol 46)) fun rest follows => ?_
  have undigited : startsWith isDigit rest = false := follows.startsWith fun unit stops => by simpa using stops
  simp [lexeme, isSpace, startsLineComment, startsBlockComment, isDigit, isIdentifier, isLetter, isComparison, undigited]

/-- A sign is a token of its own where no second one follows. -/
theorem readsBefore_sign {sign : Nat} (signed : sign = 43 ∨ sign = 45) :
    ReadsBefore rules (fun unit => unit != 45) [sign] [.symbol sign] := by
  refine readsBefore_lexeme (some (.symbol sign)) fun rest follows => ?_
  have single : rest.head? ≠ some 45 := fun same => by simpa using follows 45 same
  rcases signed with rfl | rfl
  all_goals simp [lexeme, isSpace, startsLineComment, startsBlockComment, isDigit, isIdentifier, isLetter, isComparison, single]

theorem readsBefore_word {unit : Nat} {text : List Nat} (inside : ∀ other ∈ unit :: text, isIdentifier other = true)
    (initial : isDigit unit = false) :
    ReadsBefore rules (fun unit => !isIdentifier unit) (unit :: text) [.word (unit :: text)] := by
  refine readsBefore_lexeme (some (.word (unit :: text))) fun rest follows => ?_
  obtain ⟨first, others⟩ := List.forall_mem_cons.mp inside
  obtain ⟨taken, left⟩ := span_stops others (follows.startsWith fun unit stops => by simpa using stops)
  have kind : unit ≠ 32 ∧ ¬ (9 ≤ unit ∧ unit ≤ 13) ∧ unit ≠ 39 ∧ unit ≠ 34 ∧ unit ≠ 96 ∧ unit ≠ 35 ∧ unit ≠ 45 ∧
      unit ≠ 47 ∧ unit ≠ 46 := by
    simp only [isIdentifier, isLetter, isDigit, Bool.or_eq_true, Bool.and_eq_true, decide_eq_true_eq, beq_iff_eq] at first
    omega
  simp [lexeme, isSpace, startsLineComment, startsBlockComment, kind, initial, first, taken, left]

theorem readsBefore_string (text : List Nat) :
    ReadsBefore rules (fun unit => unit != 39) (39 :: (doubled true 39 text ++ [39]))
      [.string (39 :: (doubled true 39 text ++ [39]))] := by
  refine readsBefore_lexeme (some (.string (39 :: (doubled true 39 text ++ [39])))) fun rest follows => ?_
  have apart : rest.head? ≠ some 39 := fun same => by simpa using follows 39 same
  have closed := @closeQuote_doubled rules.backslashEscapes true 39 (fun _ => rfl) (by decide) text rest apart
  simp [lexeme, isSpace, closed]

theorem readsBefore_quoted (text : List Nat) :
    ReadsBefore rules (fun unit => unit != 96) (96 :: (doubled false 96 text ++ [96]))
      [.quoted (96 :: (doubled false 96 text ++ [96]))] := by
  refine readsBefore_lexeme (some (.quoted (96 :: (doubled false 96 text ++ [96])))) fun rest follows => ?_
  have apart : rest.head? ≠ some 96 := fun same => by simpa using follows 96 same
  have closed := @closeQuote_doubled false false 96 (fun same => same) (by decide) text rest apart
  simp [lexeme, isSpace, closed]

theorem ReadsBefore.spaced {stop stop' : Nat → Bool} {text text' : List Nat} {read read' : List Token}
    (reads : ReadsBefore rules stop text read) (blank : stop 32 = true) (reads' : ReadsBefore rules stop' text' read') :
    ReadsBefore rules stop' (text ++ 32 :: text') (read ++ read') := by
  have behind : ReadsBefore rules stop' (32 :: text') read' :=
    readsBefore_blank.append reads' fun _ _ _ _ => rfl
  exact reads.append behind fun rest _ => meets_cons blank _

theorem readsBefore_space {unit : Nat} (space : isSpace unit = true) : ReadsBefore rules anything [unit] [] :=
  readsBefore_lexeme none fun _ _ => by rw [lexeme, if_pos space]; rfl

/-- A blank, a closing parenthesis or a comma. -/
def isDelimiter (unit : Nat) : Bool := unit == 32 || unit == 41 || unit == 44

theorem Reads.before {text : List Nat} {read : List Token} (reads : Reads rules text read) :
    ReadsBefore rules isDelimiter text read := by
  intro rest meets
  refine reads rest fun unit same => ?_
  simpa [isDelimiter, or_assoc] using meets unit same

/-- Texts are read one after another through the separators between them. -/
theorem readsBefore_intercalate {stop middle : Nat → Bool} {separator : List Nat} {between : List Token}
    (separates : ReadsBefore rules middle separator between) (starts : ∀ rest, Meets stop (separator ++ rest))
    {texts : List (List Nat)} {reads : List (List Token)}
    (each : List.Forall₂ (fun text read => ReadsBefore rules stop text read ∧ ∀ rest, Meets middle (text ++ rest)) texts reads)
    (nonempty : texts ≠ []) : ReadsBefore rules stop (separator.intercalate texts) (between.intercalate reads) := by
  induction each with
  | nil => exact absurd rfl nonempty
  | @cons text read texts reads first others ih =>
    cases others with
    | nil =>
      rw [List.intercalate_singleton, List.intercalate_singleton]
      exact first.1
    | @cons next read' texts reads second others =>
      have later := ih (List.cons_ne_nil _ _)
      have meets (rest : List Nat) : Meets middle (separator.intercalate (next :: texts) ++ rest) := by
        cases texts with
        | nil => rw [List.intercalate_singleton]; exact second.2 rest
        | cons other texts => rw [List.intercalate_cons_cons, List.append_assoc, List.append_assoc]; exact second.2 _
      rw [List.intercalate_cons_cons, List.intercalate_cons_cons, List.append_assoc, List.append_assoc]
      have behind := separates.append later fun rest _ => meets rest
      refine first.1.append behind fun rest _ => ?_
      rw [List.append_assoc]
      exact starts _

/-- A keyword ends where no identifier goes on. -/
def isWordEnd (unit : Nat) : Bool := !isIdentifier unit

/-- The token of a keyword. -/
def keyword (name : String) : Token := .word (units name)

def isKeywordText (text : List Nat) : Bool := text.all isIdentifier && text.head?.any fun unit => !isDigit unit

theorem readsBefore_keyword {name : String} (proper : isKeywordText (units name) = true) :
    ReadsBefore rules isWordEnd (units name) [keyword name] := by
  rw [keyword]
  obtain ⟨inside, initial⟩ := Bool.and_eq_true_iff.mp proper
  cases text : units name with
  | nil => simp [text] at initial
  | cons unit rest =>
    rw [text] at inside initial
    exact readsBefore_word (List.all_eq_true.mp inside) (by simpa using initial)

/-- Texts joined by blanks are read one after another. -/
theorem readsBefore_joined {texts : List String} {reads : List (List Token)}
    (each : List.Forall₂ (fun text read => ReadsBefore rules isGap (units text) read) texts reads) (nonempty : texts ≠ []) :
    ReadsBefore rules isGap (units (" ".intercalate texts)) reads.flatten := by
  induction each with
  | nil => exact absurd rfl nonempty
  | @cons text read texts reads first others ih =>
    cases texts with
    | nil =>
      cases others
      simpa using first
    | cons next texts =>
      have shape : units (" ".intercalate (text :: next :: texts)) = units text ++ 32 :: units (" ".intercalate (next :: texts)) := by
        rw [String.intercalate_cons_cons, units_append, units_append, List.append_assoc]
        rfl
      rw [shape, List.flatten_cons]
      exact first.spaced rfl (ih (List.cons_ne_nil _ _))

/-! ### Marks -/

/-- The units that structure a list of actions: parentheses, commas and semicolons. -/
def isMark (unit : Nat) : Bool := unit == 40 || unit == 41 || unit == 44 || unit == 59

def Token.mark? : Token → Option Nat
  | .symbol unit => if isMark unit then some unit else none
  | _ => none

def marks (read : List Token) : List Nat := read.filterMap Token.mark?

@[simp]
theorem marks_append (read read' : List Token) : marks (read ++ read') = marks read ++ marks read' := List.filterMap_append

/-- Marks that close what they open, without a comma or a semicolon outside. -/
def closes : Nat → List Nat → Bool
  | depth, [] => depth == 0
  | depth, unit :: rest =>
    if unit = 40 then closes (depth + 1) rest
    else if unit = 41 then 0 < depth && closes (depth - 1) rest
    else if unit = 44 then 0 < depth && closes depth rest
    else closes depth rest && unit != 59

theorem closes_append {depth : Nat} {first second : List Nat} (closed : closes depth first = true)
    (closed' : closes 0 second = true) : closes depth (first ++ second) = true := by
  induction first generalizing depth with
  | nil =>
    obtain rfl : depth = 0 := by simpa [closes] using closed
    exact closed'
  | cons unit first ih =>
    rw [closes] at closed
    rw [List.cons_append, closes]
    by_cases opens : unit = 40
    · rw [if_pos opens] at closed ⊢
      exact ih closed
    rw [if_neg opens] at closed ⊢
    by_cases shuts : unit = 41
    · rw [if_pos shuts, Bool.and_eq_true] at closed ⊢
      exact ⟨closed.1, ih closed.2⟩
    rw [if_neg shuts] at closed ⊢
    by_cases comma : unit = 44
    · rw [if_pos comma, Bool.and_eq_true] at closed ⊢
      exact ⟨closed.1, ih closed.2⟩
    rw [if_neg comma, Bool.and_eq_true] at closed ⊢
    exact ⟨ih closed.1, closed.2⟩

/-- One action: no comma or semicolon outside parentheses, and each of these closed. -/
def Single (read : List Token) : Prop := closes 0 (marks read) = true

instance (read : List Token) : Decidable (Single read) := inferInstanceAs (Decidable (_ = true))

theorem single_nil : Single [] := rfl

theorem Single.append {read read' : List Token} (single : Single read) (single' : Single read') : Single (read ++ read') := by
  rw [Single, marks_append]
  exact closes_append single single'

/-! ### Texts without quotes, comments and signs -/

/-- Blanks, identifiers, points, parentheses and commas. -/
def isTame (unit : Nat) : Bool :=
  isSpace unit || isIdentifier unit || unit == 46 || unit == 40 || unit == 41 || unit == 44

theorem span_local (text : List Nat) {rest : List Nat} {test : Nat → Bool} (stop : startsWith test rest = false) :
    (text ++ rest).takeWhile test = text.takeWhile test ∧ (text ++ rest).dropWhile test = text.dropWhile test ++ rest := by
  induction text with
  | nil =>
    obtain ⟨taken, left⟩ := @span_stops test [] rest (by simp) stop
    exact ⟨taken, left⟩
  | cons unit text ih =>
    by_cases passes : test unit = true
    · simpa [passes] using ih
    · simp [passes]

section Gap
variable {text rest : List Nat}

theorem isGap_cases {unit : Nat} (gap : isGap unit = true) : unit = 32 ∨ unit = 59 := by
  simpa [isGap] using gap

theorem gap_digit (gap : Meets isGap rest) : startsWith isDigit rest = false := by
  refine gap.startsWith fun unit stops => ?_
  rcases isGap_cases stops with rfl | rfl <;> rfl

theorem gap_identifier (gap : Meets isGap rest) : startsWith isIdentifier rest = false := by
  refine gap.startsWith fun unit stops => ?_
  rcases isGap_cases stops with rfl | rfl <;> rfl

theorem startsWith_local {test : Nat → Bool} (stop : startsWith test rest = false) :
    startsWith test (text ++ rest) = startsWith test text := by
  cases text with
  | nil => exact stop
  | cons unit text => rfl

theorem fraction_local {barePoint : Bool} (gap : Meets isGap rest) :
    fraction barePoint (text ++ rest) = ((fraction barePoint text).1, (fraction barePoint text).2 ++ rest) := by
  have undigited := gap_digit gap
  cases text with
  | nil =>
    cases rest with
    | nil => rfl
    | cons unit rest =>
      have unpointed : unit ≠ 46 := by
        rintro rfl
        exact absurd (gap 46 rfl) (by decide)
      change fraction barePoint (unit :: rest) = ([], unit :: rest)
      rw [fraction, if_neg fun pointed => unpointed pointed.1]
  | cons unit text =>
    obtain ⟨taken, left⟩ := span_local text undigited
    rw [List.cons_append, fraction, fraction, startsWith_local undigited, taken, left]
    split <;> rfl

/-- Without signs an exponent ends where a gap begins. -/
theorem exponent_local (gap : Meets isGap rest) (unsigned : ∀ unit ∈ text, unit ≠ 43 ∧ unit ≠ 45) :
    exponent (text ++ rest) = ((exponent text).1, (exponent text).2 ++ rest) := by
  have undigited := gap_digit gap
  rcases text with _ | ⟨unit, _ | ⟨next, text⟩⟩
  · rcases rest with _ | ⟨unit, _ | ⟨next, rest⟩⟩
    · rfl
    · rfl
    · have other : ¬ (unit = 101 ∨ unit = 69) := by
        have stops := isGap_cases (gap unit rfl)
        omega
      change exponent (unit :: next :: rest) = ([], unit :: next :: rest)
      rw [exponent, if_neg other]
  · rcases rest with _ | ⟨next, rest⟩
    · rfl
    · have stops := isGap_cases (gap next rfl)
      have digitless : isDigit next = false := by rcases stops with rfl | rfl <;> rfl
      have unsigned : ¬ ((next = 43 ∨ next = 45) ∧ startsWith isDigit rest = true) := by omega
      change exponent (unit :: next :: rest) = ([], unit :: next :: rest)
      rw [exponent, digitless, if_neg Bool.false_ne_true, if_neg unsigned, ite_self]
  · have plain := unsigned next (by simp)
    have unsigned (digits : List Nat) : ¬ ((next = 43 ∨ next = 45) ∧ startsWith isDigit digits = true) := by omega
    obtain ⟨taken, left⟩ := span_local (next :: text) undigited
    rw [List.cons_append] at taken left
    rw [List.cons_append, List.cons_append, exponent, exponent, taken, left, if_neg (unsigned _), if_neg (unsigned _)]
    split
    · split <;> rfl
    · rfl

theorem numeral_local (barePoint : Bool) (gap : Meets isGap rest) (unsigned : ∀ unit ∈ text, unit ≠ 43 ∧ unit ≠ 45) :
    numeral barePoint (text ++ rest) = ((numeral barePoint text).1, (numeral barePoint text).2 ++ rest) := by
  obtain ⟨taken, left⟩ := span_local text (gap_digit gap)
  have behind : ∀ unit ∈ (fraction barePoint (text.dropWhile isDigit)).2, unit ≠ 43 ∧ unit ≠ 45 := by
    intro unit member
    refine unsigned unit ((List.dropWhile_suffix isDigit).subset ?_)
    rw [← fraction_append barePoint (text.dropWhile isDigit)]
    exact List.mem_append_right _ member
  simp only [numeral, taken, left, fraction_local gap, exponent_local gap behind]

end Gap

theorem digit_unmarked {unit : Nat} (digit : isDigit unit = true) : isMark unit = false := by
  simp only [isDigit, Bool.and_eq_true, decide_eq_true_eq] at digit
  simp only [isMark, Bool.or_eq_false_iff, beq_eq_false_iff_ne]
  omega

theorem identifier_unmarked {unit : Nat} (identifier : isIdentifier unit = true) : isMark unit = false := by
  simp only [isIdentifier, isLetter, isDigit, Bool.or_eq_true, Bool.and_eq_true, decide_eq_true_eq, beq_iff_eq] at identifier
  simp only [isMark, Bool.or_eq_false_iff, beq_eq_false_iff_ne]
  omega

theorem fraction_unmarked {barePoint : Bool} {text : List Nat} : ∀ unit ∈ (fraction barePoint text).1, isMark unit = false := by
  fun_cases fraction barePoint text with
  | case1 => simp
  | case2 unit rest pointed =>
    intro other member
    rcases List.mem_cons.mp member with rfl | digit
    · rw [pointed.1]
      rfl
    · exact digit_unmarked (List.mem_takeWhile_imp digit)
  | case3 => simp

theorem exponent_unmarked {text : List Nat} : ∀ unit ∈ (exponent text).1, isMark unit = false := by
  fun_cases exponent text with
  | case1 => simp
  | case2 => simp
  | case3 unit next rest letter digit =>
    intro other member
    rcases List.mem_cons.mp member with rfl | inside
    · rcases letter with rfl | rfl <;> rfl
    · exact digit_unmarked (List.mem_takeWhile_imp inside)
  | case4 unit next rest letter digit signed =>
    intro other member
    rcases List.mem_cons.mp member with rfl | inside
    · rcases letter with rfl | rfl <;> rfl
    rcases List.mem_cons.mp inside with rfl | inside
    · rcases signed.1 with rfl | rfl <;> rfl
    · exact digit_unmarked (List.mem_takeWhile_imp inside)
  | case5 => simp
  | case6 => simp

theorem numeral_marks (barePoint : Bool) (text : List Nat) :
    (numeral barePoint text).2.filter isMark = text.filter isMark := by
  have unmarked : (numeral barePoint text).1.filter isMark = [] := by
    refine List.filter_eq_nil_iff.mpr fun unit member => ?_
    rw [Bool.not_eq_true]
    rcases List.mem_append.mp member with former | scaled
    · rcases List.mem_append.mp former with digit | fractional
      · exact digit_unmarked (List.mem_takeWhile_imp digit)
      · exact fraction_unmarked unit fractional
    · exact exponent_unmarked unit scaled
  calc
    (numeral barePoint text).2.filter isMark =
        ((numeral barePoint text).1 ++ (numeral barePoint text).2).filter isMark := by
      rw [List.filter_append, unmarked, List.nil_append]
    _ = text.filter isMark := by rw [numeral_append]

/-- The first lexeme of such a text, whatever stands behind the gap. -/
theorem lexeme_tame (rules : Rules) {unit : Nat} {text : List Nat} (tame : ∀ other ∈ unit :: text, isTame other = true) :
    ∃ token after, (∀ rest, Meets isGap rest → lexeme rules unit (text ++ rest) = some (token, after ++ rest)) ∧
      after.length ≤ text.length ∧ (∀ other ∈ after, isTame other = true) ∧
      (unit :: text).filter isMark = marks token.toList ++ after.filter isMark := by
  obtain ⟨first, others⟩ := List.forall_mem_cons.mp tame
  have unsigned : ∀ other ∈ unit :: text, other ≠ 43 ∧ other ≠ 45 := by
    intro other member
    have tame := tame other member
    constructor
    all_goals
      rintro rfl
      exact absurd tame (by decide)
  have kind : unit ≠ 39 ∧ unit ≠ 34 ∧ unit ≠ 96 ∧ unit ≠ 35 ∧ unit ≠ 45 ∧ unit ≠ 47 ∧ isComparison unit = false := by
    simp only [isTame, isSpace, isIdentifier, isLetter, isDigit, isComparison, Bool.or_eq_true, Bool.and_eq_true,
      decide_eq_true_eq, beq_iff_eq, Bool.or_eq_false_iff, Bool.and_eq_false_iff, beq_eq_false_iff_ne,
      decide_eq_false_iff_not] at first ⊢
    omega
  obtain ⟨single, double, backquote, hash, minus, slash, plain⟩ := kind
  have line (rest : List Nat) : startsLineComment unit rest = false := by simp [startsLineComment, minus]
  have block (rest : List Nat) : startsBlockComment unit rest = false := by simp [startsBlockComment, slash]
  by_cases space : isSpace unit = true
  · have unmarked : isMark unit = false := by
      simp only [isSpace, Bool.or_eq_true, Bool.and_eq_true, decide_eq_true_eq, beq_iff_eq] at space
      simp only [isMark, Bool.or_eq_false_iff, beq_eq_false_iff_ne]
      omega
    refine ⟨none, text, fun rest _ => ?_, Nat.le_refl _, others, ?_⟩
    · rw [lexeme, if_pos space]
    · rw [List.filter_cons_of_neg (by simp [unmarked])]
      rfl
  have enter (rest : List Nat) : lexeme rules unit rest =
      if isDigit unit || (rules.barePoint && unit == 46 && startsWith isDigit rest) then
        some (some (.number (numeral rules.barePoint (unit :: rest)).1), (numeral rules.barePoint (unit :: rest)).2)
      else if isIdentifier unit then
        some (some (.word (unit :: rest.takeWhile isIdentifier)), rest.dropWhile isIdentifier)
      else some (some (.symbol unit), rest) := by
    rw [lexeme, if_neg space, if_neg (by omega), if_neg backquote, line, block, plain,
      if_neg (by simp [hash]), if_neg Bool.false_ne_true, if_neg Bool.false_ne_true]
  by_cases digit : (isDigit unit || (rules.barePoint && unit == 46 && startsWith isDigit text)) = true
  · have shorter := numeral_shorter digit
    have within : (numeral rules.barePoint (unit :: text)).2 <:+ unit :: text :=
      ⟨_, numeral_append rules.barePoint (unit :: text)⟩
    refine ⟨some (.number (numeral rules.barePoint (unit :: text)).1), (numeral rules.barePoint (unit :: text)).2,
      fun rest gap => ?_, shorter, fun other member => tame other (within.subset member), ?_⟩
    · have whole := numeral_local rules.barePoint gap unsigned
      rw [List.cons_append] at whole
      rw [enter, startsWith_local (gap_digit gap), if_pos digit, whole]
    · rw [numeral_marks]
      rfl
  by_cases identifier : isIdentifier unit = true
  · have behind := List.dropWhile_suffix isIdentifier (l := text)
    refine ⟨some (.word (unit :: text.takeWhile isIdentifier)), text.dropWhile isIdentifier, fun rest gap => ?_,
      behind.length_le, fun other member => others other (behind.subset member), ?_⟩
    · obtain ⟨taken, left⟩ := span_local text (gap_identifier gap)
      rw [enter, startsWith_local (gap_digit gap), if_neg digit, if_pos identifier, taken, left]
    · have unmarked : (text.takeWhile isIdentifier).filter isMark = [] := by
        refine List.filter_eq_nil_iff.mpr fun other member => ?_
        simp [identifier_unmarked (List.mem_takeWhile_imp member)]
      calc
        (unit :: text).filter isMark = text.filter isMark := List.filter_cons_of_neg (by simp [identifier_unmarked identifier])
        _ = (text.takeWhile isIdentifier ++ text.dropWhile isIdentifier).filter isMark := by
          rw [List.takeWhile_append_dropWhile]
        _ = (text.dropWhile isIdentifier).filter isMark := by rw [List.filter_append, unmarked, List.nil_append]
  · refine ⟨some (.symbol unit), text, fun rest gap => ?_, Nat.le_refl _, others, ?_⟩
    · rw [enter, startsWith_local (gap_digit gap), if_neg digit, if_neg identifier]
    · by_cases marked : isMark unit = true <;> simp [marks, Token.mark?, marked]

/-- Such a text is read up to the gap behind it, and its marks are read in order. -/
theorem readsBefore_tame (rules : Rules) {text : List Nat} (tame : ∀ unit ∈ text, isTame unit = true) :
    ∃ read, ReadsBefore rules isGap text read ∧ marks read = text.filter isMark := by
  induction size : text.length using Nat.strongRecOn generalizing text with
  | ind bound ih =>
    cases text with
    | nil => exact ⟨[], fun rest _ => by simp, rfl⟩
    | cons unit text =>
      obtain ⟨token, after, first, shorter, others, marked⟩ := lexeme_tame rules tame
      have less : after.length < bound := by
        rw [← size, List.length_cons]
        omega
      obtain ⟨read, later, same⟩ := ih after.length less others rfl
      refine ⟨token.toList ++ read, fun rest gap => ?_, ?_⟩
      · rw [List.cons_append, tokens_of_lexeme (first rest gap), later rest gap, Option.map_map]
        congr 1
        funext more
        simp
      · rw [marks_append, same, marked]

end SqlLexer
