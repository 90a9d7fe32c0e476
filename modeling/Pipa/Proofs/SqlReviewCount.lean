import Pipa.Library.SqlStatements
import Pipa.SqlStatements

/-! The number of statements on an approval card against those the server runs. The review
skips two kinds of text that the server reads as code: the line behind dashes that begin no
comment, and executable comments. While it skips one, nothing in it may separate or open. -/

namespace Pipa.SqlReview
open EditorText SqlStatements SqlLexer

/-- What the review is skipping although the server reads it as code. -/
inductive Skipping where
  | nothing
  | line
  | comment
deriving DecidableEq, Repr

/-- Text that cannot end a statement or open a quote or a block comment. -/
def inert (unit : Nat) (rest : List Nat) : Bool :=
  unit != 59 && unit != 39 && unit != 34 && unit != 96 && !startsComment unit rest

/-- The statement has content for the review exactly when it has code for the server, up to
its end and in every later one, and the two readings part for inert text only. -/
def undisputed (skipping : Skipping) (seen ran : Bool) : List Nat → Bool
  | [] => seen == ran
  | unit :: rest =>
    let read := stretch true (skipping == .comment) unit rest
    if skipping = .line ∧ unit = 10 then undisputed .nothing seen ran rest
    else if skipping = .line then inert unit rest && undisputed .line seen (ran || read.role == .code) read.after
    else if skipping = .comment ∧ unit = 42 ∧ rest.head? = some 47 then undisputed .nothing seen ran rest.tail
    else if skipping = .comment then
      inert unit rest && unit != 35 && !startsLineComment unit rest &&
        undisputed .comment seen (ran || read.role == .code) rest
    else if unit = 59 then seen == ran && undisputed .nothing false false rest
    else if unit = 45 ∧ rest.head? = some 45 ∧ startsLineComment unit rest = false then undisputed .line seen true rest
    else if startsExecutable unit rest then undisputed .comment seen ran read.after
    else if read.role = .blank then undisputed .nothing seen ran read.after
    else if unit = 96 then
      behindQuote true 96 rest == behindQuote false 96 rest && undisputed .nothing true true read.after
    else undisputed .nothing (seen || !isWhitespace unit) true read.after
termination_by text => text.length
decreasing_by
  all_goals first
    | exact Nat.lt_succ_self _
    | exact Nat.lt_succ_of_le (stretch_suffix true _ unit rest).length_le
    | exact Nat.lt_succ_of_le (List.tail_suffix rest).length_le

/-- Where the review goes on reading. -/
def resume (skipping : Skipping) (text : List Nat) : List Nat :=
  if skipping = .line then skipTo [10] text else if skipping = .comment then skipTo [42, 47] text else text

theorem skipQuoted_eq (quote : Nat) (text : List Nat) : skipQuoted quote text = behindQuote true quote text := by
  induction text using closeQuote.induct true quote with
  | case1 => rw [skipQuoted, behindQuote_nil]
  | case2 =>
    rw [behindQuote_last, skipQuoted]
    (repeat' split) <;> first | rfl | simp [skipQuoted]
  | case3 unit other =>
    rw [behindQuote_last, skipQuoted]
    (repeat' split) <;> first | rfl | simp [skipQuoted]
  | case4 unit next rest kept ih =>
    rw [behindQuote_kept kept, skipQuoted, ← ih]
    by_cases escaped : unit = 92
    · rw [if_pos escaped]
      rfl
    · have doubled : unit = quote ∧ next = quote := by simpa [escaped] using kept
      rw [if_neg escaped, if_pos doubled.1, List.head?_cons, if_pos (congrArg some doubled.2)]
      rfl
  | case5 next rest single =>
    have apart : ¬(quote = 92) ∧ ¬(next = quote) := by simpa using single
    rw [behindQuote_closed single rfl, skipQuoted, if_neg apart.1, if_pos rfl, List.head?_cons,
      if_neg fun doubled => apart.2 (Option.some.inj doubled)]
  | case6 unit next rest single other ih =>
    have plain : ¬(unit = 92) := by
      intro same
      exact single (by simp [same])
    rw [behindQuote_other single other, skipQuoted, if_neg plain, if_neg other, ih]

theorem skipTo_other {terminator : List Nat} {unit : Nat} {rest : List Nat}
    (other : terminator.isPrefixOf (unit :: rest) = false) : skipTo terminator (unit :: rest) = skipTo terminator rest := by
  rw [skipTo, other, if_neg Bool.false_ne_true]

theorem newline_other {unit : Nat} (other : unit ≠ 10) (rest : List Nat) : ([10] : List Nat).isPrefixOf (unit :: rest) = false := by
  rw [List.isPrefixOf, beq_eq_false_iff_ne.mpr other.symm, Bool.false_and]

theorem close_other {unit : Nat} {rest : List Nat} (other : ¬(unit = 42 ∧ rest.head? = some 47)) :
    ([42, 47] : List Nat).isPrefixOf (unit :: rest) = false := by
  cases rest with
  | nil => simp [List.isPrefixOf]
  | cons next rest =>
    rw [Bool.eq_false_iff]
    intro same
    simp only [List.isPrefixOf, Bool.and_true, Bool.and_eq_true, beq_iff_eq] at same
    exact other ⟨same.1.symm, congrArg some same.2.symm⟩

theorem skipTo_line (text : List Nat) : skipTo [10] text = (skipLine text).tail := by
  induction text with
  | nil => rfl
  | cons unit rest ih =>
    by_cases newline : unit = 10
    · subst newline
      rfl
    · have stays : (unit != 10) = true := bne_iff_ne.mpr newline
      rw [skipTo_other (newline_other newline rest), ih, skipLine, skipLine, List.dropWhile_cons, if_pos stays]

theorem skipTo_comment (text : List Nat) : skipTo [42, 47] text = behindComment text := by
  induction text with
  | nil => rfl
  | cons unit rest ih =>
    by_cases closes : unit = 42 ∧ rest.head? = some 47
    · obtain ⟨next, rest, rfl⟩ := List.exists_cons_of_ne_nil (l := rest) (by rintro rfl; cases closes.2)
      obtain ⟨rfl, second⟩ := closes
      obtain rfl := Option.some.inj second
      rfl
    · rw [skipTo_other (close_other closes), ih, behindComment, behindComment, closeComment, if_neg closes]

/-- A version names no end of its comment. -/
theorem skipTo_digits {digits : List Nat} (numeric : digits.all isDigit = true) (rest : List Nat) :
    skipTo [42, 47] (digits ++ rest) = skipTo [42, 47] rest := by
  induction digits with
  | nil => rfl
  | cons digit digits ih =>
    rw [List.all_cons, Bool.and_eq_true] at numeric
    have plain : ¬(digit = 42 ∧ (digits ++ rest).head? = some 47) := by
      intro closes
      rw [closes.1] at numeric
      exact absurd numeric.1 (by decide)
    rw [List.cons_append, skipTo_other (close_other plain), ih numeric.2]

theorem skipTo_version (rest : List Nat) : skipTo [42, 47] (behindVersion rest) = skipTo [42, 47] rest := by
  rw [behindVersion]
  split
  case isTrue six => rw [← skipTo_digits six.2 (rest.drop 6), List.take_append_drop]
  split
  case isTrue five => rw [← skipTo_digits five.2 (rest.drop 5), List.take_append_drop]
  rfl

theorem runs_prepend (text : List Nat) (code : Bool) (statements : List Statement) :
    runs (prepend text code statements) = runs (prepend [] code statements) := by
  cases statements <;> rfl

section Tally
variable {inside inside' ran : Bool} {unit : Nat} {rest after : List Nat}

/-- What a stretch adds to the statements that are run. -/
theorem runs_stretch {role : Role} (read : stretch true inside unit rest = ⟨role, inside', after⟩) (stays : role ≠ .separator) :
    runs (prepend [] ran (statements true inside (unit :: rest))) =
      runs (prepend [] (ran || role == .code) (statements true inside' after)) := by
  obtain ⟨text, whole⟩ := stretch_whole true inside unit rest
  rw [read] at whole
  rw [statements_stretch read stays whole, prepend_prepend, List.nil_append, runs_prepend]

theorem runs_separator (read : stretch true inside unit rest = ⟨.separator, inside', after⟩) :
    runs (prepend [] ran (statements true inside (unit :: rest))) =
      (if ran then 1 else 0) + runs (statements true inside' after) := by
  rw [statements_separator read, prepend, runs, runs, List.countP_cons, Bool.or_false, Nat.add_comm]

/-- Inert text is read unit by unit, line comments apart. -/
theorem stretch_inert (harmless : inert unit rest = true) (open_ : ¬(inside = true ∧ unit = 42 ∧ rest.head? = some 47)) :
    (stretch true inside unit rest).role ≠ .separator ∧ (stretch true inside unit rest).inside = inside ∧
      (stretch true inside unit rest).after =
        if isSpace unit = false ∧ (unit = 35 ∨ startsLineComment unit rest = true) then skipLine rest else rest := by
  simp only [inert, Bool.and_eq_true, bne_iff_ne, ne_eq, Bool.not_eq_true'] at harmless
  obtain ⟨⟨⟨⟨separator, single⟩, double⟩, back⟩, comment⟩ := harmless
  have executable : startsExecutable unit rest = false := by rw [startsExecutable, comment, Bool.false_and]
  rw [stretch]
  by_cases blank : isSpace unit = true
  · rw [if_pos blank, if_neg fun line => Bool.false_ne_true (line.1.symm.trans blank)]
    exact ⟨Role.noConfusion, rfl, rfl⟩
  rw [if_neg blank, if_neg (not_or.mpr ⟨single, double⟩), if_neg back]
  by_cases line : unit = 35 ∨ startsLineComment unit rest = true
  · rw [if_pos line, if_pos ⟨Bool.eq_false_iff.mpr blank, line⟩]
    exact ⟨Role.noConfusion, rfl, rfl⟩
  · rw [if_neg line, executable, Bool.and_false, if_neg Bool.false_ne_true, comment, if_neg Bool.false_ne_true,
      if_neg open_, if_neg separator, if_neg fun both => line both.2]
    exact ⟨Role.noConfusion, rfl, rfl⟩

end Tally

section Count
variable {count : Nat} {seen : Bool} {unit : Nat} {rest : List Nat}

theorem trim_content (unit : Nat) (seen : Bool) : (if trim [unit] ≠ [] then true else seen) = (seen || !isWhitespace unit) := by
  cases blank : isWhitespace unit <;> simp [trim, blank]

theorem count_content (plain : inert unit rest = true) (dashes : ¬(unit = 45 ∧ rest.head? = some 45)) (hash : unit ≠ 35) :
    countFrom count seen (unit :: rest) = countFrom count (seen || !isWhitespace unit) rest := by
  simp only [inert, Bool.and_eq_true, bne_iff_ne, ne_eq, Bool.not_eq_true'] at plain
  obtain ⟨⟨⟨⟨separator, single⟩, double⟩, back⟩, comment⟩ := plain
  have opens : ¬(unit = 47 ∧ rest.head? = some 42) := by simpa [startsComment] using comment
  rw [countFrom, if_neg (not_or.mpr ⟨single, not_or.mpr ⟨double, back⟩⟩), if_neg dashes, if_neg hash, if_neg opens,
    if_neg separator, trim_content]

theorem count_quote (quote : unit = 39 ∨ unit = 34 ∨ unit = 96) :
    countFrom count seen (unit :: rest) = countFrom count true (behindQuote true unit rest) := by
  rw [countFrom, if_pos quote, skipQuoted_eq]

theorem count_line (line : unit = 45 ∧ rest.head? = some 45 ∨ unit = 35) :
    countFrom count seen (unit :: rest) = countFrom count seen (skipTo [10] (unit :: rest)) := by
  have single : ¬(unit = 39 ∨ unit = 34 ∨ unit = 96) := by omega
  rw [countFrom, if_neg single]
  by_cases dashes : unit = 45 ∧ rest.head? = some 45
  · rw [if_pos dashes]
  · rw [if_neg dashes, if_pos (line.resolve_left dashes)]

theorem count_comment (comment : startsComment unit rest = true) :
    countFrom count seen (unit :: rest) = countFrom count seen (skipTo [42, 47] rest.tail) := by
  have opens : unit = 47 ∧ rest.head? = some 42 := by simpa [startsComment] using comment
  obtain ⟨rfl, second⟩ := opens
  rw [countFrom, if_neg (by decide), if_neg fun dashes => absurd dashes.1 (by decide), if_neg (by decide),
    if_pos ⟨rfl, second⟩]

theorem count_separator : countFrom count seen (59 :: rest) = countFrom (count + if seen then 1 else 0) false rest := by
  rw [countFrom, if_neg (by decide), if_neg fun dashes => absurd dashes.1 (by decide), if_neg (by decide),
    if_neg fun opens => absurd opens.1 (by decide), if_pos rfl]
  cases seen <;> rfl

/-- A newline is blank for the review, so a line comment may end before it or behind it. -/
theorem count_newline (text : List Nat) : countFrom count seen (skipLine text).tail = countFrom count seen (skipLine text) := by
  cases shape : skipLine text with
  | nil => rfl
  | cons next rest =>
    obtain rfl := skipLine_ends text next (by rw [shape]; rfl)
    rw [count_content (by rfl) (fun dashes => absurd dashes.1 (by decide)) (by decide), List.tail_cons]
    exact congrArg (countFrom count · rest) (Bool.or_false seen).symm

end Count

/-- The review counts what the server runs, from wherever the two readings stand. -/
def Counted (skipping : Skipping) (text : List Nat) : Prop :=
  ∀ count seen ran, undisputed skipping seen ran text = true →
    countFrom count seen (resume skipping text) = count + runs (prepend [] ran (statements true (skipping == .comment) text))

theorem counted_nil (skipping : Skipping) : Counted skipping [] := by
  intro count seen ran agreed
  have same : seen = ran := by
    rw [undisputed] at agreed
    exact beq_iff_eq.mp agreed
  have nothing : resume skipping [] = [] := by
    rw [resume]
    (repeat' split) <;> rfl
  rw [nothing, countFrom, statements, prepend, ← same]
  cases seen with
  | true => rfl
  | false => exact Nat.max_eq_left (Nat.zero_le count)

section Steps
variable {unit : Nat} {rest : List Nat} (behind : ∀ skipping after, after.length ≤ rest.length → Counted skipping after)
include behind

/-- Behind dashes that begin no comment, up to the end of the line. -/
theorem counted_line : Counted .line (unit :: rest) := by
  intro count seen ran agreed
  have outside : (Skipping.line == .comment) = false := rfl
  rw [undisputed, outside] at agreed
  rw [outside]
  by_cases newline : unit = 10
  · subst newline
    rw [if_pos ⟨rfl, rfl⟩] at agreed
    have read : stretch true false 10 rest = ⟨.blank, false, rest⟩ := rfl
    have later := behind .nothing rest (Nat.le_refl _) count seen ran agreed
    rw [runs_stretch read Role.noConfusion]
    exact (Bool.or_false ran).symm ▸ later
  · rw [if_neg fun both => newline both.2, if_pos rfl, Bool.and_eq_true] at agreed
    obtain ⟨harmless, agreed⟩ := agreed
    obtain ⟨stays, inside, after⟩ := @stretch_inert false _ _ harmless fun closes => Bool.false_ne_true closes.1
    have read := Stretch.shape inside rfl
    have line : skipLine (unit :: rest) = skipLine (stretch true false unit rest).after := by
      rw [skipLine, List.dropWhile_cons, if_pos (bne_iff_ne.mpr newline), after]
      split
      · rw [skipLine, skipLine, List.dropWhile_idempotent]
      · rfl
    have shorter := (stretch_suffix true false unit rest).length_le
    have later := behind .line (stretch true false unit rest).after shorter count seen _ agreed
    rw [outside] at later
    rw [runs_stretch read stays, ← later]
    simp only [resume, if_pos, skipTo_line, line]

/-- Inside an executable comment. -/
theorem counted_comment : Counted .comment (unit :: rest) := by
  intro count seen ran agreed
  have apart : Skipping.comment ≠ .line := Skipping.noConfusion
  rw [undisputed, if_neg fun both => apart both.1, if_neg apart] at agreed
  rw [beq_self_eq_true] at agreed ⊢
  by_cases closes : unit = 42 ∧ rest.head? = some 47
  · rw [if_pos ⟨rfl, closes⟩] at agreed
    obtain ⟨rfl, second⟩ := closes
    obtain ⟨next, rest, rfl⟩ := List.exists_cons_of_ne_nil (l := rest) (by rintro rfl; cases second)
    obtain rfl := Option.some.inj second
    have read : stretch true true 42 (47 :: rest) = ⟨.blank, false, rest⟩ := rfl
    have later := behind .nothing rest (Nat.le_succ _) count seen ran agreed
    rw [runs_stretch read Role.noConfusion]
    exact (Bool.or_false ran).symm ▸ later
  · rw [if_neg fun both => closes both.2, if_pos rfl] at agreed
    simp only [Bool.and_eq_true, bne_iff_ne, ne_eq, Bool.not_eq_true'] at agreed
    obtain ⟨⟨⟨harmless, hash⟩, dashes⟩, agreed⟩ := agreed
    obtain ⟨stays, inside, after⟩ := @stretch_inert true _ _ harmless fun both => closes both.2
    rw [if_neg fun both => both.2.elim hash fun line => Bool.false_ne_true (dashes.symm.trans line)] at after
    have read := Stretch.shape inside after
    have later := behind .comment rest (Nat.le_refl _) count seen _ agreed
    rw [runs_stretch read stays]
    refine Eq.trans ?_ later
    rw [resume, resume, if_neg apart, if_pos rfl, if_neg apart, if_pos rfl, skipTo_other (close_other closes)]

/-- A stretch that both read alike. -/
theorem counted_stretch (separator : unit ≠ 59)
    (shown : ¬(unit = 45 ∧ rest.head? = some 45 ∧ startsLineComment unit rest = false))
    (plain : startsExecutable unit rest = false) (count : Nat) (seen ran : Bool)
    (agreed : (if (stretch true false unit rest).role = .blank then
        undisputed .nothing seen ran (stretch true false unit rest).after
      else if unit = 96 then
        behindQuote true 96 rest == behindQuote false 96 rest && undisputed .nothing true true (stretch true false unit rest).after
      else undisputed .nothing (seen || !isWhitespace unit) true (stretch true false unit rest).after) = true) :
    countFrom count seen (unit :: rest) = count + runs (prepend [] ran (statements true false (unit :: rest))) := by
  have behind (after : List Nat) (shorter : after.length ≤ rest.length) : Counted .nothing after := behind .nothing after shorter
  have closed : ¬(false = true ∧ unit = 42 ∧ rest.head? = some 47) := fun closes => Bool.false_ne_true closes.1
  by_cases blank : isSpace unit = true
  · have read : stretch true false unit rest = ⟨.blank, false, rest⟩ := by rw [stretch, if_pos blank]
    have white : unit = 32 ∨ 9 ≤ unit ∧ unit ≤ 13 := by simpa [isSpace] using blank
    have ignored : isWhitespace unit = true := by
      simp only [isWhitespace, Bool.or_eq_true, Bool.and_eq_true, beq_iff_eq, decide_eq_true_eq]
      omega
    have harmless : inert unit rest = true := by
      have slash : (unit == 47) = false := beq_eq_false_iff_ne.mpr (by omega)
      simp only [inert, startsComment, slash, Bool.false_and, Bool.not_false, Bool.and_true, Bool.and_eq_true, bne_iff_ne]
      omega
    rw [read, if_pos rfl] at agreed
    have later := behind rest (Nat.le_refl _) count seen ran agreed
    rw [runs_stretch read Role.noConfusion, count_content harmless (by omega) (by omega), ignored, Bool.not_true,
      Bool.or_false]
    exact (Bool.or_false ran).symm ▸ later
  by_cases quote : unit = 39 ∨ unit = 34
  · have read : stretch true false unit rest = ⟨.code, false, behindQuote true unit rest⟩ := by
      rw [stretch, if_neg blank, if_pos quote]
    have shown : isWhitespace unit = false := by obtain rfl | rfl := quote <;> rfl
    rw [read, if_neg Role.noConfusion, if_neg (by omega), shown, Bool.not_false, Bool.or_true] at agreed
    have later := behind _ (behindQuote_suffix true unit rest).length_le count true true agreed
    rw [runs_stretch read Role.noConfusion, count_quote (by omega), beq_self_eq_true, Bool.or_true]
    exact later
  by_cases back : unit = 96
  · subst back
    have read : stretch true false 96 rest = ⟨.code, false, behindQuote false 96 rest⟩ := rfl
    rw [read, if_neg Role.noConfusion, if_pos rfl, Bool.and_eq_true, beq_iff_eq] at agreed
    obtain ⟨same, agreed⟩ := agreed
    have later := behind _ (behindQuote_suffix false 96 rest).length_le count true true agreed
    rw [runs_stretch read Role.noConfusion, count_quote (.inr (.inr rfl)), same, beq_self_eq_true, Bool.or_true]
    exact later
  by_cases line : unit = 35 ∨ startsLineComment unit rest = true
  · have read : stretch true false unit rest = ⟨.blank, false, skipLine rest⟩ := by
      rw [stretch, if_neg blank, if_neg quote, if_neg back, if_pos line]
    have skips : unit = 45 ∧ rest.head? = some 45 ∨ unit = 35 := by
      obtain hash | dashes := line
      · exact .inr hash
      · simp only [startsLineComment, Bool.and_eq_true, beq_iff_eq] at dashes
        exact .inl dashes.1
    have newline : unit ≠ 10 := by omega
    rw [read, if_pos rfl] at agreed
    have later := behind _ (List.dropWhile_suffix _).length_le count seen ran agreed
    rw [runs_stretch read Role.noConfusion, count_line skips, skipTo_other (newline_other newline rest), skipTo_line,
      count_newline]
    exact (Bool.or_false ran).symm ▸ later
  by_cases comment : startsComment unit rest = true
  · have read : stretch true false unit rest = ⟨.blank, false, behindComment rest.tail⟩ := by
      rw [stretch, if_neg blank, if_neg quote, if_neg back, if_neg line, plain, Bool.and_false, if_neg Bool.false_ne_true,
        if_pos comment]
    rw [read, if_pos rfl] at agreed
    have later := behind _ ((behindComment_suffix _).trans (List.tail_suffix rest)).length_le count seen ran agreed
    rw [runs_stretch read Role.noConfusion, count_comment comment, skipTo_comment]
    exact (Bool.or_false ran).symm ▸ later
  · have read : stretch true false unit rest = ⟨.code, false, rest⟩ := by
      rw [stretch, if_neg blank, if_neg quote, if_neg back, if_neg line, plain, Bool.and_false, if_neg Bool.false_ne_true,
        if_neg comment, if_neg closed, if_neg separator]
    have harmless : inert unit rest = true := by
      simp only [inert, Bool.and_eq_true, bne_iff_ne, Bool.not_eq_true']
      exact ⟨⟨⟨⟨separator, fun single => quote (.inl single)⟩, fun double => quote (.inr double)⟩, back⟩,
        Bool.eq_false_iff.mpr comment⟩
    have dashes : ¬(unit = 45 ∧ rest.head? = some 45) := fun dashes =>
      shown ⟨dashes.1, dashes.2, Bool.eq_false_iff.mpr fun starts => line (.inr starts)⟩
    rw [read, if_neg Role.noConfusion, if_neg back] at agreed
    have later := behind rest (Nat.le_refl _) count _ true agreed
    rw [runs_stretch read Role.noConfusion, count_content harmless dashes fun hash => line (.inl hash), beq_self_eq_true,
      Bool.or_true]
    exact later

/-- Where both stand at the beginning of a stretch. -/
theorem counted_nothing : Counted .nothing (unit :: rest) := by
  intro count seen ran agreed
  have notLine : Skipping.nothing ≠ .line := Skipping.noConfusion
  have notComment : Skipping.nothing ≠ .comment := Skipping.noConfusion
  have outside : (Skipping.nothing == .comment) = false := rfl
  have still (text : List Nat) : resume .nothing text = text := rfl
  rw [undisputed, outside, if_neg fun both => notLine both.1, if_neg notLine, if_neg fun both => notComment both.1,
    if_neg notComment] at agreed
  rw [outside, still]
  by_cases separator : unit = 59
  · subst separator
    rw [if_pos rfl, Bool.and_eq_true, beq_iff_eq] at agreed
    obtain ⟨rfl, agreed⟩ := agreed
    have read : stretch true false 59 rest = ⟨.separator, false, rest⟩ := rfl
    have later := behind .nothing rest (Nat.le_refl _) (count + if seen then 1 else 0) false false agreed
    rw [still, outside, prepend_nil] at later
    rw [count_separator, later, runs_separator read, Nat.add_assoc]
  rw [if_neg separator] at agreed
  by_cases hidden : unit = 45 ∧ rest.head? = some 45 ∧ startsLineComment unit rest = false
  · rw [if_pos hidden] at agreed
    obtain ⟨rfl, second, plain⟩ := hidden
    have read : stretch true false 45 rest = ⟨.code, false, rest⟩ := by
      rw [stretch, plain]
      rfl
    have later := behind .line rest (Nat.le_refl _) count seen true agreed
    rw [count_line (.inl ⟨rfl, second⟩), skipTo_other (newline_other (by decide) rest), runs_stretch read Role.noConfusion,
      beq_self_eq_true, Bool.or_true]
    exact later
  rw [if_neg hidden] at agreed
  by_cases executable : startsExecutable unit rest = true
  · rw [if_pos executable] at agreed
    have opens : (unit = 47 ∧ rest.head? = some 42) ∧ rest.tail.head? = some 33 := by
      simpa [startsExecutable, startsComment] using executable
    obtain ⟨⟨rfl, second⟩, third⟩ := opens
    have comment : startsComment 47 rest = true := by rw [startsComment, second]; rfl
    have read : stretch true false 47 rest = ⟨.blank, true, behindVersion rest.tail.tail⟩ := by
      rw [stretch, executable]
      rfl
    have shorter : (behindVersion rest.tail.tail).length ≤ rest.length :=
      ((behindVersion_suffix _).trans ((List.tail_suffix _).trans (List.tail_suffix rest))).length_le
    rw [read] at agreed
    have later := behind .comment (behindVersion rest.tail.tail) shorter count seen ran agreed
    have skipped : resume .comment (behindVersion rest.tail.tail) = skipTo [42, 47] rest.tail := by
      obtain ⟨next, tail, same⟩ := List.exists_cons_of_ne_nil (l := rest.tail) (by intro none; rw [none] at third; cases third)
      rw [same] at third ⊢
      obtain rfl := Option.some.inj third
      rw [resume, if_neg Skipping.noConfusion, if_pos rfl, List.tail_cons, skipTo_version,
        skipTo_other (close_other fun closes => absurd closes.1 (by decide))]
    rw [count_comment comment, ← skipped, later, runs_stretch read Role.noConfusion]
    exact congrArg (fun ran => count + runs (prepend [] ran _)) (Bool.or_false ran).symm
  rw [if_neg executable] at agreed
  exact counted_stretch behind separator hidden (Bool.eq_false_iff.mpr executable) count seen ran agreed

end Steps

theorem counted (skipping : Skipping) (text : List Nat) : Counted skipping text := by
  induction bound : text.length using Nat.strongRecOn generalizing skipping text with
  | ind size ih =>
    subst bound
    cases text with
    | nil => exact counted_nil skipping
    | cons unit rest =>
      have behind (skipping : Skipping) (after : List Nat) (shorter : after.length ≤ rest.length) : Counted skipping after :=
        ih after.length (Nat.lt_succ_of_le shorter) skipping after rfl
      cases skipping with
      | line => exact counted_line behind
      | comment => exact counted_comment behind
      | nothing => exact counted_nothing behind

/-- The card announces as many statements as the server runs, when the two readings agree. -/
theorem countSqlStatements_runs (sql : List Nat) (agreed : undisputed .nothing false false sql = true) :
    countSqlStatements sql = runs (statements true false sql) := by
  have counts := counted .nothing sql 0 false false agreed
  rw [Nat.zero_add, prepend_nil] at counts
  exact counts

theorem countSqlStatements_runs_hinted :
    undisputed .nothing false false (units "SELECT /*!40001 SQL_NO_CACHE*/ 5--1\n; -- a;\nDELETE FROM `t;`; ;") = true ∧
      countSqlStatements (units "SELECT /*!40001 SQL_NO_CACHE*/ 5--1\n; -- a;\nDELETE FROM `t;`; ;") =
        runs (statements true false (units "SELECT /*!40001 SQL_NO_CACHE*/ 5--1\n; -- a;\nDELETE FROM `t;`; ;")) := by
  have agreed : undisputed .nothing false false (units "SELECT /*!40001 SQL_NO_CACHE*/ 5--1\n; -- a;\nDELETE FROM `t;`; ;") = true := by
    decide +kernel
  exact ⟨agreed, countSqlStatements_runs _ agreed⟩

/-- A second statement goes unannounced behind dashes that begin no comment, behind a quoted
identifier that ends with a backslash, in an executable comment and as a no-break space. -/
theorem countSqlStatements_fewer :
    countSqlStatements (units "SELECT 5--1; DELETE FROM t") < runs (statements true false (units "SELECT 5--1; DELETE FROM t")) ∧
      countSqlStatements (units "SELECT 1 `\\`; DELETE FROM t") <
        runs (statements true false (units "SELECT 1 `\\`; DELETE FROM t")) ∧
      countSqlStatements (units "/*!50000 DELETE FROM t */") < runs (statements true false (units "/*!50000 DELETE FROM t */")) ∧
      countSqlStatements [49, 59, 160] < runs (statements true false [49, 59, 160]) := by
  decide +kernel

end Pipa.SqlReview
