import Pipa.Library.SqlBoolean
import Mathlib.Data.List.Chain

/-! Writing boolean expressions as segments, each of which is read back to its own
tokens, so that reading a written text never crosses from one segment into another. -/

namespace SqlWriting
open SqlLexer SqlBoolean

inductive Segment where
  | blank
  | word (name : String)
  | operator (text : String)
  | column (name : List Nat)
  | literal (operand : Literal)
  | symbol (unit : Nat)
deriving DecidableEq, Repr

def stringText (content : List Nat) : List Nat := 39 :: (doubled true 39 content ++ [39])

def columnText (name : List Nat) : List Nat := 96 :: (doubled false 96 name ++ [96])

def literalText : Literal → List Nat
  | .string content => stringText content
  | .number sign text => sign.toList ++ text

def literalTokens : Literal → List Token
  | .string content => [.string (stringText content)]
  | .number none text => [.number text]
  | .number (some sign) text => [.symbol sign, .number text]

namespace Segment

def written : Segment → List Nat
  | .blank => [32]
  | .word name => units name
  | .operator text => units text
  | .column name => columnText name
  | .literal operand => literalText operand
  | .symbol unit => [unit]

def read : Segment → List Token
  | .blank => []
  | .word name => [.word (units name)]
  | .operator text => [.operator (units text)]
  | .column name => [.quoted (columnText name)]
  | .literal operand => literalTokens operand
  | .symbol unit => [.symbol unit]

/-- A segment that must be followed by a delimiter or the end. -/
def Solid : Segment → Bool
  | .blank | .symbol _ => false
  | _ => true

/-- A segment that begins with a delimiter. -/
def Delimits : Segment → Bool
  | .blank => true
  | .symbol unit => unit == 41 || unit == 44
  | _ => false

end Segment

/-- A literal whose text reads as that literal. -/
inductive ProperLiteral : Literal → Prop where
  | string (content : List Nat) : ProperLiteral (.string content)
  | number {sign : Option Nat} {text : List Nat} (signed : ∀ unit ∈ sign, unit = 43 ∨ unit = 45)
      (isNumeral : IsNumeral text) : ProperLiteral (.number sign text)

/-- All units are of one kind, and there is one. -/
def Run (test : Nat → Bool) (text : List Nat) : Prop := text ≠ [] ∧ ∀ unit ∈ text, test unit = true

instance (test : Nat → Bool) (text : List Nat) : Decidable (Run test text) := by
  unfold Run
  infer_instance

def Segment.Proper : Segment → Prop
  | .blank | .column _ => True
  | .word name => Run isIdentifier (units name) ∧ startsWith isDigit (units name) = false
  | .operator text => Run isComparison (units text)
  | .literal operand => ProperLiteral operand
  | .symbol unit => unit = 40 ∨ unit = 41 ∨ unit = 44

/-- Proper segments with a delimiter behind every solid one. -/
structure Spaced (segments : List Segment) : Prop where
  proper : ∀ segment ∈ segments, segment.Proper
  apart : segments.IsChain fun segment next => segment.Solid = true → next.Delimits = true

def write (segments : List Segment) : List Nat := segments.flatMap Segment.written

def readings (segments : List Segment) : List Token := segments.flatMap Segment.read

@[simp]
theorem write_append (first second : List Segment) : write (first ++ second) = write first ++ write second := by
  simp [write]

@[simp]
theorem readings_append (first second : List Segment) :
    readings (first ++ second) = readings first ++ readings second := by
  simp [readings]

@[simp]
theorem write_cons (segment : Segment) (segments : List Segment) :
    write (segment :: segments) = segment.written ++ write segments := by
  simp [write]

@[simp]
theorem readings_cons (segment : Segment) (segments : List Segment) :
    readings (segment :: segments) = segment.read ++ readings segments := by
  simp [readings]

@[simp]
theorem write_nil : write [] = [] := rfl

@[simp]
theorem readings_nil : readings [] = [] := rfl

section Reading
variable {rules : Rules}

/-- Every solid segment is its own tokens in front of a delimiter. -/
theorem reads_solid (bare : rules.barePoint = true) {segment : Segment} (proper : segment.Proper)
    (solid : segment.Solid = true) : Reads rules segment.written segment.read := by
  cases segment with
  | blank => cases solid
  | symbol unit => cases solid
  | word name =>
    obtain ⟨⟨nonempty, inside⟩, initial⟩ := proper
    obtain ⟨unit, text, shape⟩ := List.exists_cons_of_ne_nil nonempty
    have first : isDigit unit = false := by simpa [shape, startsWith] using initial
    rw [shape] at inside
    simpa [Segment.written, Segment.read, shape] using reads_word inside first
  | operator text =>
    obtain ⟨nonempty, inside⟩ := proper
    obtain ⟨unit, text, shape⟩ := List.exists_cons_of_ne_nil nonempty
    rw [shape] at inside
    simpa [Segment.written, Segment.read, shape] using reads_operator inside
  | column name => exact reads_quoted name
  | literal operand =>
    cases proper with
    | string content => exact reads_string content
    | @number sign text signed isNumeral =>
      cases sign with
      | none => exact reads_number bare isNumeral
      | some sign => exact reads_signed bare (signed sign rfl) isNumeral

/-- Written segments are read one after the other. -/
theorem reads_write (bare : rules.barePoint = true) {segments : List Segment} (spaced : Spaced segments) :
    Reads rules (write segments) (readings segments) := by
  induction segments with
  | nil => exact reads_nil
  | cons segment segments ih =>
    obtain ⟨proper, others⟩ := List.forall_mem_cons.mp spaced.proper
    have later := ih ⟨others, spaced.apart.tail⟩
    cases solid : segment.Solid with
    | false =>
      cases segment with
      | blank => exact later.blank
      | symbol unit => exact later.symbol proper
      | _ => cases solid
    | true =>
      rw [write_cons, readings_cons]
      refine (reads_solid bare proper solid).append later ?_
      intro rest delimited
      cases segments with
      | nil => exact delimited
      | cons next segments =>
        have delimits := (List.isChain_cons_cons.mp spaced.apart).1 solid
        cases next with
        | blank => exact delimited_cons (Or.inl rfl) _
        | symbol unit =>
          have closes : unit = 41 ∨ unit = 44 := by simpa [Segment.Delimits] using delimits
          exact delimited_cons (Or.inr closes) _
        | _ => cases delimits

theorem tokens_write (bare : rules.barePoint = true) {segments : List Segment} (spaced : Spaced segments) :
    tokens rules (write segments) = some (readings segments) :=
  (reads_write bare spaced).whole

end Reading

/-! ### Content of what was written -/

private theorem content_single {escapes : Bool} {quote unit : Nat} (ordinary : unit ≠ quote)
    (unescaped : escapes = true → unit ≠ 92) {rest : List Nat} (more : rest ≠ []) :
    content escapes quote (unit :: rest) = unit :: content escapes quote rest := by
  obtain ⟨next, rest, rfl⟩ := List.exists_cons_of_ne_nil more
  rw [content, if_neg (by simp [ordinary]), if_neg]
  rintro ⟨reads, same⟩
  exact unescaped reads same

/-- Text written inside quotes is their content again. -/
theorem content_doubled {escapes : Bool} {quote : Nat} (text : List Nat) :
    content escapes quote (doubled escapes quote text ++ [quote]) = text := by
  induction text with
  | nil => simp [doubled, content]
  | cons unit text ih =>
    have unfolded : doubled escapes quote (unit :: text) =
        (if unit = quote ∨ escapes = true ∧ unit = 92 then [unit, unit] else [unit]) ++
          doubled escapes quote text := rfl
    rw [unfolded]
    by_cases same : unit = quote
    · subst unit
      rw [if_pos (Or.inl rfl), List.append_assoc, List.cons_append, List.cons_append, List.nil_append, content,
        if_pos ⟨rfl, rfl⟩, ih]
    · by_cases backslash : escapes = true ∧ unit = 92
      · obtain ⟨rfl, rfl⟩ := backslash
        rw [if_pos (Or.inr ⟨rfl, rfl⟩), List.append_assoc, List.cons_append, List.cons_append, List.nil_append, content,
          if_neg (by simp [same]), if_pos ⟨rfl, rfl⟩, ih]
        rfl
      · rw [if_neg (by tauto), List.append_assoc, List.cons_append, List.nil_append,
          content_single same (fun reads is => backslash ⟨reads, is⟩) (by simp), ih]

/-- Where backslashes escape nothing, the doubled ones stay two. -/
theorem content_backslashes (text : List Nat) : content false 39 (doubled true 39 text ++ [39]) = doubled false 92 text := by
  induction text with
  | nil => rfl
  | cons unit text ih =>
    have unfolded : doubled true 39 (unit :: text) = (if unit = 39 ∨ true = true ∧ unit = 92 then [unit, unit] else [unit]) ++
        doubled true 39 text := rfl
    have unfolded' : doubled false 92 (unit :: text) = (if unit = 92 ∨ false = true ∧ unit = 92 then [unit, unit] else [unit]) ++
        doubled false 92 text := rfl
    rw [unfolded, unfolded', List.append_assoc]
    by_cases quote : unit = 39
    · subst unit
      rw [if_pos (Or.inl rfl), if_neg (by decide), List.cons_append, List.cons_append, List.nil_append, content,
        if_pos ⟨rfl, rfl⟩, ih]
      rfl
    · have plain : ∀ rest : List Nat, rest ≠ [] → content false 39 (unit :: rest) = unit :: content false 39 rest :=
        fun rest more => content_single quote (by simp) more
      by_cases backslash : unit = 92
      · subst unit
        rw [if_pos (Or.inr ⟨rfl, rfl⟩), if_pos (Or.inl rfl), List.cons_append, List.cons_append, List.nil_append,
          plain _ (by simp), plain _ (by simp), ih]
        rfl
      · rw [if_neg (by simp [quote, backslash]), if_neg (by simp [backslash]), List.singleton_append, plain _ (by simp), ih]
        rfl

@[simp]
theorem stringContent_text (text : List Nat) : stringContent (stringText text) = text :=
  content_doubled text

@[simp]
theorem quotedName_text (name : List Nat) : quotedName (columnText name) = name :=
  content_doubled name

theorem literal_tokens {operand : Literal} (proper : ProperLiteral operand) (rest : List Token) :
    literal (literalTokens operand ++ rest) = some (operand, rest) := by
  cases proper with
  | string content => simp [literalTokens, literal]
  | @number sign text signed isNumeral =>
    cases sign with
    | none => rfl
    | some sign => simp [literalTokens, literal, signed sign rfl]

theorem closeList_tokens {others : List Literal} (proper : ∀ other ∈ others, ProperLiteral other) {fuel : Nat}
    (enough : others.length ≤ fuel) (rest : List Token) :
    closeList fuel (others.flatMap (fun other => .symbol 44 :: literalTokens other) ++ .symbol 41 :: rest) =
      some (others, rest) := by
  induction others generalizing fuel with
  | nil => cases fuel <;> rfl
  | cons other others ih =>
    obtain ⟨first, later⟩ := List.forall_mem_cons.mp proper
    obtain ⟨fuel, rfl⟩ : ∃ less, fuel = less + 1 := ⟨fuel - 1, by simp at enough; omega⟩
    have closed := ih later (Nat.le_of_succ_le_succ enough)
    simp [closeList, literal_tokens first, closed]

/-! ### Predicates -/

def notSegments (negated : Bool) : List Segment := if negated then [.word "NOT", .blank] else []

def listSegments (others : List Literal) : List Segment :=
  others.flatMap fun other => [.symbol 44, .blank, .literal other]

def escapeSegments : Option (List Nat) → List Segment
  | none => []
  | some escape => [.blank, .word "ESCAPE", .blank, .literal (.string escape)]

/-- A predicate as it is written. -/
def segments : Predicate → List Segment
  | .compare column comparison operand =>
    [.column column, .blank, .operator comparison.text, .blank, .literal operand]
  | .like negated column pattern escape =>
    .column column :: .blank :: (notSegments negated ++
      .word "LIKE" :: .blank :: .literal (.string pattern) :: escapeSegments escape)
  | .member negated column first others =>
    .column column :: .blank :: (notSegments negated ++
      .word "IN" :: .blank :: .symbol 40 :: .literal first :: (listSegments others ++ [.symbol 41]))
  | .between negated column lower upper =>
    .column column :: .blank :: (notSegments negated ++
      [.word "BETWEEN", .blank, .literal lower, .blank, .word "AND", .blank, .literal upper])
  | .isNull negated column =>
    .column column :: .blank :: .word "IS" :: .blank :: (notSegments negated ++ [.word "NULL"])

/-- The literals of a predicate, from left to right. -/
def literals : Predicate → List Literal
  | .compare _ _ operand => [operand]
  | .like _ _ pattern escape => .string pattern :: escape.toList.map .string
  | .member _ _ first others => first :: others
  | .between _ _ lower upper => [lower, upper]
  | .isNull _ _ => []

theorem readings_list (others : List Literal) :
    readings (listSegments others) = others.flatMap fun other => .symbol 44 :: literalTokens other := by
  induction others with
  | nil => rfl
  | cons other others ih =>
    have unfolded : listSegments (other :: others) = [.symbol 44, .blank, .literal other] ++ listSegments others := rfl
    simp [unfolded, ih, Segment.read]

private theorem list_enough (others : List Literal) (rest : List Token) :
    others.length ≤ (others.flatMap (fun other => Token.symbol 44 :: literalTokens other) ++ rest).length := by
  induction others with
  | nil => exact Nat.zero_le _
  | cons other others ih =>
    rw [List.flatMap_cons, List.append_assoc, List.length_append]
    simp only [List.length_cons]
    omega

/-- Nothing that ends a predicate is a further keyword of it. -/
private theorem escape_ends {rest : List Token} (ends : Ends rest) : takeKeyword "ESCAPE" rest = none := by
  rcases ends with rfl | ⟨tail, rfl⟩ | ⟨_ | _, tail, rfl⟩ <;> rfl

theorem parse_comparison (comparison : Comparison) : Comparison.parse (units comparison.text) = some comparison := by
  cases comparison <;> decide

/-- A written predicate reads as itself. -/
theorem predicated_segments {found : Predicate} (proper : ∀ operand ∈ literals found, ProperLiteral operand) :
    Predicated (readings (segments found)) found := by
  cases found with
  | compare column comparison operand =>
    refine ⟨⟨_, _, rfl⟩, ?_⟩
    intro rest ends
    have operands := literal_tokens (proper operand (by simp [literals])) rest
    simp [segments, Segment.read, predicate, parse_comparison, operands]
  | like negated column pattern escape =>
    refine ⟨⟨_, _, rfl⟩, ?_⟩
    intro rest ends
    have behind : likePattern negated column
        (.string (stringText pattern) :: (readings (escapeSegments escape) ++ rest)) =
          some (.like negated column pattern escape, rest) := by
      cases escape with
      | none => simp [likePattern, escapeSegments, escape_ends ends]
      | some escape => simp [likePattern, escapeSegments, Segment.read, takeKeyword, literalTokens, isKeyword, units, upper]
    cases negated <;>
      simpa [segments, notSegments, Segment.read, literalTokens, predicate, negatable, isKeyword, units, upper] using behind
  | member negated column first others =>
    refine ⟨⟨_, _, rfl⟩, ?_⟩
    intro rest ends
    obtain ⟨leading, later⟩ := List.forall_mem_cons.mp proper
    have behind : memberList negated column (.symbol 40 :: (literalTokens first ++
        (readings (listSegments others) ++ .symbol 41 :: rest))) = some (.member negated column first others, rest) := by
      rw [readings_list]
      have closed := closeList_tokens later (list_enough others (.symbol 41 :: rest)) rest
      simp only [memberList, literal_tokens leading, Option.bind_eq_bind, Option.bind_some, closed]
      rfl
    cases negated <;>
      simpa [segments, notSegments, Segment.read, predicate, negatable, isKeyword, units, upper] using behind
  | between negated column lower upper =>
    refine ⟨⟨_, _, rfl⟩, ?_⟩
    intro rest ends
    have low := literal_tokens (proper lower (by simp [literals]))
    have high := literal_tokens (proper upper (by simp [literals])) rest
    have conjoined (tail : List Token) : takeKeyword "AND" (.word (units "AND") :: tail) = some tail :=
      take_token .and tail
    have behind : betweenBounds negated column (literalTokens lower ++
        .word (units "AND") :: (literalTokens upper ++ rest)) = some (.between negated column lower upper, rest) := by
      simp [betweenBounds, low, high, conjoined]
    cases negated <;>
      simpa [segments, notSegments, Segment.read, predicate, negatable, isKeyword, units, SqlLexer.upper] using behind
  | isNull negated column =>
    refine ⟨⟨_, _, rfl⟩, ?_⟩
    intro rest ends
    cases negated <;>
      simp [segments, notSegments, Segment.read, predicate, nullTest, takeKeyword, isKeyword, units, upper]

/-! ### Spacing -/

def keywords : List String := ["WHERE", "AND", "OR", "NOT", "LIKE", "ESCAPE", "IN", "BETWEEN", "IS", "NULL"]

theorem proper_keyword {name : String} (listed : name ∈ keywords) : (Segment.word name).Proper := by
  have all : ∀ name ∈ keywords, Run isIdentifier (units name) ∧ startsWith isDigit (units name) = false := by decide
  exact all name listed

theorem proper_connective (connective : Connective) : (Segment.word connective.text).Proper := by
  cases connective <;> exact proper_keyword (by decide)

theorem spaced_nil : Spaced [] := ⟨by simp, .nil⟩

theorem Spaced.cons {segment : Segment} {later : List Segment} (spaced : Spaced later) (proper : segment.Proper)
    (gap : segment.Solid = true → ∀ next ∈ later.head?, next.Delimits = true) : Spaced (segment :: later) := by
  constructor
  · exact List.forall_mem_cons.mpr ⟨proper, spaced.proper⟩
  · exact List.isChain_cons.mpr ⟨fun next first solid => gap solid next first, spaced.apart⟩

theorem Spaced.append {former later : List Segment} (spaced : Spaced former) (spaced' : Spaced later)
    (gap : ∀ next ∈ later.head?, next.Delimits = true) : Spaced (former ++ later) := by
  constructor
  · exact List.forall_mem_append.mpr ⟨spaced.proper, spaced'.proper⟩
  · exact List.isChain_append.mpr ⟨spaced.apart, spaced'.apart, fun _ _ next first _ => gap next first⟩

theorem Spaced.blank {later : List Segment} (spaced : Spaced later) : Spaced (.blank :: later) :=
  spaced.cons trivial (by simp [Segment.Solid])

/-- A solid segment in front of a blank. -/
theorem Spaced.before_blank {segment : Segment} {later : List Segment} (spaced : Spaced later)
    (proper : segment.Proper) : Spaced (segment :: .blank :: later) :=
  spaced.blank.cons proper (by simp [Segment.Delimits])

theorem spaced_last {segment : Segment} (proper : segment.Proper) : Spaced [segment] :=
  spaced_nil.cons proper (by simp)

private theorem spaced_not {later : List Segment} (negated : Bool) (spaced : Spaced later) :
    Spaced (notSegments negated ++ later) := by
  cases negated with
  | false => exact spaced
  | true => exact spaced.before_blank (proper_keyword (by decide))

private theorem spaced_list {others : List Literal} (proper : ∀ other ∈ others, ProperLiteral other) :
    Spaced (listSegments others ++ [.symbol 41]) ∧
      ∀ next ∈ (listSegments others ++ [Segment.symbol 41]).head?, next.Delimits = true := by
  induction others with
  | nil => exact ⟨spaced_last (Or.inr (Or.inl rfl)), by simp [listSegments, Segment.Delimits]⟩
  | cons other others ih =>
    obtain ⟨first, later⟩ := List.forall_mem_cons.mp proper
    obtain ⟨spaced, delimits⟩ := ih later
    have operand : Spaced (.literal other :: (listSegments others ++ [.symbol 41])) := spaced.cons first fun _ => delimits
    refine ⟨operand.blank.cons (Or.inr (Or.inr rfl)) (by simp [Segment.Solid]), ?_⟩
    simp [listSegments, Segment.Delimits]

/-- A predicate with proper literals is written with all its gaps. -/
theorem spaced_segments {found : Predicate} (proper : ∀ operand ∈ literals found, ProperLiteral operand) :
    Spaced (segments found) := by
  cases found with
  | compare column comparison operand =>
    have last : Spaced [.literal operand] := spaced_last (proper operand (by simp [literals]))
    have compares : (Segment.operator comparison.text).Proper := by
      cases comparison <;> exact ⟨by decide, by decide⟩
    exact (last.before_blank compares).before_blank trivial
  | like negated column pattern escape =>
    have behind : Spaced (.literal (.string pattern) :: escapeSegments escape) := by
      cases escape with
      | none => exact spaced_last (.string pattern)
      | some escape =>
        have last : Spaced [.literal (.string escape)] := spaced_last (.string escape)
        exact (last.before_blank (proper_keyword (by decide))).before_blank (.string pattern)
    exact (spaced_not negated (behind.before_blank (proper_keyword (by decide)))).before_blank trivial
  | member negated column first others =>
    obtain ⟨leading, later⟩ := List.forall_mem_cons.mp proper
    obtain ⟨spaced, delimits⟩ := spaced_list later
    have listed : Spaced (.literal first :: (listSegments others ++ [.symbol 41])) :=
      spaced.cons leading fun _ => delimits
    have opened : Spaced (.symbol 40 :: .literal first :: (listSegments others ++ [.symbol 41])) :=
      listed.cons (Or.inl rfl) (by simp [Segment.Solid])
    exact (spaced_not negated (opened.before_blank (proper_keyword (by decide)))).before_blank trivial
  | between negated column lower upper =>
    have last : Spaced [.literal upper] := spaced_last (proper upper (by simp [literals]))
    have inner : Spaced (.word "AND" :: .blank :: [.literal upper]) := last.before_blank (proper_keyword (by decide))
    have bounds := inner.before_blank (show (Segment.literal lower).Proper from proper lower (by simp [literals]))
    exact (spaced_not negated (bounds.before_blank (proper_keyword (by decide)))).before_blank trivial
  | isNull negated column =>
    have last : Spaced [.word "NULL"] := spaced_last (proper_keyword (by decide))
    exact ((spaced_not negated last).before_blank (proper_keyword (by decide))).before_blank trivial

/-! ### Joining -/

def joined (former : List Segment) (connective : Connective) (latter : List Segment) : List Segment :=
  former ++ .blank :: .word connective.text :: .blank :: latter

def parenthesized (inner : List Segment) : List Segment := .symbol 40 :: (inner ++ [.symbol 41])

theorem Spaced.joined {former latter : List Segment} (spaced : Spaced former) (spaced' : Spaced latter)
    (connective : Connective) : Spaced (joined former connective latter) := by
  exact spaced.append (spaced'.before_blank (proper_connective connective)).blank (by simp [Segment.Delimits])

theorem Spaced.parenthesized {inner : List Segment} (spaced : Spaced inner) : Spaced (parenthesized inner) := by
  have closing : Spaced [.symbol 41] := spaced_last (Or.inr (Or.inl rfl))
  have closed := spaced.append closing (by simp [Segment.Delimits])
  exact closed.cons (Or.inl rfl) (by simp [Segment.Solid])

@[simp]
theorem readings_joined (former latter : List Segment) (connective : Connective) :
    readings (joined former connective latter) = readings former ++ connective.token :: readings latter := by
  simp [joined, Segment.read, Connective.token]

@[simp]
theorem readings_parenthesized (inner : List Segment) :
    readings (parenthesized inner) = .symbol 40 :: (readings inner ++ [.symbol 41]) := by
  simp [parenthesized, Segment.read]

end SqlWriting
