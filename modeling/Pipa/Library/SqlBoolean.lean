import Pipa.Library.SqlLexer

/-! Boolean SQL expressions: their grammar, with NOT over AND over OR and the inner
AND of BETWEEN bound to BETWEEN, and their value in three-valued logic. -/

namespace SqlBoolean
open SqlLexer

inductive Literal where
  | string (content : List Nat)
  | number (sign : Option Nat) (text : List Nat)
deriving DecidableEq, Repr

inductive Comparison where
  | equal | notEqual | greater | greaterOrEqual | less | lessOrEqual
deriving DecidableEq, Repr

inductive Predicate where
  | compare (column : List Nat) (comparison : Comparison) (operand : Literal)
  | like (negated : Bool) (column pattern : List Nat) (escape : Option (List Nat))
  | member (negated : Bool) (column : List Nat) (first : Literal) (others : List Literal)
  | between (negated : Bool) (column : List Nat) (lower upper : Literal)
  | isNull (negated : Bool) (column : List Nat)
deriving DecidableEq, Repr

inductive Connective where
  | and | or
deriving DecidableEq, Repr

inductive Expression where
  | predicate (single : Predicate)
  | not (operand : Expression)
  | connect (connective : Connective) (left right : Expression)
deriving DecidableEq, Repr

/-- The predicates of an expression, from left to right. -/
def Expression.predicates : Expression → List Predicate
  | .predicate single => [single]
  | .not operand => operand.predicates
  | .connect _ left right => left.predicates ++ right.predicates

/-! ### Grammar -/

/-- What a backslash and the unit behind it stand for inside a string. -/
def unescaped (unit : Nat) : List Nat :=
  if unit = 48 then [0] else if unit = 98 then [8] else if unit = 110 then [10] else if unit = 114 then [13]
  else if unit = 116 then [9] else if unit = 90 then [26] else if unit = 37 ∨ unit = 95 then [92, unit] else [unit]

/-- What stands inside a quote, read up to the quote that ends it. -/
def content (escapes : Bool) (quote : Nat) : List Nat → List Nat
  | [] => []
  | [unit] => if unit = quote then [] else [unit]
  | unit :: next :: rest =>
    if unit = quote ∧ next = quote then quote :: content escapes quote rest
    else if escapes = true ∧ unit = 92 then unescaped next ++ content escapes quote rest
    else unit :: content escapes quote (next :: rest)

/-- The value of a string literal in the default mode. -/
def stringContent : List Nat → List Nat
  | [] => []
  | quote :: body => content true quote body

/-- The name inside a quoted identifier. -/
def quotedName : List Nat → List Nat
  | [] => []
  | quote :: body => content false quote body

/-- The tokens behind a keyword, where the keyword comes first. -/
def takeKeyword (name : String) : List Token → Option (List Token)
  | [] => none
  | token :: rest => if isKeyword name token then some rest else none

def Comparison.text : Comparison → String
  | .equal => "="
  | .notEqual => "!="
  | .greater => ">"
  | .greaterOrEqual => ">="
  | .less => "<"
  | .lessOrEqual => "<="

def Comparison.parse (text : List Nat) : Option Comparison :=
  if text = units "<>" then some .notEqual
  else [Comparison.equal, .notEqual, .greater, .greaterOrEqual, .less, .lessOrEqual].find? (units ·.text == text)

def literal : List Token → Option (Literal × List Token)
  | .string text :: rest => some (.string (stringContent text), rest)
  | .number text :: rest => some (.number none text, rest)
  | .symbol sign :: .number text :: rest =>
    if sign = 43 ∨ sign = 45 then some (.number (some sign) text, rest) else none
  | _ => none

/-- The further literals of a list and the parenthesis that closes it. -/
def closeList : Nat → List Token → Option (List Literal × List Token)
  | _, .symbol 41 :: rest => some ([], rest)
  | fuel + 1, .symbol 44 :: rest => do
    let (next, rest) ← literal rest
    let (others, rest) ← closeList fuel rest
    return (next :: others, rest)
  | _, _ => none

/-- A pattern and what escapes its wildcards. -/
def likePattern (negated : Bool) (column : List Nat) : List Token → Option (Predicate × List Token)
  | .string pattern :: rest =>
    match takeKeyword "ESCAPE" rest with
    | none => some (.like negated column (stringContent pattern) none, rest)
    | some (.string escape :: rest) =>
      some (.like negated column (stringContent pattern) (some (stringContent escape)), rest)
    | some _ => none
  | _ => none

def memberList (negated : Bool) (column : List Nat) : List Token → Option (Predicate × List Token)
  | .symbol 40 :: rest => do
    let (first, rest) ← literal rest
    let (others, rest) ← closeList rest.length rest
    return (.member negated column first others, rest)
  | _ => none

/-- The AND between the bounds belongs to BETWEEN. -/
def betweenBounds (negated : Bool) (column : List Nat) (tokens : List Token) : Option (Predicate × List Token) := do
  let (lower, rest) ← literal tokens
  let rest ← takeKeyword "AND" rest
  let (upper, rest) ← literal rest
  return (.between negated column lower upper, rest)

/-- What may stand behind a column and an optional NOT. -/
def negatable (negated : Bool) (column : List Nat) : List Token → Option (Predicate × List Token)
  | [] => none
  | token :: rest =>
    if isKeyword "LIKE" token then likePattern negated column rest
    else if isKeyword "IN" token then memberList negated column rest
    else if isKeyword "BETWEEN" token then betweenBounds negated column rest
    else none

def nullTest (column : List Nat) : List Token → Option (Predicate × List Token)
  | [] => none
  | token :: rest =>
    if isKeyword "NULL" token then some (.isNull false column, rest)
    else if isKeyword "NOT" token then (takeKeyword "NULL" rest).map (.isNull true column, ·)
    else none

def predicate : List Token → Option (Predicate × List Token)
  | .quoted column :: .operator text :: rest => do
    let comparison ← Comparison.parse text
    let (operand, rest) ← literal rest
    return (.compare (quotedName column) comparison operand, rest)
  | .quoted column :: token :: rest =>
    if isKeyword "IS" token then nullTest (quotedName column) rest
    else if isKeyword "NOT" token then negatable true (quotedName column) rest
    else negatable false (quotedName column) (token :: rest)
  | _ => none

mutual

/-- Conjunctions joined by OR. -/
def disjunction : Nat → List Token → Option (Expression × List Token)
  | 0, _ => none
  | fuel + 1, tokens => (conjunction fuel tokens).bind fun (left, rest) => disjuncts fuel left rest

def disjuncts : Nat → Expression → List Token → Option (Expression × List Token)
  | 0, _, _ => none
  | fuel + 1, left, tokens =>
    match takeKeyword "OR" tokens with
    | none => some (left, tokens)
    | some rest => (conjunction fuel rest).bind fun (right, rest) => disjuncts fuel (.connect .or left right) rest

/-- Negations joined by AND. -/
def conjunction : Nat → List Token → Option (Expression × List Token)
  | 0, _ => none
  | fuel + 1, tokens => (negation fuel tokens).bind fun (left, rest) => conjuncts fuel left rest

def conjuncts : Nat → Expression → List Token → Option (Expression × List Token)
  | 0, _, _ => none
  | fuel + 1, left, tokens =>
    match takeKeyword "AND" tokens with
    | none => some (left, tokens)
    | some rest => (negation fuel rest).bind fun (right, rest) => conjuncts fuel (.connect .and left right) rest

/-- NOT in front of a negation, or a parenthesized expression, or a predicate. -/
def negation : Nat → List Token → Option (Expression × List Token)
  | 0, _ => none
  | fuel + 1, tokens =>
    match takeKeyword "NOT" tokens, tokens with
    | some rest, _ => (negation fuel rest).map fun (operand, rest) => (.not operand, rest)
    | none, .symbol 40 :: rest =>
      match disjunction fuel rest with
      | some (inner, .symbol 41 :: rest) => some (inner, rest)
      | _ => none
    | none, tokens => (predicate tokens).map fun (found, rest) => (.predicate found, rest)

end

/-- A whole WHERE clause. The recursion never needs more fuel than this. -/
def parseWhere (tokens : List Token) : Option Expression :=
  match (takeKeyword "WHERE" tokens).bind fun rest => disjunction (2 * rest.length + 2) rest with
  | some (found, []) => some found
  | _ => none

/-! ### Value in three-valued logic -/

def kleeneNot (value : Option Bool) : Option Bool := value.map (!·)

def kleeneAnd : Option Bool → Option Bool → Option Bool
  | some false, _ | _, some false => some false
  | some true, some true => some true
  | _, _ => none

def kleeneOr : Option Bool → Option Bool → Option Bool
  | some true, _ | _, some true => some true
  | some false, some false => some false
  | _, _ => none

/-- A row gives every column a value or NULL; values are ordered and matched as
the server's types and collations have it. -/
structure Row (V : Type) where
  column : List Nat → Option V
  literal : Literal → V
  order : V → V → Ordering
  matched : V → List Nat → Option (List Nat) → Bool

def Comparison.holds : Comparison → Ordering → Bool
  | .equal, ordering => ordering == .eq
  | .notEqual, ordering => ordering != .eq
  | .greater, ordering => ordering == .gt
  | .greaterOrEqual, ordering => ordering != .lt
  | .less, ordering => ordering == .lt
  | .lessOrEqual, ordering => ordering != .gt

namespace Row
variable {V : Type} (row : Row V)

/-- A comparison with NULL is unknown. -/
def compares (column : List Nat) (comparison : Comparison) (operand : Literal) : Option Bool :=
  (row.column column).map fun value => comparison.holds (row.order value (row.literal operand))

def negate (negated : Bool) (value : Option Bool) : Option Bool := if negated then kleeneNot value else value

def predicate : Predicate → Option Bool
  | .compare column comparison operand => row.compares column comparison operand
  | .like negated column pattern escape =>
    negate negated ((row.column column).map fun value => row.matched value pattern escape)
  | .member negated column first others =>
    negate negated ((others.map (row.compares column .equal)).foldl kleeneOr (row.compares column .equal first))
  | .between negated column lower upper =>
    negate negated (kleeneAnd (row.compares column .greaterOrEqual lower) (row.compares column .lessOrEqual upper))
  | .isNull negated column => negate negated (some (row.column column).isNone)

def connect : Connective → Option Bool → Option Bool → Option Bool
  | .and => kleeneAnd
  | .or => kleeneOr

def value : Expression → Option Bool
  | .predicate single => predicate row single
  | .not operand => kleeneNot (value operand)
  | .connect connective left right => connect connective (value left) (value right)

end Row

/-! ### Phrases: every one is parsed to its own expression -/

def Connective.text : Connective → String
  | .and => "AND"
  | .or => "OR"

def Connective.token (connective : Connective) : Token := .word (units connective.text)

/-- The end, a closing parenthesis or a connective ends every predicate. -/
def Ends (rest : List Token) : Prop :=
  rest = [] ∨ (∃ tail, rest = .symbol 41 :: tail) ∨ ∃ connective tail, rest = Connective.token connective :: tail

/-- Tokens that read as one predicate wherever it may end. -/
def Predicated (text : List Token) (found : Predicate) : Prop :=
  (∃ name tail, text = .quoted name :: tail) ∧ ∀ rest, Ends rest → predicate (text ++ rest) = some (found, rest)

/-- The levels of the grammar: below NOT, below AND, and whole. -/
inductive Level where
  | operand | conjunction | disjunction

/-- Tokens derived by the grammar at a level. -/
inductive Phrase : Level → List Token → Expression → Prop where
  | predicate {text found} (reads : Predicated text found) : Phrase .operand text (.predicate found)
  | not {text found} (negated : Phrase .operand text found) :
      Phrase .operand (.word (units "NOT") :: text) (.not found)
  | parenthesized {text found} (whole : Phrase .disjunction text found) :
      Phrase .operand (.symbol 40 :: (text ++ [.symbol 41])) found
  | operand {text found} (single : Phrase .operand text found) : Phrase .conjunction text found
  | and {text text' left right} (former : Phrase .conjunction text left) (latter : Phrase .operand text' right) :
      Phrase .conjunction (text ++ Connective.token .and :: text') (.connect .and left right)
  | conjunction {text found} (single : Phrase .conjunction text found) : Phrase .disjunction text found
  | or {text text' left right} (former : Phrase .disjunction text left) (latter : Phrase .conjunction text' right) :
      Phrase .disjunction (text ++ Connective.token .or :: text') (.connect .or left right)

theorem Phrase.nonempty {level : Level} {text : List Token} {found : Expression} (phrase : Phrase level text found) :
    1 ≤ text.length := by
  induction phrase with
  | predicate reads =>
    obtain ⟨⟨name, tail, rfl⟩, -⟩ := reads
    simp
  | operand _ ih => exact ih
  | conjunction _ ih => exact ih
  | not | parenthesized => simp
  | and | or =>
    simp only [List.length_append, List.length_cons]
    omega

theorem ends_token (connective : Connective) (tail : List Token) : Ends (connective.token :: tail) :=
  Or.inr (Or.inr ⟨connective, tail, rfl⟩)

theorem take_token (connective : Connective) (tail : List Token) :
    takeKeyword connective.text (connective.token :: tail) = some tail := by
  cases connective <;> rfl

/-- Only its own keyword continues a level. -/
theorem take_other {connective : Connective} {rest : List Token} (ends : Ends rest)
    (other : ∀ tail, rest ≠ connective.token :: tail) : takeKeyword connective.text rest = none := by
  rcases ends with rfl | ⟨tail, rfl⟩ | ⟨found, tail, rfl⟩
  · rfl
  · rfl
  · cases connective <;> cases found
    · exact absurd rfl (other tail)
    · rfl
    · rfl
    · exact absurd rfl (other tail)

/-- What parsing at a level makes of a phrase in front of a rest. A chain of
operators leaves its fuel to the operators that may still follow. -/
def Parses : Level → List Token → Expression → Prop
  | .operand, text, found => ∀ fuel rest, 2 * text.length ≤ fuel → Ends rest →
      negation fuel (text ++ rest) = some (found, rest)
  | .conjunction, text, found => ∀ fuel rest, 2 * text.length + 1 ≤ fuel → Ends rest →
      ∃ left, fuel ≤ left + text.length ∧ conjunction fuel (text ++ rest) = conjuncts left found rest
  | .disjunction, text, found => ∀ fuel rest, 2 * text.length + 2 ≤ fuel → Ends rest →
      (∀ tail, rest ≠ Connective.token .and :: tail) →
      ∃ left, fuel ≤ left + text.length ∧ disjunction fuel (text ++ rest) = disjuncts left found rest

/-- A chain ends where its keyword does not follow. -/
theorem conjuncts_end {fuel : Nat} (found : Expression) {rest : List Token} (enough : 1 ≤ fuel) (ends : Ends rest)
    (other : ∀ tail, rest ≠ Connective.token .and :: tail) : conjuncts fuel found rest = some (found, rest) := by
  obtain ⟨fuel, rfl⟩ : ∃ less, fuel = less + 1 := ⟨fuel - 1, by omega⟩
  have none : takeKeyword "AND" rest = none := take_other ends other
  rw [conjuncts, none]

theorem disjuncts_end {fuel : Nat} (found : Expression) {rest : List Token} (enough : 1 ≤ fuel) (ends : Ends rest)
    (other : ∀ tail, rest ≠ Connective.token .or :: tail) : disjuncts fuel found rest = some (found, rest) := by
  obtain ⟨fuel, rfl⟩ : ∃ less, fuel = less + 1 := ⟨fuel - 1, by omega⟩
  have none : takeKeyword "OR" rest = none := take_other ends other
  rw [disjuncts, none]

/-- Parsing at a level reads every phrase of that level to its own expression. -/
theorem Phrase.parses {level : Level} {text : List Token} {found : Expression} (phrase : Phrase level text found) :
    Parses level text found := by
  induction phrase with
  | predicate reads =>
    obtain ⟨⟨name, tail, rfl⟩, read⟩ := reads
    intro fuel rest enough ends
    obtain ⟨fuel, rfl⟩ : ∃ less, fuel = less + 1 := ⟨fuel - 1, by simp at enough; omega⟩
    have found := read rest ends
    rw [List.cons_append] at found ⊢
    simp [negation, takeKeyword, isKeyword, found]
  | @not text found negated ih =>
    intro fuel rest enough ends
    simp only [List.length_cons] at enough
    obtain ⟨fuel, rfl⟩ : ∃ less, fuel = less + 1 := ⟨fuel - 1, by omega⟩
    have keyword : isKeyword "NOT" (.word (units "NOT")) = true := by decide
    have inner := ih fuel rest (by omega) ends
    have taken : takeKeyword "NOT" (.word (units "NOT") :: (text ++ rest)) = some (text ++ rest) := by
      rw [takeKeyword.eq_2, if_pos keyword]
    rw [List.cons_append, negation, inner]
    · rfl
    · exact taken
  | @parenthesized text found whole ih =>
    intro fuel rest enough ends
    simp only [List.length_cons, List.length_append, List.length_nil] at enough
    obtain ⟨fuel, rfl⟩ : ∃ less, fuel = less + 1 := ⟨fuel - 1, by omega⟩
    have closes : Ends (Token.symbol 41 :: rest) := Or.inr (Or.inl ⟨rest, rfl⟩)
    obtain ⟨left, spent, parsed⟩ := ih fuel (.symbol 41 :: rest) (by omega) closes (by simp [Connective.token])
    rw [disjuncts_end found (by omega) closes (by simp [Connective.token])] at parsed
    simp [negation, takeKeyword, isKeyword, parsed]
  | operand single ih =>
    intro fuel rest enough ends
    have positive := single.nonempty
    obtain ⟨fuel, rfl⟩ : ∃ less, fuel = less + 1 := ⟨fuel - 1, by omega⟩
    have first := ih fuel rest (by omega) ends
    exact ⟨fuel, by omega, by rw [SqlBoolean.conjunction, first, Option.bind_some]⟩
  | @and text text' left right former latter ih ih' =>
    intro fuel rest enough ends
    simp only [List.length_append, List.length_cons] at enough ⊢
    obtain ⟨spare, spent, parsed⟩ := ih fuel (Connective.token .and :: (text' ++ rest)) (by omega) (ends_token _ _)
    obtain ⟨spare, rfl⟩ : ∃ less, spare = less + 1 := ⟨spare - 1, by omega⟩
    have next := ih' spare rest (by omega) ends
    have keyword : takeKeyword "AND" (Connective.token .and :: (text' ++ rest)) = some (text' ++ rest) := take_token .and _
    refine ⟨spare, by omega, ?_⟩
    rw [List.append_assoc, List.cons_append, parsed, conjuncts, keyword]
    simp only [next, Option.bind_some]
  | @conjunction text found single ih =>
    intro fuel rest enough ends other
    have positive := single.nonempty
    obtain ⟨fuel, rfl⟩ : ∃ less, fuel = less + 1 := ⟨fuel - 1, by omega⟩
    obtain ⟨left, spent, parsed⟩ := ih fuel rest (by omega) ends
    rw [conjuncts_end found (by omega) ends other] at parsed
    exact ⟨fuel, by omega, by rw [disjunction, parsed, Option.bind_some]⟩
  | @or text text' left right former latter ih ih' =>
    intro fuel rest enough ends other
    simp only [List.length_append, List.length_cons] at enough ⊢
    obtain ⟨spare, spent, parsed⟩ := ih fuel (Connective.token .or :: (text' ++ rest)) (by omega) (ends_token _ _)
      (by simp [Connective.token, Connective.text, units])
    obtain ⟨spare, rfl⟩ : ∃ less, spare = less + 1 := ⟨spare - 1, by omega⟩
    obtain ⟨within, spent', next⟩ := ih' spare rest (by omega) ends
    rw [conjuncts_end right (by omega) ends other] at next
    have keyword : takeKeyword "OR" (Connective.token .or :: (text' ++ rest)) = some (text' ++ rest) := take_token .or _
    refine ⟨spare, by omega, ?_⟩
    rw [List.append_assoc, List.cons_append, parsed, disjuncts, keyword]
    simp only [next, Option.bind_some]

/-- A WHERE clause over a whole phrase is parsed to its expression. -/
theorem Phrase.parseWhere {text : List Token} {found : Expression} (phrase : Phrase .disjunction text found) :
    parseWhere (.word (units "WHERE") :: text) = some found := by
  have ends : Ends [] := Or.inl rfl
  have keyword : takeKeyword "WHERE" (.word (units "WHERE") :: text) = some text := by
    rw [takeKeyword, if_pos (by decide)]
  obtain ⟨left, spent, parsed⟩ := phrase.parses (2 * text.length + 2) [] (Nat.le_refl _) ends (by simp)
  rw [disjuncts_end found (by omega) ends (by simp), List.append_nil] at parsed
  simp only [SqlBoolean.parseWhere, keyword, Option.bind_some, parsed]

/-- Two parenthesized or single operands join to a whole phrase under either connective. -/
theorem Phrase.connect {text text' : List Token} {left right : Expression} (connective : Connective)
    (former : Phrase .operand text left) (latter : Phrase .operand text' right) :
    Phrase .disjunction (text ++ connective.token :: text') (.connect connective left right) := by
  cases connective with
  | and => exact .conjunction (.and (.operand former) latter)
  | or => exact .or (.conjunction (.operand former)) (.operand latter)

end SqlBoolean
