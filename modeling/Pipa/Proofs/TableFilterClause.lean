import Pipa.Proofs.TableFilterMeaning

/-! The clause as a whole: which conditions it compiles, in which segments it is
written, and to which expression these are parsed. -/

namespace Pipa.TableFilter
open SqlLexer SqlBoolean SqlWriting

/-- What a condition says, with its stored conjunction. -/
def conditionMeaning (schema : List TableFilterColumn) (condition : TableFilterCondition) :
    Option (Predicate × TableFilterConjunction) :=
  (schema.find? fun column => column.name == condition.columnName).bind fun column =>
    (conditionPredicate condition column).map (·, condition.conjunction)

/-- The predicates of all active conditions, in order. -/
def activePredicates (conditions : List TableFilterCondition) (schema : List TableFilterColumn) :
    Option (List (Predicate × TableFilterConjunction)) :=
  (conditions.filter fun condition => !isIgnored condition).mapM (conditionMeaning schema)

/-! ### Compiling -/

def PartWritten (schema : List TableFilterColumn) (part : String × TableFilterConjunction)
    (meaning : Predicate × TableFilterConjunction) : Prop :=
  part.2 = meaning.2 ∧ ∃ column ∈ schema, Written column part.1 meaning.1

/-- A condition without error is ignored, or adds the one part that it means. -/
theorem compileCondition_clean {schema : List TableFilterColumn} {start : Compilation}
    {condition : TableFilterCondition} (clean : (compileCondition schema start condition).errors = []) :
    start.errors = [] ∧ (isIgnored condition = true ∧ compileCondition schema start condition = start ∨
      isIgnored condition = false ∧ ∃ part meaning, conditionMeaning schema condition = some meaning ∧
        PartWritten schema part meaning ∧
        (compileCondition schema start condition).parts = start.parts ++ [part]) := by
  simp only [compileCondition] at clean ⊢
  cases ignored : isIgnored condition with
  | true =>
    simp only [ignored, if_true] at clean ⊢
    exact ⟨clean, Or.inl ⟨trivial, trivial⟩⟩
  | false =>
    simp only [ignored, Bool.false_eq_true, if_false] at clean ⊢
    cases found : schema.find? fun column => column.name == condition.columnName with
    | none => simp [found] at clean
    | some column =>
      simp only [found] at clean ⊢
      split at clean
      · simp at clean
      next supported =>
        rw [if_neg supported]
        cases compiled : filterPredicate condition column with
        | error error => simp [compiled] at clean
        | ok text =>
          simp only [compiled] at clean ⊢
          obtain ⟨predicate, stated, written⟩ := filterPredicate_written compiled
          refine ⟨clean, Or.inr ⟨trivial, (text, condition.conjunction), (predicate, condition.conjunction), ?_,
            ⟨rfl, column, List.mem_of_find?_eq_some found, written⟩, rfl⟩⟩
          simp [conditionMeaning, found, stated]

/-- Without errors, every active condition has a meaning, and the parts are these meanings as written. -/
theorem compile_clean {schema : List TableFilterColumn} {conditions : List TableFilterCondition} {start : Compilation}
    (clean : (conditions.foldl (compileCondition schema) start).errors = []) :
    start.errors = [] ∧ ∃ parts predicates, activePredicates conditions schema = some predicates ∧
      List.Forall₂ (PartWritten schema) parts predicates ∧
      (conditions.foldl (compileCondition schema) start).parts = start.parts ++ parts := by
  induction conditions generalizing start with
  | nil => exact ⟨clean, [], [], rfl, .nil, by simp⟩
  | cons condition conditions ih =>
    obtain ⟨later, parts, predicates, active, written, joined⟩ := ih clean
    obtain ⟨before, ⟨ignored, same⟩ | ⟨ignored, part, meaning, stated, here, added⟩⟩ := compileCondition_clean later
    · refine ⟨before, parts, predicates, ?_, written, ?_⟩
      · simpa [activePredicates, ignored] using active
      · rw [List.foldl_cons, joined, same]
    · refine ⟨before, part :: parts, meaning :: predicates, ?_, .cons here written, ?_⟩
      · rw [activePredicates] at active ⊢
        rw [List.filter_cons_of_pos (by simp [ignored]), List.mapM_cons, stated, active]
        rfl
      · rw [List.foldl_cons, joined, added, List.append_assoc, List.singleton_append]

/-! ### Segments -/

/-- What a clause may consist of, beside literals of proper form. -/
def Permitted (schema : List TableFilterColumn) : Segment → Prop
  | .blank => True
  | .word name => name ∈ keywords
  | .operator text => text ∈ ["=", "!=", ">", ">=", "<", "<="]
  | .column name => ∃ column ∈ schema, name = units column.name
  | .literal operand => ProperLiteral operand
  | .symbol unit => unit = 40 ∨ unit = 41 ∨ unit = 44

def literalOf : Segment → Option Literal
  | .literal operand => some operand
  | _ => none

private theorem literals_list (others : List Literal) : (listSegments others).filterMap literalOf = others := by
  induction others with
  | nil => rfl
  | cons other others ih =>
    have unfolded : listSegments (other :: others) = [.symbol 44, .blank, .literal other] ++ listSegments others := rfl
    simp [unfolded, ih, literalOf, List.filterMap_cons]

theorem literals_segments (found : Predicate) : (segments found).filterMap literalOf = literals found := by
  cases found with
  | compare => rfl
  | like negated column pattern escape => cases negated <;> cases escape <;> rfl
  | member negated column first others =>
    cases negated <;> simp [segments, literals, literalOf, notSegments, literals_list, List.filterMap_cons]
  | between negated => cases negated <;> rfl
  | isNull negated => cases negated <;> rfl

private theorem word_listed {found : Predicate} {name : String} (inside : Segment.word name ∈ segments found) :
    name ∈ keywords := by
  have negation {negated : Bool} (inside : Segment.word name ∈ notSegments negated) : name ∈ keywords := by
    cases negated with
    | false => cases inside
    | true =>
      obtain rfl : name = "NOT" := by simpa [notSegments] using inside
      decide
  cases found with
  | compare => simp [segments] at inside
  | like negated column pattern escape =>
    have escaped (inside : Segment.word name ∈ escapeSegments escape) : name ∈ keywords := by
      cases escape with
      | none => cases inside
      | some escape =>
        obtain rfl : name = "ESCAPE" := by simpa [escapeSegments] using inside
        decide
    simp only [segments, List.mem_cons, List.mem_append, reduceCtorEq, false_or, Segment.word.injEq] at inside
    rcases inside with inside | rfl | inside
    · exact negation inside
    · decide
    · exact escaped inside
  | member negated column first others =>
    simp [segments, listSegments] at inside
    rcases inside with inside | rfl
    · exact negation inside
    · decide
  | between negated column lower upper =>
    simp [segments] at inside
    rcases inside with inside | rfl | rfl
    · exact negation inside
    · decide
    · decide
  | isNull negated column =>
    simp [segments] at inside
    rcases inside with rfl | inside | rfl
    · decide
    · exact negation inside
    · decide

private theorem operator_listed {found : Predicate} {text : String} (inside : Segment.operator text ∈ segments found) :
    ∃ comparison : Comparison, text = comparison.text := by
  cases found with
  | compare column comparison operand => exact ⟨comparison, by simpa [segments] using inside⟩
  | like negated column pattern escape =>
    cases negated <;> cases escape <;> simp [segments, notSegments, escapeSegments] at inside
  | member negated => cases negated <;> simp [segments, notSegments, listSegments] at inside
  | between negated => cases negated <;> simp [segments, notSegments] at inside
  | isNull negated => cases negated <;> simp [segments, notSegments] at inside

theorem Written.permitted {schema : List TableFilterColumn} {column : TableFilterColumn} {text : String}
    {found : Predicate} (written : Written column text found) (listed : column ∈ schema) :
    ∀ segment ∈ segments found, Permitted schema segment := by
  intro segment inside
  cases segment with
  | blank => trivial
  | column name => exact ⟨column, listed, written.named name inside⟩
  | literal operand =>
    apply written.proper
    rw [← literals_segments]
    exact List.mem_filterMap.mpr ⟨_, inside, rfl⟩
  | word name => exact word_listed inside
  | operator text =>
    obtain ⟨comparison, rfl⟩ := operator_listed inside
    have allowed : comparison.text ∈ ["=", "!=", ">", ">=", "<", "<="] := by
      cases comparison <;> decide
    exact allowed
  | symbol unit => exact (spaced_segments written.proper).proper _ inside

/-! ### Joining -/

def connective : TableFilterConjunction → Connective
  | .and => .and
  | .or => .or

/-- Joins one more predicate to what precedes it. -/
def connectMeaning (former : Expression) (meaning : Predicate × TableFilterConjunction) : Expression :=
  .connect (connective meaning.2) former (.predicate meaning.1)

/-- A text is an expression of the grammar, written in segments that may stand in a clause. -/
structure Renders (schema : List TableFilterColumn) (level : Level) (text : String) (pieces : List Segment)
    (found : Expression) : Prop where
  text : units text = write pieces
  spaced : Spaced pieces
  phrase : Phrase level (readings pieces) found
  permitted : ∀ piece ∈ pieces, Permitted schema piece
  literals : pieces.filterMap literalOf = found.predicates.flatMap literals

section Joining
variable {schema : List TableFilterColumn}

theorem PartWritten.renders {part : String × TableFilterConjunction} {meaning : Predicate × TableFilterConjunction}
    (written : PartWritten schema part meaning) :
    Renders schema .operand part.1 (segments meaning.1) (.predicate meaning.1) := by
  obtain ⟨-, column, listed, written⟩ := written
  exact {
    text := written.text
    spaced := spaced_segments written.proper
    phrase := .predicate (predicated_segments written.proper)
    permitted := written.permitted listed
    literals := by simp [literals_segments, Expression.predicates] }

theorem Renders.grouped {text : String} {pieces : List Segment} {found : Expression}
    (renders : Renders schema .disjunction text pieces found) :
    Renders schema .operand ("(" ++ text ++ ")") (parenthesized pieces) found := by
  have fixed : units "(" = [40] ∧ units ")" = [41] := by decide
  exact {
    text := by simp [parenthesized, Segment.written, fixed, renders.text]
    spaced := renders.spaced.parenthesized
    phrase := by
      rw [readings_parenthesized]
      exact .parenthesized renders.phrase
    permitted := by
      simpa [parenthesized, Permitted, or_imp, forall_and] using renders.permitted
    literals := by simp [parenthesized, literalOf, List.filterMap_cons, renders.literals] }

theorem Renders.joined {level level' level'' : Level} {text text' : String} {pieces pieces' : List Segment}
    {found found' : Expression} (former : Renders schema level text pieces found)
    (latter : Renders schema level' text' pieces' found') (conjunction : TableFilterConjunction)
    (phrase : Phrase level'' (readings pieces ++ (connective conjunction).token :: readings pieces')
      (.connect (connective conjunction) found found')) :
    Renders schema level'' (text ++ " " ++ conjunctionSql conjunction ++ " " ++ text')
      (SqlWriting.joined pieces (connective conjunction) pieces')
      (.connect (connective conjunction) found found') := by
  have blank : units " " = [32] := by decide
  have keyword : conjunctionSql conjunction = (connective conjunction).text := by cases conjunction <;> rfl
  have allowed : (connective conjunction).text ∈ keywords := by cases conjunction <;> decide
  exact {
    text := by simp [SqlWriting.joined, Segment.written, blank, keyword, former.text, latter.text]
    spaced := former.spaced.joined latter.spaced (connective conjunction)
    phrase := by
      rw [readings_joined]
      exact phrase
    permitted := by
      intro piece listed
      simp only [SqlWriting.joined, List.mem_append, List.mem_cons] at listed
      rcases listed with inside | rfl | rfl | rfl | inside
      · exact former.permitted piece inside
      · trivial
      · exact allowed
      · trivial
      · exact latter.permitted piece inside
    literals := by
      simp [SqlWriting.joined, literalOf, List.filterMap_cons, former.literals, latter.literals, Expression.predicates] }

private theorem appendPart_grouped {index : Nat} (behind : 0 < index) (text : String)
    (part : String × TableFilterConjunction) :
    appendPart true text (part, index) = "(" ++ text ++ ")" ++ " " ++ conjunctionSql part.2 ++ " " ++ part.1 := by
  have closing : ") " = ")" ++ " " := by decide
  simp only [appendPart, behind, decide_true, Bool.and_self, if_true]
  rw [closing, ← @String.append_assoc ("(" ++ text) ")" " "]

/-- With grouping, every further part joins the whole of what precedes it. -/
theorem mixed_renders {others : List (String × TableFilterConjunction)}
    {meanings : List (Predicate × TableFilterConjunction)}
    (written : List.Forall₂ (PartWritten schema) others meanings) {index : Nat} (behind : 0 < index) {text : String}
    {pieces : List Segment} {found : Expression} (renders : Renders schema .disjunction text pieces found) :
    ∃ pieces', Renders schema .disjunction ((others.zipIdx index).foldl (appendPart true) text) pieces'
      (meanings.foldl connectMeaning found) := by
  induction written generalizing index text pieces found with
  | nil => exact ⟨pieces, renders⟩
  | @cons part meaning others meanings here later ih =>
    have step := renders.grouped.joined here.renders meaning.2
      (.connect _ renders.grouped.phrase here.renders.phrase)
    rw [← here.1, ← appendPart_grouped behind] at step
    rw [here.1] at step
    exact ih (Nat.succ_pos index) step

/-- The level at which a chain of one connective grows. -/
def chainLevel : TableFilterConjunction → Level
  | .and => .conjunction
  | .or => .disjunction

theorem Phrase.start {text : List Token} {found : Expression} (phrase : Phrase .operand text found)
    (conjunction : TableFilterConjunction) : Phrase (chainLevel conjunction) text found := by
  cases conjunction with
  | and => exact .operand phrase
  | or => exact .conjunction (.operand phrase)

theorem Phrase.extend {text text' : List Token} {left right : Expression} {conjunction : TableFilterConjunction}
    (former : Phrase (chainLevel conjunction) text left) (latter : Phrase .operand text' right) :
    Phrase (chainLevel conjunction) (text ++ (connective conjunction).token :: text')
      (.connect (connective conjunction) left right) := by
  cases conjunction with
  | and => exact .and former latter
  | or => exact .or former (.operand latter)

theorem Phrase.finish {text : List Token} {found : Expression} {conjunction : TableFilterConjunction}
    (phrase : Phrase (chainLevel conjunction) text found) : Phrase .disjunction text found := by
  cases conjunction with
  | and => exact .conjunction phrase
  | or => exact phrase

theorem Renders.at {level level' : Level} {text : String} {pieces : List Segment} {found : Expression}
    (renders : Renders schema level text pieces found) (phrase : Phrase level' (readings pieces) found) :
    Renders schema level' text pieces found := { renders with phrase := phrase }

/-- Without grouping, one connective chains all parts. -/
theorem uniform_renders {conjunction : TableFilterConjunction} {others : List (String × TableFilterConjunction)}
    {meanings : List (Predicate × TableFilterConjunction)}
    (written : List.Forall₂ (PartWritten schema) others meanings) (uniform : ∀ part ∈ others, part.2 = conjunction)
    {index : Nat} {text : String} {pieces : List Segment} {found : Expression}
    (renders : Renders schema (chainLevel conjunction) text pieces found) :
    ∃ pieces', Renders schema .disjunction ((others.zipIdx index).foldl (appendPart false) text) pieces'
      (meanings.foldl connectMeaning found) := by
  induction written generalizing index text pieces found with
  | nil => exact ⟨pieces, renders.at (Phrase.finish renders.phrase)⟩
  | @cons part meaning others meanings here later ih =>
    obtain ⟨same, others⟩ := List.forall_mem_cons.mp uniform
    have step := renders.joined here.renders conjunction (Phrase.extend renders.phrase here.renders.phrase)
    have appended : appendPart false text (part, index) =
        text ++ " " ++ conjunctionSql conjunction ++ " " ++ part.1 := by
      simp [appendPart, same]
    have connected : connectMeaning found meaning = .connect (connective conjunction) found (.predicate meaning.1) := by
      rw [connectMeaning, ← here.1, same]
    rw [← appended, ← connected] at step
    exact ih others step

/-- Without grouping, at most one connective occurs behind the first part. -/
private theorem uniform_of_unmixed {first part : String × TableFilterConjunction}
    {others : List (String × TableFilterConjunction)} (unmixed : isMixed (first :: part :: others) = false) :
    ∀ other ∈ part :: others, other.2 = part.2 := by
  intro other listed
  simp only [isMixed, List.drop_succ_cons, List.drop_zero, decide_eq_false_iff_not, not_lt] at unmixed
  have occurs : other.2 ∈ ((part :: others).map Prod.snd).eraseDups :=
    List.mem_eraseDups.mpr (List.mem_map_of_mem listed)
  rw [List.map_cons, List.eraseDups_cons] at unmixed occurs
  rcases List.mem_cons.mp occurs with same | later
  · exact same
  · have positive := List.length_pos_of_mem later
    simp only [List.length_cons] at unmixed
    omega

/-- The whole clause behind WHERE: its parts joined strictly from left to right. -/
theorem joinParts_renders {first : String × TableFilterConjunction} {meaning : Predicate × TableFilterConjunction}
    {others : List (String × TableFilterConjunction)} {meanings : List (Predicate × TableFilterConjunction)}
    (here : PartWritten schema first meaning) (written : List.Forall₂ (PartWritten schema) others meanings) :
    ∃ pieces, Renders schema .disjunction (joinParts (first :: others)) pieces
      (meanings.foldl connectMeaning (.predicate meaning.1)) := by
  have joined : joinParts (first :: others) =
      others.zipIdx.foldl (appendPart (isMixed (first :: others))) first.1 := rfl
  rw [joined]
  cases written with
  | nil => exact ⟨_, here.renders.at (.conjunction (.operand here.renders.phrase))⟩
  | @cons part meaning' others meanings next later =>
    cases mixed : isMixed (first :: part :: others) with
    | true =>
      have step := here.renders.joined next.renders meaning'.2 (.connect _ here.renders.phrase next.renders.phrase)
      have appended : appendPart true first.1 (part, 0) =
          first.1 ++ " " ++ conjunctionSql meaning'.2 ++ " " ++ part.1 := by
        simp [appendPart, next.1]
      rw [← appended] at step
      exact mixed_renders later Nat.one_pos step
    | false =>
      have uniform := uniform_of_unmixed mixed
      exact uniform_renders (.cons next later) uniform (here.renders.at (Phrase.start here.renders.phrase part.2))

end Joining

end Pipa.TableFilter
