import Pipa.Library.SqlLike
import Pipa.Proofs.TableFilterMeaning
import Pipa.Proofs.TableSqlFilterNumbers

/-! What the scanner of numeric operands accepts is a regular language, and an operand that
a compiled filter leaves unquoted is one numeral behind an optional sign. -/

namespace Pipa.TableFilter
open ColumnPatterns Fallible Regex SqlLexer SqlBoolean SqlWriting TableSql

def isExponentMark (c : Char) : Bool := c == 'e' || c == 'E'

/-- `[+-]?(\d+(\.\d*)?|\.\d+)([eE][+-]?\d+)?` over ASCII digits. -/
def numericGrammar : Regex :=
  .seq (.optional (.char isSign))
    (.seq mantissa (.optional (.seq (.char isExponentMark) (.seq (.optional (.char isSign)) (.plus (.char Char.isDigit))))))

theorem numericGrammar_unsigned : numericGrammar = .seq (.optional (.char isSign)) unsignedNumber := by
  have marks : folds 'e' = isExponentMark := by
    funext c
    rw [Bool.eq_iff_iff, folds_e, TableSql.isMark, Bool.not_eq_false']
    rfl
  rw [numericGrammar, unsignedNumber, marks]

theorem spells_numericGrammar (value : String) : Spells numericGrammar value.toList ↔ isNumericLiteral value = true := by
  rw [numericGrammar_unsigned, spells_signed unsignedNumber_unsigned, spells_unsigned, isNumericLiteral_parts]

/-- A sign, or none, and a numeral. -/
def SignedNumeral (sign : Option Nat) (numeral : List Nat) : Prop := (∀ unit ∈ sign, unit = 43 ∨ unit = 45) ∧ IsNumeral numeral

theorem operand_kind {operand : Literal} (proper : ProperLiteral operand) :
    (∃ content, operand = .string content) ∨ ∃ sign numeral, operand = .number sign numeral ∧ SignedNumeral sign numeral := by
  cases proper with
  | string content => exact Or.inl ⟨content, rfl⟩
  | @number sign numeral signed isNumeral => exact Or.inr ⟨sign, numeral, rfl, signed, isNumeral⟩

/-- An operand is quoted, or it is an accepted number. -/
theorem filterValueLiteral_kind {value : String} {column : TableFilterColumn} {text : String}
    (accepted : filterValueLiteral value column = .ok text) :
    (∃ content, text = mysqlStringLiteral content) ∨ isNumericLiteral text = true := by
  rw [filterValueLiteral] at accepted
  split at accepted
  · split at accepted
    next numeric =>
      obtain rfl := Except.ok.inj accepted
      exact Or.inr numeric
    next => cases accepted
  · split at accepted
    · split at accepted
      · cases accepted
      · exact Or.inl ⟨_, (Except.ok.inj accepted).symm⟩
    · exact Or.inl ⟨_, (Except.ok.inj accepted).symm⟩

/-- An accepted number is one numeral token behind its sign. -/
theorem isNumericLiteral_tokens {text : String} (accepted : isNumericLiteral text = true) :
    ∃ sign numeral, SignedNumeral sign numeral ∧ units text = sign.toList ++ numeral ∧
      ∀ rules : Rules, rules.barePoint = true → tokens rules (units text) = some (sign.toList.map .symbol ++ [.number numeral]) := by
  obtain ⟨sign, same, signed, written⟩ := stripSign_units text.toList
  have encoded := encodes_number accepted
  rw [units, same] at encoded
  refine ⟨sign, _, ⟨signed, ?_⟩, written, fun rules bare => ?_⟩
  · obtain ⟨content, quoted⟩ | ⟨sign', numeral, number, -, isNumeral⟩ := operand_kind encoded.proper
    · cases quoted
    · obtain ⟨-, rfl⟩ := Literal.number.inj number
      exact isNumeral
  · have reads := @reads_solid rules bare (.literal _) encoded.proper rfl
    rw [Segment.written, Segment.read, ← encoded.text] at reads
    rw [reads.whole]
    cases sign <;> rfl

/-- A compiled predicate reads as its segments, and each of its operands is a quoted string or
a signed numeral. -/
theorem filterPredicate_operands {condition : TableFilterCondition} {column : TableFilterColumn} {text : String}
    (accepted : filterPredicate condition column = .ok text) :
    ∃ found, conditionPredicate condition column = some found ∧ units text = write (segments found) ∧
      (∀ rules : Rules, rules.barePoint = true → tokens rules (units text) = some (readings (segments found))) ∧
      ∀ operand ∈ literals found, (∃ content, operand = .string content) ∨
        ∃ sign numeral, operand = .number sign numeral ∧ SignedNumeral sign numeral := by
  obtain ⟨found, meant, written⟩ := filterPredicate_written accepted
  refine ⟨found, meant, written.text, fun rules bare => ?_, fun operand listed => operand_kind (written.proper operand listed)⟩
  rw [written.text]
  exact (reads_write bare (spaced_segments written.proper)).whole

/-- The scanner accepts exactly the words of the grammar, and what a filter leaves unquoted is
one such number: a numeral behind an optional sign. -/
theorem isNumericLiteral_grammar :
    (∀ value : String, isNumericLiteral value = true ↔ Spells numericGrammar value.toList) ∧
    (∀ (value : String) (column : TableFilterColumn) (text : String), filterValueLiteral value column = .ok text →
      (∃ content, text = mysqlStringLiteral content) ∨
      Spells numericGrammar text.toList ∧ ∃ sign numeral, SignedNumeral sign numeral ∧ units text = sign.toList ++ numeral ∧
        ∀ rules : Rules, rules.barePoint = true →
          tokens rules (units text) = some (sign.toList.map .symbol ++ [.number numeral])) ∧
    ∀ (condition : TableFilterCondition) (column : TableFilterColumn) (text : String),
      filterPredicate condition column = .ok text →
      ∃ found, conditionPredicate condition column = some found ∧ units text = write (segments found) ∧
        (∀ rules : Rules, rules.barePoint = true → tokens rules (units text) = some (readings (segments found))) ∧
        ∀ operand ∈ literals found, (∃ content, operand = .string content) ∨
          ∃ sign numeral, operand = .number sign numeral ∧ SignedNumeral sign numeral := by
  refine ⟨fun value => (spells_numericGrammar value).symm, fun value column text accepted => ?_,
    fun condition column text => filterPredicate_operands⟩
  apply (filterValueLiteral_kind accepted).imp_right
  intro numeric
  exact ⟨(spells_numericGrammar text).mpr numeric, isNumericLiteral_tokens numeric⟩

theorem isNumericLiteral_grammar_exponent :
    Spells numericGrammar "-.5e+2".toList ∧ ¬ Spells numericGrammar "1e+".toList ∧
    ∃ sign numeral, SignedNumeral sign numeral ∧ units "-.5e+2" = sign.toList ++ numeral ∧
      ∀ rules : Rules, rules.barePoint = true →
        tokens rules (units "-.5e+2") = some (sign.toList.map .symbol ++ [.number numeral]) := by
  have grammar := isNumericLiteral_grammar
  refine ⟨(grammar.1 _).mp (by decide), fun spells => absurd ((grammar.1 _).mpr spells) (by decide), ?_⟩
  have operand := grammar.2.1 " -.5e+2" ⟨"price", "decimal(10,2)"⟩ "-.5e+2" (by decide)
  obtain ⟨content, quoted⟩ | ⟨-, number⟩ := operand
  · have first := congrArg (fun text => (units text).head?) quoted
    have bare : (units "-.5e+2").head? = some 45 := by decide
    rw [bare, mysqlStringLiteral_units] at first
    cases first
  · exact number

end Pipa.TableFilter

/-! What the substring operators ask of a subject. The value goes through two layers of
escaping, the wildcards of LIKE and the string literal, and the server undoes both. -/

namespace Pipa.TableFilter
open SqlLexer SqlBoolean SqlWriting

/-- The operators that look for their value in a subject. -/
inductive Substring : TableFilterOperator → Prop
  | contains : Substring .contains
  | startsWith : Substring .startsWith
  | endsWith : Substring .endsWith

/-- Where an operator looks for its value. -/
def Holds : TableFilterOperator → List Nat → List Nat → Prop
  | .startsWith, value, subject => value <+: subject
  | .endsWith, value, subject => value <:+ subject
  | _, value, subject => value <:+: subject

theorem escapeLikeWildcards_units (value : String) : units (escapeLikeWildcards value) = SqlLike.escaped 92 (units value) := by
  rw [escapeLikeWildcards, units, String.toList_ofList, units]
  induction value.toList with
  | nil => rfl
  | cons c text ih =>
    have code (d : Char) : (c = d) = (c.toNat = d.toNat) := propext Char.toNat_inj.symm
    have here : (if c = '%' ∨ c = '_' ∨ c = '\\' then ['\\', c] else [c]).map Char.toNat =
        if c.toNat = 37 ∨ c.toNat = 95 ∨ c.toNat = 92 then [92, c.toNat] else [c.toNat] := by
      rw [apply_ite (List.map Char.toNat)]
      simp only [code]
      rfl
    rw [List.flatMap_cons, List.map_append, ih, here]
    rfl

section Predicate
variable {column : TableFilterColumn}

/-- A written predicate is one predicate of the server. -/
theorem Written.parsed {text : String} {found : Predicate} (written : Written column text found) :
    (tokens ⟨true, true⟩ (units text)).bind predicate = some (found, []) := by
  have spaced := spaced_segments written.proper
  have read := (predicated_segments written.proper).2 [] (Or.inl rfl)
  rw [List.append_nil] at read
  rw [written.text, tokens_write rfl spaced]
  exact read

/-- What an operator makes of its value is matched where it looks for the value. -/
theorem conditionPredicate_substring {condition : TableFilterCondition} (substring : Substring condition.operator) :
    ∃ pattern, conditionPredicate condition column = some (.like false (units column.name) pattern (some [92])) ∧
      ∀ subject, SqlLike.like pattern (some [92]) subject = true ↔
        Holds condition.operator (units condition.value) subject := by
  rw [conditionPredicate]
  generalize condition.operator = operator at substring
  cases substring with
  | contains =>
    refine ⟨_, rfl, fun subject => ?_⟩
    rw [units_append, units_append, escapeLikeWildcards_units]
    exact SqlLike.like_infix (by decide) _ subject
  | startsWith =>
    refine ⟨_, rfl, fun subject => ?_⟩
    rw [units_append, escapeLikeWildcards_units]
    exact SqlLike.like_prefix (by decide) _ subject
  | endsWith =>
    refine ⟨_, rfl, fun subject => ?_⟩
    rw [units_append, escapeLikeWildcards_units]
    exact SqlLike.like_suffix (by decide) _ subject

end Predicate

theorem filterPredicate_accepts {condition : TableFilterCondition} (column : TableFilterColumn)
    (substring : Substring condition.operator) (nonempty : condition.value ≠ "") :
    ∃ text, filterPredicate condition column = .ok text := by
  rw [filterPredicate]
  generalize condition.operator = operator at substring
  cases substring <;> exact ⟨_, if_neg nonempty⟩

/-- The predicate of a substring operator reads as LIKE with a pattern that matches exactly
the subjects that hold the value, whatever wildcards, quotes and backslashes it has. -/
theorem filterPredicate_matches (condition : TableFilterCondition) (column : TableFilterColumn)
    (substring : Substring condition.operator) (nonempty : condition.value ≠ "") :
    ∃ text pattern escape, filterPredicate condition column = .ok text ∧
      (tokens ⟨true, true⟩ (units text)).bind predicate = some (.like false (units column.name) pattern (some escape), []) ∧
      ∀ subject, SqlLike.like pattern (some escape) subject = true ↔
        Holds condition.operator (units condition.value) subject := by
  obtain ⟨text, accepted⟩ := filterPredicate_accepts column substring nonempty
  obtain ⟨found, meant, written⟩ := filterPredicate_written accepted
  obtain ⟨pattern, same, matches_⟩ := @conditionPredicate_substring column condition substring
  obtain rfl := Option.some.inj (meant.symm.trans same)
  exact ⟨text, pattern, [92], accepted, written.parsed, matches_⟩

theorem filterPredicate_matches_wildcards :
    ∃ text pattern escape, filterPredicate ⟨"name", .contains, "50%_'\\", .and, true⟩ ⟨"name", "varchar(64)"⟩ = .ok text ∧
      (tokens ⟨true, true⟩ (units text)).bind predicate = some (.like false (units "name") pattern (some escape), []) ∧
      ∀ subject, SqlLike.like pattern (some escape) subject = true ↔ Holds .contains (units "50%_'\\") subject :=
  filterPredicate_matches ⟨"name", .contains, "50%_'\\", .and, true⟩ ⟨"name", "varchar(64)"⟩ .contains (by decide)

end Pipa.TableFilter
