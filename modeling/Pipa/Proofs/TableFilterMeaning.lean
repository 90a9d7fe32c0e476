import Pipa.Library.Fallible
import Pipa.Proofs.TableFilterLiterals

/-! What a condition says, and that its compiled predicate is that predicate as
it is written. The compiler is written twice, over two libraries; what it does beside
trimming and reading type names is the same, so both are instances of one compiler. -/

namespace Pipa.TableFilter
open Fallible SqlLexer SqlBoolean SqlWriting

/-- What a condition says about its column. -/
def conditionPredicate (condition : TableFilterCondition) (column : TableFilterColumn) : Option Predicate :=
  let name := units column.name
  let value := condition.value
  let operand := operandLiteral column
  let compare := fun comparison => some (Predicate.compare name comparison (operand value))
  let member := fun negated => match listItems value with
    | [] => none
    | first :: others => some (Predicate.member negated name (operand first) (others.map operand))
  let substring := fun pattern => some (Predicate.like false name (units pattern) (some (units "\\")))
  match condition.operator with
  | .equal => compare .equal
  | .notEqual => compare .notEqual
  | .greater => compare .greater
  | .greaterOrEqual => compare .greaterOrEqual
  | .less => compare .less
  | .lessOrEqual => compare .lessOrEqual
  | .like => some (.like false name (units value) none)
  | .notLike => some (.like true name (units value) none)
  | .contains => substring ("%" ++ escapeLikeWildcards value ++ "%")
  | .startsWith => substring (escapeLikeWildcards value ++ "%")
  | .endsWith => substring ("%" ++ escapeLikeWildcards value)
  | .in_ => member false
  | .notIn => member true
  | .between => match splitFilterList value with
    | [lower, upper] => some (.between false name (operand lower) (operand upper))
    | _ => none
  | .isNull => some (.isNull false name)
  | .isNotNull => some (.isNull true name)

/-- A text is a predicate on a column of the schema as it is written. -/
structure Written (column : TableFilterColumn) (text : String) (found : Predicate) : Prop where
  text : units text = write (segments found)
  proper : ∀ operand ∈ literals found, ProperLiteral operand
  named : ∀ name, Segment.column name ∈ segments found → name = units column.name

/-- A text is a literal as it is written. -/
structure Encodes (text : String) (operand : Literal) : Prop where
  text : units text = literalText operand
  proper : ProperLiteral operand

theorem encodes_string (text : String) : Encodes (mysqlStringLiteral text) (.string (units text)) :=
  ⟨mysqlStringLiteral_units text, .string _⟩

theorem encodes_number {text : String} (accepted : isNumericLiteral text = true) : Encodes text (signedNumber (units text)) :=
  ⟨(signedNumber_text _).symm, isNumericLiteral_proper accepted⟩

theorem units_intercalate (text : String) (texts : List String) :
    units (String.intercalate ", " (text :: texts)) = units text ++ texts.flatMap fun other => 44 :: 32 :: units other := by
  induction texts generalizing text with
  | nil => simp
  | cons next texts ih =>
    rw [String.intercalate_cons_cons, units_append, ih, units_append]
    simp [units]

/-- A list of operands is written as their literals, separated by commas. -/
private theorem list_units {texts : List String} {operands : List Literal} (encoded : List.Forall₂ Encodes texts operands) :
    texts.flatMap (fun other => 44 :: 32 :: units other) = write (listSegments operands) := by
  induction encoded with
  | nil => rfl
  | @cons text operand texts operands here later ih =>
    rw [List.flatMap_cons, ih, here.text]
    simp [listSegments, Segment.written]

private theorem list_proper {texts : List String} {operands : List Literal} (encoded : List.Forall₂ Encodes texts operands) :
    ∀ operand ∈ operands, ProperLiteral operand := by
  induction encoded with
  | nil => simp
  | cons here _ ih => exact List.forall_mem_cons.mpr ⟨here.proper, ih⟩

section Shapes
variable {column : TableFilterColumn}

/-- The fixed texts between the parts of a predicate, as segments. -/
private theorem fixed_units : units " " = [32] ∧ units " (" = [32, 40] ∧ units ")" = [41] ∧
    units " AND " = 32 :: (units "AND" ++ [32]) ∧ units " BETWEEN " = 32 :: (units "BETWEEN" ++ [32]) ∧
    units " LIKE " = 32 :: (units "LIKE" ++ [32]) ∧
    units " ESCAPE '\\\\'" = 32 :: (units "ESCAPE" ++ 32 :: stringText (units "\\")) := by
  decide

private theorem operator_units : units "NOT LIKE" = units "NOT" ++ 32 :: units "LIKE" ∧
    units "NOT IN" = units "NOT" ++ 32 :: units "IN" ∧ units "IS NULL" = units "IS" ++ 32 :: units "NULL" ∧
    units "IS NOT NULL" = units "IS" ++ 32 :: (units "NOT" ++ 32 :: units "NULL") := by
  decide

/-- A unary operator behind its column. -/
private theorem written_null (negated : Bool) :
    Written column (quoteIdentifier column.name ++ " " ++ operatorSql (if negated then .isNotNull else .isNull))
      (.isNull negated (units column.name)) := by
  constructor
  · cases negated <;> simp [operatorSql, quoteIdentifier_units, fixed_units, operator_units, segments, notSegments,
      Segment.written]
  · simp [literals]
  · cases negated <;> simp [segments, notSegments]

private theorem written_compare (comparison : Comparison) {text : String} {operand : Literal} (encoded : Encodes text operand) :
    Written column (quoteIdentifier column.name ++ " " ++ comparison.text ++ " " ++ text)
      (.compare (units column.name) comparison operand) := by
  constructor
  · simp [quoteIdentifier_units, encoded.text, fixed_units, segments, Segment.written]
  · simpa [literals] using encoded.proper
  · simp [segments]

private theorem written_like (negated : Bool) (pattern : String) :
    Written column (quoteIdentifier column.name ++ " " ++ operatorSql (if negated then .notLike else .like) ++ " " ++
        mysqlStringLiteral pattern)
      (.like negated (units column.name) (units pattern) none) := by
  constructor
  · cases negated <;> simp [operatorSql, quoteIdentifier_units, mysqlStringLiteral_units, fixed_units, operator_units,
      segments, notSegments, escapeSegments, Segment.written, literalText]
  · simpa [literals] using ProperLiteral.string _
  · cases negated <;> simp [segments, notSegments, escapeSegments]

private theorem written_substring (pattern : String) :
    Written column (quoteIdentifier column.name ++ " LIKE " ++ mysqlStringLiteral pattern ++ " ESCAPE '\\\\'")
      (.like false (units column.name) (units pattern) (some (units "\\"))) := by
  constructor
  · simp [quoteIdentifier_units, mysqlStringLiteral_units, fixed_units, segments, notSegments, escapeSegments,
      Segment.written, literalText]
  · simp only [literals, List.forall_mem_cons]
    exact ⟨.string _, by simpa using ProperLiteral.string _⟩
  · simp [segments, notSegments, escapeSegments]

private theorem written_between {lower upper : String} {low high : Literal} (encoded : Encodes lower low)
    (encoded' : Encodes upper high) :
    Written column (quoteIdentifier column.name ++ " BETWEEN " ++ lower ++ " AND " ++ upper)
      (.between false (units column.name) low high) := by
  constructor
  · simp [quoteIdentifier_units, encoded.text, encoded'.text, fixed_units, segments, notSegments, Segment.written]
  · simpa [literals] using ⟨encoded.proper, encoded'.proper⟩
  · simp [segments, notSegments]

private theorem written_member (negated : Bool) {texts : List String} {operand : Literal} {operands : List Literal}
    (encoded : List.Forall₂ Encodes texts (operand :: operands)) :
    Written column (quoteIdentifier column.name ++ " " ++ operatorSql (if negated then .notIn else .in_) ++ " (" ++
        String.intercalate ", " texts ++ ")")
      (.member negated (units column.name) operand operands) := by
  have proper := list_proper encoded
  cases encoded with
  | @cons text _ texts _ here later =>
    constructor
    · cases negated <;> simp [operatorSql, quoteIdentifier_units, units_intercalate, here.text,
        list_units later, fixed_units, operator_units, segments, notSegments, Segment.written]
    · simpa [literals] using proper
    · cases negated <;> simp [segments, notSegments, listSegments]

end Shapes

/-! ### The compiler over its libraries -/

/-- What the compiler takes from its libraries. -/
structure Dialect where
  trim : String → String
  baseType : String → String

/-- The backend's libraries. -/
def backend : Dialect := ⟨Text.trim, filterBaseType⟩

namespace Dialect
variable (dialect : Dialect) (column : TableFilterColumn)

/-- An operand as it is written. -/
def literal (value : String) : Except String String :=
  if numericFilterBaseTypes.contains (dialect.baseType column.columnType) then
    if isNumericLiteral (dialect.trim value) then .ok (dialect.trim value) else .error (column.name ++ " 需要数值")
  else if temporalFilterBaseTypes.contains (dialect.baseType column.columnType) then
    if dialect.trim value = "" then .error (column.name ++ " 需要时间值") else .ok (mysqlStringLiteral (dialect.trim value))
  else .ok (mysqlStringLiteral value)

/-- The items of a list operand: trimmed, and without the empty ones. -/
def items (value : String) : List String := ((splitFilterList value).map dialect.trim).filter (· != "")

/-- A condition as it is written. -/
def predicate (condition : TableFilterCondition) : Except String String :=
  let identifier := quoteIdentifier column.name
  let operator := condition.operator
  if isUnary operator then .ok (identifier ++ " " ++ operatorSql operator)
  else match operator with
    | .in_ | .notIn =>
      if dialect.items condition.value = [] then .error (column.name ++ " 的 " ++ operatorSql operator ++ " 需要至少一个值")
      else do
        let literals ← (dialect.items condition.value).mapM (dialect.literal column)
        return identifier ++ " " ++ operatorSql operator ++ " (" ++ String.intercalate ", " literals ++ ")"
    | .between =>
      match splitFilterList condition.value with
      | [first, second] =>
        if dialect.trim first = "" ∨ dialect.trim second = "" then .error (column.name ++ " 的 BETWEEN 需要用逗号分隔的两个值")
        else do
          let lower ← dialect.literal column first
          let upper ← dialect.literal column second
          return identifier ++ " BETWEEN " ++ lower ++ " AND " ++ upper
      | _ => .error (column.name ++ " 的 BETWEEN 需要用逗号分隔的两个值")
    | .contains | .startsWith | .endsWith =>
      if condition.value = "" then .error (column.name ++ " 需要筛选值")
      else
        let escaped := escapeLikeWildcards condition.value
        let pattern := match operator with
          | .contains => "%" ++ escaped ++ "%"
          | .startsWith => escaped ++ "%"
          | _ => "%" ++ escaped
        .ok (identifier ++ " LIKE " ++ mysqlStringLiteral pattern ++ " ESCAPE '\\\\'")
    | .like | .notLike =>
      if condition.value = "" then .error (column.name ++ " 需要筛选值")
      else .ok (identifier ++ " " ++ operatorSql operator ++ " " ++ mysqlStringLiteral condition.value)
    | _ => do
      let literal ← dialect.literal column condition.value
      return identifier ++ " " ++ operatorSql operator ++ " " ++ literal

/-- What an operand stands for, if it is accepted. -/
def operand (value : String) : Option Literal :=
  if numericFilterBaseTypes.contains (dialect.baseType column.columnType) then
    if isNumericLiteral (dialect.trim value) then some (signedNumber (units (dialect.trim value))) else none
  else if temporalFilterBaseTypes.contains (dialect.baseType column.columnType) then
    if dialect.trim value = "" then none else some (.string (units (dialect.trim value)))
  else some (.string (units value))

/-- What a condition says about its column, if it is accepted. -/
def meaning (condition : TableFilterCondition) : Option Predicate :=
  let name := units column.name
  let value := condition.value
  let compare := fun comparison => (dialect.operand column value).map (Predicate.compare name comparison)
  let member := fun negated => match (dialect.items value).mapM (dialect.operand column) with
    | some (first :: others) => some (Predicate.member negated name first others)
    | _ => none
  let like := fun negated => if value = "" then none else some (Predicate.like negated name (units value) none)
  let substring := fun pattern =>
    if value = "" then none else some (Predicate.like false name (units pattern) (some (units "\\")))
  match condition.operator with
  | .equal => compare .equal
  | .notEqual => compare .notEqual
  | .greater => compare .greater
  | .greaterOrEqual => compare .greaterOrEqual
  | .less => compare .less
  | .lessOrEqual => compare .lessOrEqual
  | .like => like false
  | .notLike => like true
  | .contains => substring ("%" ++ escapeLikeWildcards value ++ "%")
  | .startsWith => substring (escapeLikeWildcards value ++ "%")
  | .endsWith => substring ("%" ++ escapeLikeWildcards value)
  | .in_ => member false
  | .notIn => member true
  | .between => match splitFilterList value with
    | [first, second] =>
      if dialect.trim first = "" ∨ dialect.trim second = "" then none
      else do
        let lower ← dialect.operand column first
        let upper ← dialect.operand column second
        return .between false name lower upper
    | _ => none
  | .isNull => some (.isNull false name)
  | .isNotNull => some (.isNull true name)

theorem literal_operand (value : String) : Matches Encodes (dialect.literal column value) (dialect.operand column value) := by
  unfold literal operand
  split
  · split
    next accepted => exact .both (encodes_number accepted)
    next => exact .neither _
  · split
    · split
      · exact .neither _
      · exact .both (encodes_string _)
    · exact .both (encodes_string _)

section Meaning
variable {column} {condition : TableFilterCondition}

private theorem meaning_compare {operator : TableFilterOperator} (comparison : Comparison)
    (spelled : operatorSql operator = comparison.text) :
    Matches (Written column)
      (do
        let literal ← dialect.literal column condition.value
        return quoteIdentifier column.name ++ " " ++ operatorSql operator ++ " " ++ literal)
      ((dialect.operand column condition.value).map (Predicate.compare (units column.name) comparison)) := by
  rw [spelled, Option.map_eq_bind]
  exact (dialect.literal_operand column condition.value).bind fun _ _ encoded => .both (written_compare comparison encoded)

private theorem meaning_member (negated : Bool) :
    Matches (Written column)
      (if dialect.items condition.value = [] then
        .error (column.name ++ " 的 " ++ operatorSql (if negated then .notIn else .in_) ++ " 需要至少一个值")
      else do
        let literals ← (dialect.items condition.value).mapM (dialect.literal column)
        return quoteIdentifier column.name ++ " " ++ operatorSql (if negated then .notIn else .in_) ++ " (" ++
          String.intercalate ", " literals ++ ")")
      (match (dialect.items condition.value).mapM (dialect.operand column) with
        | some (first :: others) => some (Predicate.member negated (units column.name) first others)
        | _ => none) := by
  by_cases empty : dialect.items condition.value = []
  · rw [if_pos empty, empty]
    exact .neither _
  · rw [if_neg empty]
    have read := Matches.mapM fun item (_ : item ∈ dialect.items condition.value) => dialect.literal_operand column item
    cases operands : (dialect.items condition.value).mapM (dialect.operand column) with
    | none =>
      rw [operands] at read
      generalize (dialect.items condition.value).mapM (dialect.literal column) = literals at read ⊢
      cases read with
      | neither error => exact .neither error
    | some found =>
      have every := mapM_some operands
      rw [operands] at read
      generalize (dialect.items condition.value).mapM (dialect.literal column) = literals at read ⊢
      cases read with
      | both encoded =>
        cases found with
        | nil => exact absurd (List.forall₂_nil_right_iff.mp every) empty
        | cons first others => exact .both (written_member negated encoded)

private theorem meaning_between :
    Matches (Written column)
      (match splitFilterList condition.value with
        | [first, second] =>
          if dialect.trim first = "" ∨ dialect.trim second = "" then .error (column.name ++ " 的 BETWEEN 需要用逗号分隔的两个值")
          else do
            let lower ← dialect.literal column first
            let upper ← dialect.literal column second
            return quoteIdentifier column.name ++ " BETWEEN " ++ lower ++ " AND " ++ upper
        | _ => .error (column.name ++ " 的 BETWEEN 需要用逗号分隔的两个值"))
      (match splitFilterList condition.value with
        | [first, second] =>
          if dialect.trim first = "" ∨ dialect.trim second = "" then none
          else do
            let lower ← dialect.operand column first
            let upper ← dialect.operand column second
            return .between false (units column.name) lower upper
        | _ => none) := by
  split
  next first second _ =>
    split
    · exact .neither _
    · exact (dialect.literal_operand column first).bind fun _ _ lower =>
        (dialect.literal_operand column second).bind fun _ _ upper => .both (written_between lower upper)
  next => exact .neither _

private theorem meaning_pattern {text : String} {found : Predicate} (written : Written column text found) :
    Matches (Written column) (if condition.value = "" then .error (column.name ++ " 需要筛选值") else .ok text)
      (if condition.value = "" then none else some found) := by
  split
  · exact .neither _
  · exact .both written

end Meaning

/-- A condition is accepted with what it says, as that is written. -/
theorem predicate_meaning (condition : TableFilterCondition) :
    Matches (Written column) (dialect.predicate column condition) (dialect.meaning column condition) := by
  unfold predicate meaning
  cases operated : condition.operator with
  | equal => exact meaning_compare dialect .equal rfl
  | notEqual => exact meaning_compare dialect .notEqual rfl
  | greater => exact meaning_compare dialect .greater rfl
  | greaterOrEqual => exact meaning_compare dialect .greaterOrEqual rfl
  | less => exact meaning_compare dialect .less rfl
  | lessOrEqual => exact meaning_compare dialect .lessOrEqual rfl
  | like => exact meaning_pattern (written_like false condition.value)
  | notLike => exact meaning_pattern (written_like true condition.value)
  | contains => exact meaning_pattern (written_substring _)
  | startsWith => exact meaning_pattern (written_substring _)
  | endsWith => exact meaning_pattern (written_substring _)
  | in_ => exact meaning_member dialect false
  | notIn => exact meaning_member dialect true
  | between => exact meaning_between dialect
  | isNull => exact .both (written_null false)
  | isNotNull => exact .both (written_null true)

end Dialect

/-! ### The backend's compiler -/

theorem filterPredicate_backend (condition : TableFilterCondition) (column : TableFilterColumn) :
    filterPredicate condition column = backend.predicate column condition := by
  unfold filterPredicate Dialect.predicate
  cases condition.operator <;> rfl

theorem operand_backend {column : TableFilterColumn} {value : String} {operand : Literal}
    (read : backend.operand column value = some operand) : operandLiteral column value = operand := by
  unfold Dialect.operand at read
  unfold operandLiteral
  split at read
  next numeric =>
    have accepted := Option.ite_none_right_eq_some.mp read
    exact (if_pos numeric).trans (Option.some.inj accepted.2)
  next numeric =>
    refine (if_neg numeric).trans ?_
    split at read
    next temporal =>
      have accepted := Option.ite_none_left_eq_some.mp read
      exact (if_pos temporal).trans (Option.some.inj accepted.2)
    next temporal => exact (if_neg temporal).trans (Option.some.inj read)

theorem conditionPredicate_backend {condition : TableFilterCondition} {column : TableFilterColumn} {found : Predicate}
    (meant : backend.meaning column condition = some found) : conditionPredicate condition column = some found := by
  have compared {comparison : Comparison}
      (meant : (backend.operand column condition.value).map (Predicate.compare (units column.name) comparison) = some found) :
      some (Predicate.compare (units column.name) comparison (operandLiteral column condition.value)) = some found := by
    obtain ⟨operand, read, rfl⟩ := Option.map_eq_some_iff.mp meant
    rw [operand_backend read]
  have listed {negated : Bool}
      (meant : (match (backend.items condition.value).mapM (backend.operand column) with
        | some (first :: others) => some (Predicate.member negated (units column.name) first others)
        | _ => none) = some found) :
      (match listItems condition.value with
        | [] => none
        | first :: others => some (Predicate.member negated (units column.name) (operandLiteral column first)
            (others.map (operandLiteral column)))) = some found := by
    split at meant
    next first others read =>
      have every := mapM_some read
      have same : listItems condition.value = backend.items condition.value := rfl
      rw [same]
      cases items : backend.items condition.value with
      | nil =>
        rw [items] at every
        cases every
      | cons item rest =>
        rw [items] at every
        cases every with
        | cons here later =>
          have others_same : rest.map (operandLiteral column) = others := by
            clear meant read items same
            induction later with
            | nil => rfl
            | cons here _ ih => rw [List.map_cons, operand_backend here, ih]
          dsimp only
          rw [operand_backend here, others_same]
          exact meant
    next => cases meant
  have patterned {pattern : Predicate} (meant : (if condition.value = "" then none else some pattern) = some found) :
      some pattern = some found := (Option.ite_none_left_eq_some.mp meant).2
  unfold Dialect.meaning at meant
  unfold conditionPredicate
  cases operated : condition.operator <;> rw [operated] at meant
  case in_ | notIn => exact listed meant
  case like | notLike | contains | startsWith | endsWith => exact patterned meant
  case isNull | isNotNull => exact meant
  case between =>
    dsimp only at meant ⊢
    split at meant
    next first second bounds =>
      obtain ⟨-, read⟩ := Option.ite_none_left_eq_some.mp meant
      obtain ⟨lower, low, rest⟩ := Option.bind_eq_some_iff.mp read
      obtain ⟨upper, high, same⟩ := Option.bind_eq_some_iff.mp rest
      rw [operand_backend low, operand_backend high]
      exact same
    next => cases meant
  all_goals exact compared meant

/-- An accepted condition is written as what it says about its column. -/
theorem filterPredicate_written {condition : TableFilterCondition} {column : TableFilterColumn} {text : String}
    (accepted : filterPredicate condition column = .ok text) :
    ∃ found, conditionPredicate condition column = some found ∧ Written column text found := by
  rw [filterPredicate_backend] at accepted
  obtain ⟨found, meant, written⟩ := (backend.predicate_meaning column condition).of_ok accepted
  exact ⟨found, conditionPredicate_backend meant, written⟩

end Pipa.TableFilter
