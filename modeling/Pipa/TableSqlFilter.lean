import Pipa.ColumnPatterns
import Pipa.Library.OrderedMap
import Pipa.TableFilter

/-! The quick filter's pre-check in the frontend: the clause, the errors and the count
that are shown while the user types. What it shares with the backend word for word (the
operators and their texts, the splitting of lists, the wildcards, the joining of parts) is
the backend's. -/

namespace Pipa.TableSql
open Text ColumnPatterns TableFilter

def tableFilterOperators : List TableFilterOperator :=
  [.equal, .notEqual, .greater, .greaterOrEqual, .less, .lessOrEqual, .like, .notLike, .contains, .startsWith,
    .endsWith, .in_, .notIn, .between, .isNull, .isNotNull]

/-- ECMAScript's lower case, as far as it is ASCII; every other character stays outside
of ASCII. -/
def lowercase (text : List Char) : List Char :=
  text.flatMap fun c => if c = '\u0130' then ['i', '\u0307'] else if c = '\u212A' then ['k'] else [c.toLower]

def filterBaseType (databaseType : String) : String :=
  String.ofList ((lowercase (jsTrim databaseType).toList).takeWhile Char.isLower)

def isFilterableColumnType (databaseType : String) : Bool := !unfilterableBaseTypes.contains (filterBaseType databaseType)

def filterOperatorsForColumnType (databaseType : String) : List TableFilterOperator :=
  let baseType := filterBaseType databaseType
  if !isFilterableColumnType databaseType then []
  else if numericFilterBaseTypes.contains baseType || temporalFilterBaseTypes.contains baseType then
    orderedFilterOperators
  else if baseType = "json" ∨ baseType = "enum" ∨ baseType = "set" then
    if baseType = "json" then equalityFilterOperators else textFilterOperators
  else textFilterOperators

/-- `[+-]?(?:\d+(?:\.\d*)?|\.\d+)(?:e[+-]?\d+)?` in any case. -/
def scientific : Regex :=
  .seq (number { space := isJsWhitespace, digit := Char.isDigit, word := isFoldedWord })
    (.optional (.seq (.char (folds 'e')) (.seq (.optional (.char fun c => c == '+' || c == '-')) (.plus (.char Char.isDigit)))))

def filterNumber : Regex := .seq .start (.seq scientific .finish)

/-- Encodes one filter operand as a literal that matches its column type. -/
def filterValueLiteral (value : String) (column : TableFilterColumn) : Except String String :=
  let baseType := filterBaseType column.columnType
  let trimmed := jsTrim value
  if numericFilterBaseTypes.contains baseType then
    if filterNumber.isMatch trimmed.toList then .ok trimmed else .error (column.name ++ " 需要数值")
  else if temporalFilterBaseTypes.contains baseType then
    if trimmed = "" then .error (column.name ++ " 需要时间值") else .ok (mysqlStringLiteral trimmed)
  else .ok (mysqlStringLiteral value)

/-- Builds the predicate of a single enabled condition. -/
def filterPredicate (condition : TableFilterCondition) (column : TableFilterColumn) : Except String String :=
  let identifier := quoteIdentifier column.name
  let operator := condition.operator
  if isUnary operator then .ok (identifier ++ " " ++ operatorSql operator)
  else match operator with
    | .in_ | .notIn =>
      let items := ((splitFilterList condition.value).map jsTrim).filter (· != "")
      if items = [] then .error (column.name ++ " 的 " ++ operatorSql operator ++ " 需要至少一个值")
      else do
        let literals ← items.mapM fun item => filterValueLiteral item column
        return identifier ++ " " ++ operatorSql operator ++ " (" ++ String.intercalate ", " literals ++ ")"
    | .between =>
      match splitFilterList condition.value with
      | [first, second] =>
        if jsTrim first = "" ∨ jsTrim second = "" then
          .error (column.name ++ " 的 BETWEEN 需要用逗号分隔的两个值")
        else do
          let lower ← filterValueLiteral first column
          let upper ← filterValueLiteral second column
          return identifier ++ " BETWEEN " ++ lower ++ " AND " ++ upper
      | _ => .error (column.name ++ " 的 BETWEEN 需要用逗号分隔的两个值")
    | .contains | .startsWith | .endsWith =>
      if condition.value = "" then .error (column.name ++ " 需要筛选值")
      else
        let escaped := escapeLikeWildcards condition.value
        let pattern := match operator with
          | .contains => "%" ++ escaped ++ "%"
          | .startsWith => escaped ++ "%"
          | _ => "%" ++ escaped
        .ok (identifier ++ " LIKE " ++ mysqlStringLiteral pattern ++ " ESCAPE '\\\\'")
    | .like | .notLike =>
      if condition.value = "" then .error (column.name ++ " 需要筛选值")
      else .ok (identifier ++ " " ++ operatorSql operator ++ " " ++ mysqlStringLiteral condition.value)
    | _ => do
      let literal ← filterValueLiteral condition.value column
      return identifier ++ " " ++ operatorSql operator ++ " " ++ literal

/-- A half-written row is incomplete rather than wrong, so it is ignored without an error. -/
def isIgnored (condition : TableFilterCondition) : Bool :=
  let incomplete := !isUnary condition.operator && (jsTrim condition.value).isEmpty
  !condition.enabled || condition.columnName.isEmpty || incomplete

/-- The loop body of `buildTableFilterClause`. Columns are looked up in a map from their
names, where the last one counts. -/
def compileCondition (schema : List TableFilterColumn) (compilation : Compilation)
    (condition : TableFilterCondition) : Compilation :=
  let fail := fun error => { compilation with errors := compilation.errors ++ [error] }
  if isIgnored condition then compilation
  else match OrderedMap.lastOf (schema.map fun column => (column.name, column)) condition.columnName with
    | none => fail ("字段 " ++ condition.columnName ++ " 不在当前表结构中")
    | some column =>
      if !tableFilterOperators.contains condition.operator then fail ("字段 " ++ column.name ++ " 使用了不支持的比较符")
      else if !(filterOperatorsForColumnType column.columnType).contains condition.operator then
        fail (column.name ++ "（" ++ column.columnType ++ "）不支持该比较符")
      else match filterPredicate condition column with
        | .ok predicate => { compilation with parts := compilation.parts ++ [(predicate, condition.conjunction)] }
        | .error error => fail error

/-- Pre-checks the quick filter's conditions and previews the clause they describe. -/
def buildTableFilterClause (conditions : List TableFilterCondition) (schema : List TableFilterColumn) :
    TableFilterClause :=
  let ⟨errors, parts⟩ := conditions.foldl (compileCondition schema) ⟨[], []⟩
  if !errors.isEmpty || parts.isEmpty then { whereClause := "", errors := errors.eraseDups, activeCount := 0 }
  else { whereClause := " WHERE " ++ joinParts parts, errors := [], activeCount := parts.length }

end Pipa.TableSql
