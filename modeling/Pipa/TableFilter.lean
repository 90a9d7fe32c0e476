import Pipa.Text

/-! The quick filter of the core crate: draft conditions against a table's columns,
compiled into one `WHERE` clause. -/

namespace Pipa

inductive TableFilterOperator where
  | equal | notEqual | greater | greaterOrEqual | less | lessOrEqual
  | like | notLike | contains | startsWith | endsWith
  | in_ | notIn | between | isNull | isNotNull
deriving DecidableEq, Repr

inductive TableFilterConjunction where
  | and | or
deriving DecidableEq, Repr, Inhabited

structure TableFilterCondition where
  columnName : String
  operator : TableFilterOperator
  /-- Untrusted user text, ignored for unary operators. -/
  value : String
  /-- Joins this condition to the preceding one. -/
  conjunction : TableFilterConjunction
  enabled : Bool
deriving DecidableEq, Repr

structure TableFilterColumn where
  name : String
  columnType : String
deriving DecidableEq, Repr

structure TableFilterClause where
  /-- Begins with ` WHERE`, or is empty. -/
  whereClause : String
  errors : List String
  activeCount : Nat
deriving DecidableEq, Repr

namespace TableFilter

def numericFilterBaseTypes : List String :=
  ["tinyint", "smallint", "mediumint", "int", "integer", "bigint", "decimal", "numeric", "float", "double", "real",
    "year", "bit"]

def temporalFilterBaseTypes : List String := ["date", "time", "datetime", "timestamp"]

def unfilterableBaseTypes : List String :=
  ["geometry", "point", "linestring", "polygon", "multipoint", "multilinestring", "multipolygon",
    "geometrycollection", "tinyblob", "blob", "mediumblob", "longblob", "binary", "varbinary"]

def orderedFilterOperators : List TableFilterOperator :=
  [.equal, .notEqual, .greater, .greaterOrEqual, .less, .lessOrEqual, .between, .in_, .notIn, .isNull, .isNotNull]

def textFilterOperators : List TableFilterOperator :=
  [.equal, .notEqual, .contains, .startsWith, .endsWith, .like, .notLike, .in_, .notIn, .isNull, .isNotNull]

def equalityFilterOperators : List TableFilterOperator := [.equal, .notEqual, .in_, .notIn, .isNull, .isNotNull]

def operatorSql : TableFilterOperator → String
  | .equal => "="
  | .notEqual => "!="
  | .greater => ">"
  | .greaterOrEqual => ">="
  | .less => "<"
  | .lessOrEqual => "<="
  | .like => "LIKE"
  | .notLike => "NOT LIKE"
  | .contains => "CONTAINS"
  | .startsWith => "STARTS_WITH"
  | .endsWith => "ENDS_WITH"
  | .in_ => "IN"
  | .notIn => "NOT IN"
  | .between => "BETWEEN"
  | .isNull => "IS NULL"
  | .isNotNull => "IS NOT NULL"

def isUnary (operator : TableFilterOperator) : Bool := operator == .isNull || operator == .isNotNull

def conjunctionSql : TableFilterConjunction → String
  | .and => "AND"
  | .or => "OR"

def filterBaseType (databaseType : String) : String :=
  String.ofList (((Text.trim databaseType).toList.takeWhile Char.isAlpha).map Char.toLower)

def isFilterableColumnType (databaseType : String) : Bool := !unfilterableBaseTypes.contains (filterBaseType databaseType)

def filterOperatorsForColumnType (databaseType : String) : List TableFilterOperator :=
  let baseType := filterBaseType databaseType
  if !isFilterableColumnType databaseType then []
  else if numericFilterBaseTypes.contains baseType || temporalFilterBaseTypes.contains baseType then
    orderedFilterOperators
  else if baseType = "json" then equalityFilterOperators
  else textFilterOperators

/-- Escapes LIKE wildcards so that substring operators match user text literally. -/
def escapeLikeWildcards (value : String) : String :=
  String.ofList (value.toList.flatMap fun c => if c = '%' ∨ c = '_' ∨ c = '\\' then ['\\', c] else [c])

/-- The loop of `splitFilterList`, with the current item and whether a backslash
has just been read. -/
def splitFilterListFrom (current : List Char) (escaped : Bool) : List Char → List String
  | [] => [String.ofList current]
  | c :: rest =>
    if escaped then splitFilterListFrom (current ++ [c]) false rest
    else if c = '\\' then splitFilterListFrom current true rest
    else if c = ',' then String.ofList current :: splitFilterListFrom [] false rest
    else splitFilterListFrom (current ++ [c]) false rest

/-- Splits a comma-separated list while a backslash escapes a literal comma. -/
def splitFilterList (value : String) : List String := splitFilterListFrom [] false value.toList

def stripSign : List Char → List Char
  | [] => []
  | c :: rest => if c = '+' ∨ c = '-' then rest else c :: rest

def isNumericLiteral (value : String) : Bool :=
  let rest := stripSign value.toList
  let marks := fun c => !(c == 'e' || c == 'E')
  let mantissa := rest.takeWhile marks
  let exponent := rest.dropWhile marks
  let integerPart := mantissa.takeWhile (· != '.')
  let integerDigits := integerPart.all Char.isDigit
  let mantissaValid := match mantissa.dropWhile (· != '.') with
    | _ :: fraction =>
      integerDigits && fraction.all Char.isDigit && (!integerPart.isEmpty || !fraction.isEmpty)
    | [] => integerDigits && !integerPart.isEmpty
  match exponent with
  | [] => mantissaValid
  | _ :: signed => mantissaValid && !(stripSign signed).isEmpty && (stripSign signed).all Char.isDigit

/-- Encodes one filter operand as a literal matching its column type. -/
def filterValueLiteral (value : String) (column : TableFilterColumn) : Except String String :=
  let baseType := filterBaseType column.columnType
  let trimmed := Text.trim value
  if numericFilterBaseTypes.contains baseType then
    if isNumericLiteral trimmed then .ok trimmed else .error (column.name ++ " 需要数值")
  else if temporalFilterBaseTypes.contains baseType then
    if trimmed = "" then .error (column.name ++ " 需要时间值") else .ok (mysqlStringLiteral trimmed)
  else .ok (mysqlStringLiteral value)

/-- The items of a list operand: trimmed, and without the empty ones. -/
def listItems (value : String) : List String := ((splitFilterList value).map Text.trim).filter (· != "")

/-- Builds one predicate for a single enabled condition. -/
def filterPredicate (condition : TableFilterCondition) (column : TableFilterColumn) : Except String String :=
  let identifier := quoteIdentifier column.name
  let operator := condition.operator
  if isUnary operator then .ok (identifier ++ " " ++ operatorSql operator)
  else match operator with
    | .in_ | .notIn =>
      let items := listItems condition.value
      if items = [] then .error (column.name ++ " 的 " ++ operatorSql operator ++ " 需要至少一个值")
      else do
        let literals ← items.mapM fun item => filterValueLiteral item column
        return identifier ++ " " ++ operatorSql operator ++ " (" ++ String.intercalate ", " literals ++ ")"
    | .between =>
      match splitFilterList condition.value with
      | [first, second] =>
        if Text.trim first = "" ∨ Text.trim second = "" then
          .error (column.name ++ " 的 BETWEEN 需要用逗号分隔的两个值")
        else do
          let lower ← filterValueLiteral first column
          let upper ← filterValueLiteral second column
          return identifier ++ " BETWEEN " ++ lower ++ " AND " ++ upper
      | _ => .error (column.name ++ " 的 BETWEEN 需要用逗号分隔的两个值")
    | .contains | .startsWith | .endsWith =>
      if condition.value = "" then .error (column.name ++ " 需要筛选值")
      else
        let escaped := escapeLikeWildcards condition.value
        let pattern := match operator with
          | .contains => "%" ++ escaped ++ "%"
          | .startsWith => escaped ++ "%"
          | _ => "%" ++ escaped
        .ok (identifier ++ " LIKE " ++ mysqlStringLiteral pattern ++ " ESCAPE '\\\\'")
    | .like | .notLike =>
      if condition.value = "" then .error (column.name ++ " 需要筛选值")
      else .ok (identifier ++ " " ++ operatorSql operator ++ " " ++ mysqlStringLiteral condition.value)
    | _ => do
      let literal ← filterValueLiteral condition.value column
      return identifier ++ " " ++ operatorSql operator ++ " " ++ literal

/-- A half-written row is incomplete rather than wrong, so it is ignored. -/
def isIgnored (condition : TableFilterCondition) : Bool :=
  let incomplete := !isUnary condition.operator && (Text.trim condition.value).isEmpty
  !condition.enabled || condition.columnName.isEmpty || incomplete

/-- Errors and compiled parts after some conditions, in the order of the conditions. -/
structure Compilation where
  errors : List String
  parts : List (String × TableFilterConjunction)

/-- The loop body of `buildTableFilterClause`. -/
def compileCondition (schema : List TableFilterColumn) (compilation : Compilation)
    (condition : TableFilterCondition) : Compilation :=
  let fail := fun error => { compilation with errors := compilation.errors ++ [error] }
  if isIgnored condition then compilation
  else match schema.find? fun column => column.name == condition.columnName with
    | none => fail ("字段 " ++ condition.columnName ++ " 不在当前表结构中")
    | some column =>
      if !(filterOperatorsForColumnType column.columnType).contains condition.operator then
        fail (column.name ++ "（" ++ column.columnType ++ "）不支持该比较符")
      else match filterPredicate condition column with
        | .ok predicate => { compilation with parts := compilation.parts ++ [(predicate, condition.conjunction)] }
        | .error error => fail error

def compileConditions (conditions : List TableFilterCondition) (schema : List TableFilterColumn) : Compilation :=
  conditions.foldl (compileCondition schema) ⟨[], []⟩

/-- Whether both connectors occur behind the first part. -/
def isMixed (parts : List (String × TableFilterConjunction)) : Bool :=
  decide (1 < ((parts.drop 1).map Prod.snd).eraseDups.length)

/-- Appends one part; what precedes it is grouped when connectors are mixed. -/
def appendPart (mixed : Bool) (clause : String) (indexed : (String × TableFilterConjunction) × Nat) : String :=
  let ((predicate, conjunction), index) := indexed
  if mixed && decide (0 < index) then "(" ++ clause ++ ") " ++ conjunctionSql conjunction ++ " " ++ predicate
  else clause ++ " " ++ conjunctionSql conjunction ++ " " ++ predicate

def joinParts (parts : List (String × TableFilterConjunction)) : String :=
  match parts with
  | [] => ""
  | (first, _) :: others => others.zipIdx.foldl (appendPart (isMixed parts)) first

/-- `u32::try_from(..).unwrap_or(u32::MAX)`. -/
def saturatedCount (count : Nat) : Nat := if count ≤ 4294967295 then count else 4294967295

/-- Compiles quick-filter conditions into one `WHERE` clause. -/
def buildTableFilterClause (conditions : List TableFilterCondition) (schema : List TableFilterColumn) :
    TableFilterClause :=
  let ⟨errors, parts⟩ := compileConditions conditions schema
  if !errors.isEmpty || parts.isEmpty then { whereClause := "", errors := errors.eraseDups, activeCount := 0 }
  else { whereClause := " WHERE " ++ joinParts parts, errors := [], activeCount := saturatedCount parts.length }

end TableFilter

end Pipa
