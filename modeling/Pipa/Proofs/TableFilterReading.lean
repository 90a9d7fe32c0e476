import Pipa.Proofs.TableFilterSafety

/-! What becomes of each condition when a clause is compiled. The clause is made of what
the conditions mean, and it determines these meanings. -/

namespace Pipa.TableFilter
open Fallible SqlLexer SqlBoolean SqlWriting

/-- What becomes of a condition: it is ignored, it is an error, or it means something. -/
inductive Reading where
  | ignored | failed
  | means (found : Predicate)
deriving DecidableEq, Repr

def Reading.predicate : Reading → Option Predicate
  | .means found => some found
  | .ignored | .failed => none

namespace Dialect
variable (dialect : Dialect) (schema : List TableFilterColumn) (condition : TableFilterCondition)

/-- The operators of a type by its base. -/
def operators (baseType : String) : List TableFilterOperator :=
  if unfilterableBaseTypes.contains baseType then []
  else if numericFilterBaseTypes.contains baseType || temporalFilterBaseTypes.contains baseType then orderedFilterOperators
  else if baseType = "json" then equalityFilterOperators
  else textFilterOperators

def ignores : Bool :=
  !condition.enabled || condition.columnName.isEmpty || (!isUnary condition.operator && (dialect.trim condition.value).isEmpty)

def reading : Reading :=
  if dialect.ignores condition then .ignored
  else match schema.find? fun column => column.name == condition.columnName with
    | none => .failed
    | some column =>
      if (operators (dialect.baseType column.columnType)).contains condition.operator then
        match dialect.meaning column condition with
        | some found => .means found
        | none => .failed
      else .failed

end Dialect

/-! ### Compiling -/

/-- How a compilation goes on with a condition that is read so. -/
inductive Compiles (schema : List TableFilterColumn) (condition : TableFilterCondition) :
    Reading → Compilation → Compilation → Prop
  | ignored (compilation : Compilation) : Compiles schema condition .ignored compilation compilation
  | failed (compilation : Compilation) (error : String) :
    Compiles schema condition .failed compilation { compilation with errors := compilation.errors ++ [error] }
  | means (compilation : Compilation) {text : String} {found : Predicate}
      (written : PartWritten schema (text, condition.conjunction) (found, condition.conjunction)) :
    Compiles schema condition (.means found) compilation
      { compilation with parts := compilation.parts ++ [(text, condition.conjunction)] }

/-- The meanings of the conditions that have one, in order. -/
def meanings (read : TableFilterCondition → Reading) (conditions : List TableFilterCondition) :
    List (Predicate × TableFilterConjunction) :=
  conditions.filterMap fun condition => (read condition).predicate.map (·, condition.conjunction)

theorem fold_compiles {schema : List TableFilterColumn} {read : TableFilterCondition → Reading}
    {step : Compilation → TableFilterCondition → Compilation} (conditions : List TableFilterCondition)
    (each : ∀ condition ∈ conditions, ∀ compilation, Compiles schema condition (read condition) compilation (step compilation condition))
    (start : Compilation) :
    ∃ errors parts, conditions.foldl step start = ⟨start.errors ++ errors, start.parts ++ parts⟩ ∧
      (errors = [] ↔ ∀ condition ∈ conditions, read condition ≠ .failed) ∧
      List.Forall₂ (PartWritten schema) parts (meanings read conditions) := by
  induction conditions generalizing start with
  | nil => exact ⟨[], [], by simp, by simp, .nil⟩
  | cons condition conditions ih =>
    obtain ⟨here, later⟩ := List.forall_mem_cons.mp each
    obtain ⟨errors, parts, final, clean, written⟩ := ih later (step start condition)
    have first := here start
    rw [List.foldl_cons, final]
    rw [meanings] at written ⊢
    generalize step start condition = next at first
    rw [List.filterMap_cons, List.forall_mem_cons]
    generalize reading : read condition = found at first
    cases first with
    | ignored => exact ⟨errors, parts, rfl, by simpa using clean, written⟩
    | failed _ error => exact ⟨error :: errors, parts, by simp, by simp, written⟩
    | @means _ text found here => exact ⟨errors, (text, condition.conjunction) :: parts, by simp, by simpa using clean, .cons here written⟩

/-- A condition of its operator's type is compiled as its dialect reads it. -/
theorem compiles_supported (dialect : Dialect) {schema : List TableFilterColumn} {condition : TableFilterCondition}
    {column : TableFilterColumn} (listed : column ∈ schema) (compilation : Compilation) :
    Compiles schema condition
      (match dialect.meaning column condition with
        | some found => .means found
        | none => .failed)
      compilation
      (match dialect.predicate column condition with
        | .ok predicate => { compilation with parts := compilation.parts ++ [(predicate, condition.conjunction)] }
        | .error error => { compilation with errors := compilation.errors ++ [error] }) := by
  have compiled := dialect.predicate_meaning column condition
  generalize dialect.meaning column condition = meant at compiled
  generalize dialect.predicate column condition = text at compiled
  cases compiled with
  | both written => exact .means compilation ⟨rfl, column, listed, written⟩
  | neither error => exact .failed compilation error

theorem compileCondition_compiles (schema : List TableFilterColumn) (condition : TableFilterCondition) (compilation : Compilation) :
    Compiles schema condition (backend.reading schema condition) compilation (compileCondition schema compilation condition) := by
  have ignores : backend.ignores condition = isIgnored condition := rfl
  unfold Dialect.reading compileCondition
  rw [ignores]
  cases isIgnored condition with
  | true => exact .ignored compilation
  | false =>
    cases found : schema.find? fun column => column.name == condition.columnName with
    | none => exact .failed compilation _
    | some column =>
      have operators : filterOperatorsForColumnType column.columnType = Dialect.operators (backend.baseType column.columnType) := by
        rw [filterOperatorsForColumnType, isFilterableColumnType, Bool.not_not]
        rfl
      simp only [Bool.false_eq_true, if_false, operators]
      cases (Dialect.operators (backend.baseType column.columnType)).contains condition.operator with
      | true =>
        simp only [if_true, Bool.not_true, Bool.false_eq_true, if_false, filterPredicate_backend]
        exact compiles_supported backend (List.mem_of_find?_eq_some found) compilation
      | false => exact .failed compilation _

/-! ### Clauses and their meanings -/

/-- A clause of parts, where the parts are counted so. -/
def clauseOf (count : Nat → Nat) (compilation : Compilation) : TableFilterClause :=
  if !compilation.errors.isEmpty || compilation.parts.isEmpty then
    { whereClause := "", errors := compilation.errors.eraseDups, activeCount := 0 }
  else { whereClause := " WHERE " ++ joinParts compilation.parts, errors := [], activeCount := count compilation.parts.length }

theorem build_clause (conditions : List TableFilterCondition) (schema : List TableFilterColumn) :
    buildTableFilterClause conditions schema = clauseOf saturatedCount (conditions.foldl (compileCondition schema) ⟨[], []⟩) := rfl

theorem clauseOf_failed {count : Nat → Nat} {compilation : Compilation} (failed : compilation.errors ≠ []) :
    (clauseOf count compilation).whereClause = "" ∧ (clauseOf count compilation).activeCount = 0 := by
  have reported : (!compilation.errors.isEmpty || compilation.parts.isEmpty) = true := by simp [failed]
  rw [clauseOf, if_pos reported]
  exact ⟨rfl, rfl⟩

theorem clauseOf_errors {count : Nat → Nat} {compilation : Compilation} :
    (clauseOf count compilation).errors = [] ↔ compilation.errors = [] := by
  rw [clauseOf]
  split
  · cases compilation.errors with
    | nil => exact iff_of_true rfl rfl
    | cons error errors =>
      rw [List.eraseDups_cons]
      exact iff_of_false (List.cons_ne_nil _ _) (List.cons_ne_nil _ _)
  next unreported =>
    rw [Bool.or_eq_true, not_or] at unreported
    exact iff_of_true rfl (by simpa using unreported.1)

/-- The text of a clause. -/
def clauseText (parts : List (String × TableFilterConjunction)) : String :=
  if parts.isEmpty then "" else " WHERE " ++ joinParts parts

theorem clauseOf_clean {count : Nat → Nat} (none : count 0 = 0) {compilation : Compilation} (clean : compilation.errors = []) :
    (clauseOf count compilation).whereClause = clauseText compilation.parts ∧
      (clauseOf count compilation).activeCount = count compilation.parts.length := by
  rw [clauseOf, clauseText, clean]
  cases compilation.parts with
  | nil => exact ⟨rfl, none.symm⟩
  | cons part parts => exact ⟨rfl, rfl⟩

/-- What a clause shows of how its conditions are read. -/
theorem clauseOf_fold {schema : List TableFilterColumn} {read : TableFilterCondition → Reading} {count : Nat → Nat}
    (none : count 0 = 0) {step : Compilation → TableFilterCondition → Compilation} (conditions : List TableFilterCondition)
    (each : ∀ condition ∈ conditions, ∀ compilation, Compiles schema condition (read condition) compilation (step compilation condition)) :
    let clause := clauseOf count (conditions.foldl step ⟨[], []⟩)
    (clause.errors = [] ↔ ∀ condition ∈ conditions, read condition ≠ .failed) ∧
      ((∃ condition ∈ conditions, read condition = .failed) → clause.whereClause = "" ∧ clause.activeCount = 0) ∧
      ((∀ condition ∈ conditions, read condition ≠ .failed) → ∃ parts,
        List.Forall₂ (PartWritten schema) parts (meanings read conditions) ∧ clause.whereClause = clauseText parts ∧
          clause.activeCount = count (meanings read conditions).length) := by
  obtain ⟨errors, parts, final, clean, written⟩ := fold_compiles conditions each ⟨[], []⟩
  rw [final, List.nil_append, List.nil_append]
  refine ⟨clauseOf_errors.trans clean, ?_, ?_⟩
  · rintro ⟨condition, listed, failed⟩
    exact clauseOf_failed fun empty => clean.mp empty condition listed failed
  · intro valid
    obtain ⟨text, counted⟩ := @clauseOf_clean count none ⟨errors, parts⟩ (clean.mpr valid)
    exact ⟨parts, written, text, by rw [counted, written.length_eq]⟩

section Parts
variable {schema : List TableFilterColumn} {parts parts' : List (String × TableFilterConjunction)}
  {found found' : List (Predicate × TableFilterConjunction)}

private theorem clauseText_cons (part : String × TableFilterConjunction) (parts : List (String × TableFilterConjunction)) :
    clauseText (part :: parts) ≠ "" := by
  intro empty
  have length := congrArg String.length empty
  rw [clauseText, List.isEmpty_cons, if_neg Bool.false_ne_true, String.length_append] at length
  have positive : " WHERE ".length = 7 := rfl
  rw [positive] at length
  change 7 + _ = 0 at length
  omega

/-- The same clause has the same meaning. -/
theorem meanings_of_clause (written : List.Forall₂ (PartWritten schema) parts found)
    (written' : List.Forall₂ (PartWritten schema) parts' found') (same : clauseText parts = clauseText parts') :
    found.map Prod.fst = found'.map Prod.fst := by
  cases written with
  | nil =>
    cases written' with
    | nil => rfl
    | cons => exact absurd same.symm (clauseText_cons _ _)
  | @cons part first parts found here later =>
    cases written' with
    | nil => exact absurd same (clauseText_cons _ _)
    | @cons part' first' parts' found' here' later' =>
      obtain ⟨pieces, renders⟩ := joinParts_renders here later
      obtain ⟨pieces', renders'⟩ := joinParts_renders here' later'
      have parsed := clause_parses renders
      have text : " WHERE " ++ joinParts (part :: parts) = " WHERE " ++ joinParts (part' :: parts') := same
      rw [text, clause_parses renders'] at parsed
      have predicates := congrArg Expression.predicates (Option.some.inj parsed)
      rw [predicates_fold, predicates_fold] at predicates
      exact predicates.symm

/-- The same meanings are written alike. -/
theorem parts_of_meanings (written : List.Forall₂ (PartWritten schema) parts found)
    (written' : List.Forall₂ (PartWritten schema) parts' found) : parts = parts' := by
  induction written generalizing parts' with
  | nil =>
    cases written'
    rfl
  | @cons part meaning parts found here _ ih =>
    cases written' with
    | @cons part' _ parts' _ here' later' =>
      obtain ⟨conjunction, _, _, text⟩ := here
      obtain ⟨conjunction', _, _, text'⟩ := here'
      have same : part = part' :=
        Prod.ext (units_injective (text.text.trans text'.text.symm)) (conjunction.trans conjunction'.symm)
      rw [same, ih later']

end Parts

end Pipa.TableFilter
