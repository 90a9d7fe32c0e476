import Pipa.Proofs.TableFilterClause

/-! What a compiled filter means to the server, and that user text stays inside
its literals. -/

namespace Pipa.TableFilter
open SqlLexer SqlBoolean SqlWriting

variable {conditions : List TableFilterCondition} {schema : List TableFilterColumn}

private theorem eraseDups_nil_iff {errors : List String} : errors.eraseDups = [] ↔ errors = [] := by
  cases errors with
  | nil => simp
  | cons error errors => simp [List.eraseDups_cons]

/-- A reported error comes with an empty clause, and nothing else hides an error. -/
theorem build_errors (conditions : List TableFilterCondition) (schema : List TableFilterColumn) :
    ((buildTableFilterClause conditions schema).errors = [] ↔ (compileConditions conditions schema).errors = []) ∧
      ((buildTableFilterClause conditions schema).errors ≠ [] →
        (buildTableFilterClause conditions schema).whereClause = "") := by
  simp only [buildTableFilterClause]
  cases compiled : compileConditions conditions schema with
  | mk errors parts =>
    cases failed : (!errors.isEmpty || parts.isEmpty) with
    | true => simp [eraseDups_nil_iff]
    | false =>
      have clean : errors = [] := by simpa using (Bool.or_eq_false_iff.mp failed).1
      simp [clean]

/-- A clause as segments: WHERE and the joined predicates, or nothing. -/
def clausePieces (pieces : List Segment) : List Segment := .blank :: .word "WHERE" :: .blank :: pieces

/-- Without errors, the clause is empty or joins the meanings of the active conditions from left to right. -/
theorem clause_renders (valid : (buildTableFilterClause conditions schema).errors = []) :
    activePredicates conditions schema = some [] ∧ (buildTableFilterClause conditions schema).whereClause = "" ∧
        (compileConditions conditions schema).parts = [] ∧
        (buildTableFilterClause conditions schema).activeCount = 0 ∨
      ∃ first others body pieces, activePredicates conditions schema = some (first :: others) ∧
        Renders schema .disjunction body pieces (others.foldl connectMeaning (.predicate first.1)) ∧
        (buildTableFilterClause conditions schema).whereClause = " WHERE " ++ body ∧
        (compileConditions conditions schema).parts.length = others.length + 1 ∧
        (buildTableFilterClause conditions schema).activeCount = saturatedCount (others.length + 1) := by
  have clean := (build_errors conditions schema).1.mp valid
  obtain ⟨-, parts, predicates, active, written, added⟩ := compile_clean clean
  have compiled : (compileConditions conditions schema).parts = parts := by simpa [compileConditions] using added
  cases written with
  | nil =>
    refine Or.inl ⟨active, ?_⟩
    simp [buildTableFilterClause, clean, compiled]
  | @cons part meaning parts meanings here later =>
    obtain ⟨pieces, renders⟩ := joinParts_renders here later
    refine Or.inr ⟨meaning, meanings, _, pieces, active, renders, ?_⟩
    simp [buildTableFilterClause, clean, compiled, later.length_eq]

private theorem where_units (body : String) : units (" WHERE " ++ body) = 32 :: (units "WHERE" ++ 32 :: units body) := by
  have fixed : units " WHERE " = 32 :: (units "WHERE" ++ [32]) := by decide
  simp [fixed]

private theorem Renders.clause {level : Level} {body : String} {pieces : List Segment} {found : Expression}
    (renders : Renders schema level body pieces found) :
    units (" WHERE " ++ body) = write (clausePieces pieces) ∧ Spaced (clausePieces pieces) := by
  constructor
  · rw [where_units, renders.text]
    simp [clausePieces, Segment.written]
  · exact (renders.spaced.before_blank (proper_keyword (by decide))).blank

/-- Joining keeps the order of the predicates. -/
theorem predicates_fold (others : List (Predicate × TableFilterConjunction)) (former : Expression) :
    (others.foldl connectMeaning former).predicates = former.predicates ++ others.map Prod.fst := by
  induction others generalizing former with
  | nil => simp
  | cons meaning others ih => simp [ih, connectMeaning, Expression.predicates]

/-- Joining is evaluated strictly from left to right. -/
theorem value_fold {V : Type} (row : Row V) (others : List (Predicate × TableFilterConjunction))
    (former : Expression) :
    row.value (others.foldl connectMeaning former) =
      others.foldl (fun truth meaning => Row.connect (connective meaning.2) truth (row.predicate meaning.1))
        (row.value former) := by
  induction others generalizing former with
  | nil => rfl
  | cons meaning others ih => rw [List.foldl_cons, List.foldl_cons, ih, connectMeaning, Row.value, Row.value]

/-- Either the compilation fails with an empty clause, or the clause is written in
segments that any server reads as these same segments, its literals being those of
the active conditions' operands. -/
theorem filter_clause_confines_text (conditions : List TableFilterCondition) (schema : List TableFilterColumn) :
    (buildTableFilterClause conditions schema).errors ≠ [] ∧
        (buildTableFilterClause conditions schema).whereClause = "" ∨
      (buildTableFilterClause conditions schema).errors = [] ∧
        ∃ pieces predicates, units (buildTableFilterClause conditions schema).whereClause = write pieces ∧
          (∀ backslashEscapes, tokens ⟨backslashEscapes, true⟩
            (units (buildTableFilterClause conditions schema).whereClause) = some (readings pieces)) ∧
          (∀ piece ∈ pieces, Permitted schema piece) ∧
          activePredicates conditions schema = some predicates ∧
          pieces.filterMap literalOf = predicates.flatMap fun meaning => literals meaning.1 := by
  by_cases valid : (buildTableFilterClause conditions schema).errors = []
  · refine Or.inr ⟨valid, ?_⟩
    obtain ⟨active, empty, -⟩ | ⟨first, others, body, pieces, active, renders, whole, -⟩ := clause_renders valid
    · rw [empty]
      exact ⟨[], [], rfl, fun _ => rfl, by simp, active, rfl⟩
    · obtain ⟨text, spaced⟩ := renders.clause
      rw [whole, text]
      refine ⟨clausePieces pieces, first :: others, rfl, fun _ => tokens_write rfl spaced, ?_, active, ?_⟩
      · intro piece listed
        simp only [clausePieces, List.mem_cons] at listed
        rcases listed with rfl | rfl | rfl | inside
        · trivial
        · exact (show "WHERE" ∈ keywords by decide)
        · trivial
        · exact renders.permitted piece inside
      · simp [clausePieces, literalOf, List.filterMap_cons, renders.literals, predicates_fold, Expression.predicates,
          List.flatMap_map]
  · exact Or.inl ⟨valid, (build_errors conditions schema).2 valid⟩

/-- A clause with predicates is parsed to their fold. -/
theorem clause_parses {body : String} {pieces : List Segment} {found : Expression}
    (renders : Renders schema .disjunction body pieces found) :
    (tokens ⟨true, true⟩ (units (" WHERE " ++ body))).bind parseWhere = some found := by
  obtain ⟨text, spaced⟩ := renders.clause
  have keyword : readings (clausePieces pieces) = .word (units "WHERE") :: readings pieces := by
    simp [clausePieces, Segment.read]
  rw [text, tokens_write rfl spaced, keyword]
  exact renders.phrase.parseWhere

/-- Without errors, the clause means the strict left-to-right fold of the active
conditions' predicates, and counts them up to the largest `u32`. -/
theorem filter_clause_means_fold (conditions : List TableFilterCondition) (schema : List TableFilterColumn)
    (valid : (buildTableFilterClause conditions schema).errors = []) :
    activePredicates conditions schema = some [] ∧ (buildTableFilterClause conditions schema).whereClause = "" ∧
        (buildTableFilterClause conditions schema).activeCount = 0 ∨
      ∃ first others found, activePredicates conditions schema = some (first :: others) ∧
        (tokens ⟨true, true⟩ (units (buildTableFilterClause conditions schema).whereClause)).bind parseWhere =
          some found ∧
        (∀ (V : Type) (row : Row V), row.value found =
          others.foldl (fun truth meaning => Row.connect (connective meaning.2) truth (row.predicate meaning.1))
            (row.predicate first.1)) ∧
        found.predicates = (first :: others).map Prod.fst ∧
        (buildTableFilterClause conditions schema).activeCount = min found.predicates.length 4294967295 := by
  obtain ⟨active, empty, -, none⟩ | ⟨first, others, body, pieces, active, renders, whole, -, count⟩ :=
    clause_renders valid
  · exact Or.inl ⟨active, empty, none⟩
  · have order := predicates_fold others (.predicate first.1)
    refine Or.inr ⟨first, others, _, active, ?_, fun V row => value_fold row others _, order, ?_⟩
    · rw [whole]
      exact clause_parses renders
    · rw [count, order]
      simp only [saturatedCount, Expression.predicates, List.singleton_append, List.length_cons, List.length_map]
      split <;> omega

/-- The columns of the module's own tests. -/
private def testSchema : List TableFilterColumn := [⟨"id", "bigint unsigned"⟩, ⟨"name", "varchar(50)"⟩]

private def mixedConditions : List TableFilterCondition :=
  [⟨"id", .greater, "1", .and, true⟩, ⟨"name", .contains, "50%_a", .or, true⟩, ⟨"id", .between, "2,9", .and, true⟩]

theorem filter_clause_means_fold_mixed :
    (buildTableFilterClause mixedConditions testSchema).errors = [] ∧
      ∃ found, (tokens ⟨true, true⟩ (units (buildTableFilterClause mixedConditions testSchema).whereClause)).bind
        parseWhere = some found ∧
      (buildTableFilterClause mixedConditions testSchema).activeCount = min found.predicates.length 4294967295 := by
  have valid : (buildTableFilterClause mixedConditions testSchema).errors = [] := by decide +kernel
  obtain ⟨active, -⟩ | ⟨first, others, found, active, parsed, -, order, count⟩ := filter_clause_means_fold _ _ valid
  · exact absurd active (by decide +kernel)
  · exact ⟨valid, found, parsed, count⟩

private def nullCondition : TableFilterCondition := ⟨"name", .isNull, "", .and, true⟩

private theorem replicate_compiles (count : Nat) (parts : List (String × TableFilterConjunction)) :
    (List.replicate count nullCondition).foldl (compileCondition testSchema) ⟨[], parts⟩ =
      ⟨[], parts ++ List.replicate count ("\x60name\x60 IS NULL", .and)⟩ := by
  induction count generalizing parts with
  | zero => simp
  | succ count ih =>
    have step : compileCondition testSchema ⟨[], parts⟩ nullCondition =
        ⟨[], parts ++ [("\x60name\x60 IS NULL", .and)]⟩ := by
      have active : isIgnored nullCondition = false := by decide +kernel
      have found : testSchema.find? (fun column => column.name == nullCondition.columnName) =
          some ⟨"name", "varchar(50)"⟩ := by decide +kernel
      have supported : (filterOperatorsForColumnType "varchar(50)").contains nullCondition.operator = true := by
        decide +kernel
      have compiled : filterPredicate nullCondition ⟨"name", "varchar(50)"⟩ = .ok "\x60name\x60 IS NULL" := by
        decide +kernel
      simp only [compileCondition, active, Bool.false_eq_true, if_false, found, supported, Bool.not_true, compiled]
      rfl
    rw [List.replicate_succ, List.foldl_cons, step, ih, List.append_assoc, List.replicate_succ, List.singleton_append]

/-- The parsed clause has a predicate for every compiled part. -/
private theorem clause_counts (valid : (buildTableFilterClause conditions schema).errors = []) {count : Nat}
    (many : (compileConditions conditions schema).parts.length = count + 1) :
    ∃ found, (tokens ⟨true, true⟩ (units (buildTableFilterClause conditions schema).whereClause)).bind parseWhere =
        some found ∧ found.predicates.length = count + 1 ∧
      (buildTableFilterClause conditions schema).activeCount = saturatedCount (count + 1) := by
  obtain ⟨-, -, none, -⟩ | ⟨first, others, body, pieces, -, renders, whole, length, count⟩ := clause_renders valid
  · rw [none] at many
    cases many
  · obtain rfl : others.length = _ := Nat.succ.inj (length.symm.trans many)
    rw [whole]
    exact ⟨_, clause_parses renders, by simp [predicates_fold, Expression.predicates], count⟩

/-- Beyond the largest `u32` the count of active conditions saturates. -/
theorem active_count_saturates :
    let clause := buildTableFilterClause (List.replicate 4294967296 ⟨"name", .isNull, "", .and, true⟩)
      [⟨"id", "bigint unsigned"⟩, ⟨"name", "varchar(50)"⟩]
    clause.errors = [] ∧ ∃ found, (tokens ⟨true, true⟩ (units clause.whereClause)).bind parseWhere = some found ∧
      clause.activeCount ≠ found.predicates.length := by
  have compiled := replicate_compiles 4294967296 []
  have valid := (build_errors (List.replicate 4294967296 nullCondition) testSchema).1.mpr
    (congrArg Compilation.errors compiled)
  have many := congrArg List.length (congrArg Compilation.parts compiled)
  rw [List.nil_append, List.length_replicate] at many
  obtain ⟨found, parsed, total, count⟩ := @clause_counts _ _ valid 4294967295 many
  refine ⟨valid, found, parsed, ?_⟩
  intro same
  have saturated : saturatedCount (4294967295 + 1) = 4294967295 := rfl
  have contradiction := (count.trans saturated).symm.trans (same.trans total)
  omega

end Pipa.TableFilter
