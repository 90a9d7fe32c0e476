import Pipa.Library.Slots
import Pipa.Proofs.TableFilterBlanks
import Pipa.Proofs.TableSqlFilterNumbers

/-! When the pre-check in the frontend shows the clause that the backend executes: both
must read every condition alike, or refuse the same ones. -/

namespace Pipa.TableSql
open Text ColumnPatterns TableFilter Slots

/-- The frontend's libraries. -/
def preview : Dialect := ⟨jsTrim, filterBaseType⟩

theorem filterValueLiteral_preview (value : String) (column : TableFilterColumn) :
    filterValueLiteral value column = preview.literal column value := by
  rw [filterValueLiteral, Dialect.literal, filterNumber_accepts]
  rfl

theorem filterPredicate_preview (condition : TableFilterCondition) (column : TableFilterColumn) :
    filterPredicate condition column = preview.predicate column condition := by
  unfold filterPredicate Dialect.predicate
  simp only [filterValueLiteral_preview]
  cases condition.operator <;> rfl

theorem filterOperators_preview (databaseType : String) :
    filterOperatorsForColumnType databaseType = Dialect.operators (preview.baseType databaseType) := by
  have base : preview.baseType databaseType = filterBaseType databaseType := rfl
  rw [filterOperatorsForColumnType, isFilterableColumnType, Bool.not_not, Dialect.operators, base]
  by_cases json : filterBaseType databaseType = "json"
  · simp only [json, true_or, if_true]
  · simp only [json, false_or, if_false, ite_self]

/-- Among distinct names, the last column of a name is the only one. -/
theorem lastOf_find {schema : List TableFilterColumn} (distinct : (schema.map (·.name)).Nodup) (name : String) :
    OrderedMap.lastOf (schema.map fun column => (column.name, column)) name = schema.find? fun column => column.name == name := by
  have keys : ((schema.map fun column => (column.name, column)).reverse.map Prod.fst).Nodup := by
    rw [List.map_reverse, List.nodup_reverse, List.map_map]
    exact distinct
  cases found : schema.find? fun column => column.name == name with
  | none =>
    rw [Option.eq_none_iff_forall_ne_some]
    intro column last
    obtain ⟨other, listed, same⟩ := List.mem_map.mp (OrderedMap.lastOf_mem last)
    have named := List.find?_eq_none.mp found other listed
    exact named (beq_iff_eq.mpr (congrArg Prod.fst same))
  | some column =>
    have named := List.find?_some found
    rw [beq_iff_eq] at named
    exact OrderedMap.lookup_of_mem keys (List.mem_reverse.mpr
      (List.mem_map.mpr ⟨column, List.mem_of_find?_eq_some found, by rw [named]⟩))

theorem compileCondition_compiles {schema : List TableFilterColumn} (distinct : (schema.map (·.name)).Nodup)
    (condition : TableFilterCondition) (compilation : Compilation) :
    Compiles schema condition (preview.reading schema condition) compilation (compileCondition schema compilation condition) := by
  have ignores : preview.ignores condition = isIgnored condition := rfl
  have known : tableFilterOperators.contains condition.operator = true := by cases condition.operator <;> rfl
  unfold Dialect.reading compileCondition
  rw [ignores, lastOf_find distinct]
  cases isIgnored condition with
  | true => exact .ignored compilation
  | false =>
    cases found : schema.find? fun column => column.name == condition.columnName with
    | none => exact .failed compilation _
    | some column =>
      simp only [Bool.false_eq_true, if_false, known, Bool.not_true, filterOperators_preview]
      cases (Dialect.operators (preview.baseType column.columnType)).contains condition.operator with
      | true =>
        simp only [if_true, Bool.not_true, Bool.false_eq_true, if_false, filterPredicate_preview]
        exact compiles_supported preview (List.mem_of_find?_eq_some found) compilation
      | false => exact .failed compilation _

theorem build_clause (conditions : List TableFilterCondition) (schema : List TableFilterColumn) :
    buildTableFilterClause conditions schema = clauseOf id (conditions.foldl (compileCondition schema) ⟨[], []⟩) := rfl

/-! ### Conditions that only one side reads -/

section Alien
variable {dialect dialect' : Dialect} {schema : List TableFilterColumn} {condition other : TableFilterCondition}
  {found : SqlBoolean.Predicate}

theorem reading_ignored (ignored : dialect.reading schema condition = .ignored) : dialect.ignores condition = true := by
  unfold Dialect.reading at ignored
  split at ignored
  next ignores => exact ignores
  next =>
    split at ignored
    · cases ignored
    · split at ignored
      · split at ignored <;> cases ignored
      · cases ignored

theorem reading_means (means : dialect.reading schema condition = .means found) :
    dialect.ignores condition = false ∧ ∃ column, dialect.meaning column condition = some found := by
  unfold Dialect.reading at means
  split at means
  · cases means
  next considered =>
    split at means
    · cases means
    next column _ =>
      split at means
      · split at means
        next found meant =>
          obtain rfl := Reading.means.inj means
          exact ⟨Bool.eq_false_iff.mpr considered, column, meant⟩
        next => cases means
      · cases means

theorem meaning_unary {column : TableFilterColumn} (unary : isUnary condition.operator = true)
    (meant : dialect.meaning column condition = some found) : ∃ negated, found = .isNull negated (SqlLexer.units column.name) := by
  unfold Dialect.meaning at meant
  cases operated : condition.operator <;> rw [operated] at meant unary
  case isNull | isNotNull => exact ⟨_, (Option.some.inj meant).symm⟩
  all_goals cases unary

/-- What one side reads in a value that is blank to the other side, that one reads in no
condition. -/
theorem reading_alien {blanks : Blanks} {space : Char → Bool} (trims : dialect.Trims blanks.space) (trims' : dialect'.Trims space)
    (ignored : dialect.reading schema condition = .ignored) (means : dialect'.reading schema condition = .means found) :
    dialect.reading schema other ≠ .means found := by
  intro foreign
  have ignores := reading_ignored ignored
  obtain ⟨considers, column, meant⟩ := reading_means means
  obtain ⟨considers', column', meant'⟩ := reading_means foreign
  simp only [Dialect.ignores, Bool.or_eq_false_iff] at considers considers'
  rw [Dialect.ignores, considers.1.1, considers.1.2, Bool.false_or, Bool.false_or, Bool.and_eq_true, Bool.not_eq_true',
    String.isEmpty_iff] at ignores
  obtain ⟨binary, blank⟩ := ignores
  rw [trims, trimMatches_empty_iff] at blank
  have hollow := body_hollow trims' blank (meaning_meant meant)
  cases unary : isUnary other.operator with
  | true =>
    obtain ⟨negated, rfl⟩ := meaning_unary unary meant'
    have own := meaning_meant meant
    generalize SqlLexer.units column'.name = name at own
    cases own with
    | null unary =>
      rw [binary] at unary
      cases unary
  | false =>
    have solid := considers'.2
    rw [unary, Bool.not_false, Bool.true_and] at solid
    refine body_solid trims unary (fun empty => ?_) (meaning_meant meant') hollow
    rw [empty] at solid
    cases solid

end Alien

/-! ### What the libraries have in common -/

/-- Characters that both trim or neither does. -/
def Common (c : Char) : Prop := c ≠ '\u0085' ∧ c ≠ '\uFEFF'

theorem trim_common {text : String} (common : ∀ c ∈ text.toList, Common c) : jsTrim text = trim text := by
  refine trimMatches_congr fun c member => ?_
  obtain ⟨line, mark⟩ := common c member
  have unlined : (c.toNat != 0x85) = true := bne_iff_ne.mpr fun same => line (Char.toNat_inj.mp same)
  have unmarked : (c.toNat == 0xFEFF) = false := beq_eq_false_iff_ne.mpr fun same => mark (Char.toNat_inj.mp same)
  rw [isJsWhitespace, unlined, unmarked, Bool.and_true, Bool.or_false]

theorem isLower_iff (c : Char) : c.isLower = true ↔ 97 ≤ c.toNat ∧ c.toNat ≤ 122 := by
  have shape : c.isLower = (c.val ≥ 'a'.val && c.val ≤ 'z'.val) := rfl
  rw [shape]
  simp [UInt32.le_iff_toNat_le]

theorem isAlpha_iff (c : Char) : c.isAlpha = true ↔ (65 ≤ c.toNat ∧ c.toNat ≤ 90) ∨ (97 ≤ c.toNat ∧ c.toNat ≤ 122) := by
  have shape : c.isAlpha = (decide (c.val ≥ 'A'.val ∧ c.val ≤ 'Z'.val) || c.isLower) := rfl
  rw [shape, Bool.or_eq_true, isLower_iff]
  simp [UInt32.le_iff_toNat_le]

theorem filterBaseType_common {databaseType : String}
    (common : ∀ c ∈ databaseType.toList, Common c ∧ c ≠ '\u212A' ∧ c ≠ '\u0130') :
    filterBaseType databaseType = TableFilter.filterBaseType databaseType := by
  have trimmed := trim_common fun c member => (common c member).1
  have kept : ∀ c ∈ (trim databaseType).toList, c ≠ '\u212A' ∧ c ≠ '\u0130' := fun c member => (common c (mem_trimMatches member)).2
  have lowered : lowercase (trim databaseType).toList = (trim databaseType).toList.map Char.toLower := by
    rw [lowercase, ← List.flatMap_pure_eq_map]
    refine List.flatMap_congr fun c member => ?_
    rw [if_neg (kept c member).2, if_neg (kept c member).1]
    rfl
  have letters : (Char.isLower ∘ Char.toLower) = Char.isAlpha := by
    funext c
    rw [Bool.eq_iff_iff, Function.comp_apply, isLower_iff, isAlpha_iff, toLower_toNat]
    split <;> omega
  rw [filterBaseType, trimmed, lowered, List.takeWhile_map, letters]
  rfl

section Common
variable {column : TableFilterColumn} (typed : preview.baseType column.columnType = backend.baseType column.columnType)
include typed

theorem operand_common {value : String} (common : ∀ c ∈ value.toList, Common c) :
    preview.operand column value = backend.operand column value := by
  have trimmed : preview.trim value = backend.trim value := trim_common common
  rw [Dialect.operand, Dialect.operand, typed, trimmed]

theorem meaning_common {condition : TableFilterCondition} (common : ∀ c ∈ condition.value.toList, Common c) :
    preview.meaning column condition = backend.meaning column condition := by
  have parts : ∀ part ∈ splitFilterList condition.value, ∀ c ∈ part.toList, Common c := by
    intro part listed c member
    rcases mem_splitFilterListFrom listed member with impossible | inside
    · cases impossible
    · exact common c inside
  have items : preview.items condition.value = backend.items condition.value := by
    rw [Dialect.items, Dialect.items]
    exact congrArg _ (List.map_congr_left fun part listed => trim_common (parts part listed))
  have listed {texts : List String} (common : ∀ text ∈ texts, ∀ c ∈ text.toList, Common c) :
      texts.mapM (preview.operand column) = texts.mapM (backend.operand column) := by
    induction texts with
    | nil => rw [List.mapM_nil, List.mapM_nil]
    | cons text texts ih =>
      obtain ⟨here, later⟩ := List.forall_mem_cons.mp common
      rw [List.mapM_cons, List.mapM_cons, operand_common typed here, ih later]
  have members : (backend.items condition.value).mapM (preview.operand column) =
      (backend.items condition.value).mapM (backend.operand column) := by
    refine listed fun item present c member => ?_
    obtain ⟨part, split, rfl⟩ := List.mem_map.mp (List.mem_filter.mp present).1
    exact parts part split c (mem_trimMatches member)
  have bounds : ∀ low high, splitFilterList condition.value = [low, high] →
      (preview.trim low = backend.trim low ∧ preview.operand column low = backend.operand column low) ∧
        preview.trim high = backend.trim high ∧ preview.operand column high = backend.operand column high := by
    intro low high split
    have here := parts low (by simp [split])
    have there := parts high (by simp [split])
    exact ⟨⟨trim_common here, operand_common typed here⟩, trim_common there, operand_common typed there⟩
  unfold Dialect.meaning
  cases condition.operator <;> dsimp only
  case between =>
    split
    next low high split =>
      obtain ⟨⟨trims, reads⟩, trims', reads'⟩ := bounds low high split
      rw [trims, reads, trims', reads']
    next => rfl
  case in_ | notIn => rw [items, members]
  case equal | notEqual | greater | greaterOrEqual | less | lessOrEqual => rw [operand_common typed common]

end Common

/-- Values without the two characters that only one side trims, and types without these
and without the two that only one side takes for letters, are read alike. -/
theorem reading_common {schema : List TableFilterColumn} {condition : TableFilterCondition}
    (values : ∀ c ∈ condition.value.toList, Common c)
    (types : ∀ column ∈ schema, ∀ c ∈ column.columnType.toList, Common c ∧ c ≠ '\u212A' ∧ c ≠ '\u0130') :
    preview.reading schema condition = backend.reading schema condition := by
  have trimmed : preview.trim condition.value = backend.trim condition.value := trim_common values
  rw [Dialect.reading, Dialect.reading, Dialect.ignores, Dialect.ignores, trimmed]
  cases found : schema.find? fun column => column.name == condition.columnName with
  | none => rfl
  | some column =>
    have typed : preview.baseType column.columnType = backend.baseType column.columnType :=
      filterBaseType_common (types column (List.mem_of_find?_eq_some found))
    dsimp only
    rw [typed, meaning_common typed values]

/-! ### Clauses -/

def whitespace : Blanks := ⟨isWhitespace, by simp [isWhitespace]⟩

def jsWhitespace : Blanks := ⟨isJsWhitespace, by simp [isJsWhitespace, isWhitespace]⟩

/-- The same clause, the same count of active conditions, and errors on the same
conditions. -/
structure Agree (conditions : List TableFilterCondition) (schema : List TableFilterColumn) : Prop where
  clause : (buildTableFilterClause conditions schema).whereClause =
    (TableFilter.buildTableFilterClause conditions schema).whereClause
  count : (buildTableFilterClause conditions schema).activeCount =
    (TableFilter.buildTableFilterClause conditions schema).activeCount
  errors : ∀ condition ∈ conditions, (buildTableFilterClause [condition] schema).errors = [] ↔
    (TableFilter.buildTableFilterClause [condition] schema).errors = []

/-- Either both sides refuse the same conditions and there are some, or both read every
condition alike, and not more of them than can be counted. -/
def ReadAlike (conditions : List TableFilterCondition) (schema : List TableFilterColumn) : Prop :=
  (∀ condition ∈ conditions, preview.reading schema condition = .failed ↔ backend.reading schema condition = .failed) ∧
    ((∃ condition ∈ conditions, backend.reading schema condition = .failed) ∨
      (∀ condition ∈ conditions, preview.reading schema condition = backend.reading schema condition) ∧
        (meanings (backend.reading schema) conditions).length ≤ 4294967295)

section Clauses
variable {schema : List TableFilterColumn} {conditions : List TableFilterCondition}

theorem refused_alike (distinct : (schema.map (·.name)).Nodup) (condition : TableFilterCondition) :
    ((buildTableFilterClause [condition] schema).errors = [] ↔ (TableFilter.buildTableFilterClause [condition] schema).errors = []) ↔
      (preview.reading schema condition = .failed ↔ backend.reading schema condition = .failed) := by
  have front := (@clauseOf_fold schema _ id rfl _ [condition] fun condition _ => compileCondition_compiles distinct condition).1
  have back := (@clauseOf_fold schema _ saturatedCount rfl _ [condition] fun condition _ =>
    TableFilter.compileCondition_compiles schema condition).1
  rw [← build_clause, List.forall_mem_singleton] at front
  rw [← TableFilter.build_clause, List.forall_mem_singleton] at back
  rw [front, back]
  exact not_iff_not

/-- Where nothing is refused, the same meanings are those of the same conditions. -/
theorem readings_same (valid : ∀ condition ∈ conditions, preview.reading schema condition ≠ .failed)
    (valid' : ∀ condition ∈ conditions, backend.reading schema condition ≠ .failed)
    (same : (meanings (preview.reading schema) conditions).map Prod.fst = (meanings (backend.reading schema) conditions).map Prod.fst) :
    ∀ condition ∈ conditions, preview.reading schema condition = backend.reading schema condition := by
  have predicates (read : TableFilterCondition → Reading) :
      (meanings read conditions).map Prod.fst = conditions.filterMap fun condition => (read condition).predicate := by
    rw [meanings, List.map_filterMap]
    refine List.filterMap_congr fun condition _ => ?_
    rw [Option.map_map]
    exact Option.map_id'
  have ignored {reading : Reading} (valid : reading ≠ .failed) (missing : reading.predicate = none) : reading = .ignored := by
    cases reading with
    | ignored => rfl
    | failed => exact absurd rfl valid
    | means found => cases missing
  have means {reading : Reading} {found : SqlBoolean.Predicate} (present : reading.predicate = some found) : reading = .means found := by
    cases reading with
    | ignored | failed => cases present
    | means found =>
      obtain rfl := Option.some.inj present
      rfl
  rw [predicates, predicates] at same
  intro condition listed
  have coincide := filterMap_same
    (fun condition listed other _ found missing present foreign =>
      @reading_alien preview backend schema condition other found jsWhitespace isWhitespace (fun _ => rfl) (fun _ => rfl)
        (ignored (valid condition listed) missing) (means present) (means foreign))
    (fun condition listed other _ found missing present foreign =>
      @reading_alien backend preview schema condition other found whitespace isJsWhitespace (fun _ => rfl) (fun _ => rfl)
        (ignored (valid' condition listed) missing) (means present) (means foreign)) same condition listed
  cases reading : (preview.reading schema condition).predicate with
  | none =>
    rw [ignored (valid condition listed) reading, ignored (valid' condition listed) (coincide.symm.trans reading)]
  | some found => rw [means reading, means (coincide.symm.trans reading)]

/-- Preview and execution agree exactly where both sides read the conditions alike. -/
theorem clauses_agree (distinct : (schema.map (·.name)).Nodup) : Agree conditions schema ↔ ReadAlike conditions schema := by
  have front := @clauseOf_fold schema _ id rfl _ conditions fun condition _ => compileCondition_compiles distinct condition
  have back := @clauseOf_fold schema _ saturatedCount rfl _ conditions fun condition _ =>
    TableFilter.compileCondition_compiles schema condition
  rw [← build_clause] at front
  rw [← TableFilter.build_clause] at back
  obtain ⟨-, refused, accepted⟩ := front
  obtain ⟨-, refused', accepted'⟩ := back
  constructor
  · intro agree
    have failures : ∀ condition ∈ conditions, preview.reading schema condition = .failed ↔ backend.reading schema condition = .failed :=
      fun condition listed => (refused_alike distinct condition).mp (agree.errors condition listed)
    refine ⟨failures, Classical.or_iff_not_imp_left.mpr fun none_failed => ?_⟩
    push Not at none_failed
    have valid : ∀ condition ∈ conditions, preview.reading schema condition ≠ .failed :=
      fun condition listed failed => none_failed condition listed ((failures condition listed).mp failed)
    obtain ⟨parts, written, text, counted⟩ := accepted valid
    obtain ⟨parts', written', text', counted'⟩ := accepted' none_failed
    have same := meanings_of_clause written written' (text.symm.trans (agree.clause.trans text'))
    refine ⟨readings_same valid none_failed same, ?_⟩
    have lengths := congrArg List.length same
    rw [List.length_map, List.length_map] at lengths
    have counts := counted.symm.trans (agree.count.trans counted')
    rw [id_eq, lengths, saturatedCount] at counts
    split at counts
    next fits => exact fits
    next => omega
  · rintro ⟨failures, cases⟩
    have errors : ∀ condition ∈ conditions, (buildTableFilterClause [condition] schema).errors = [] ↔
        (TableFilter.buildTableFilterClause [condition] schema).errors = [] :=
      fun condition listed => (refused_alike distinct condition).mpr (failures condition listed)
    by_cases failed : ∃ condition ∈ conditions, backend.reading schema condition = .failed
    · obtain ⟨condition, listed, fails⟩ := failed
      obtain ⟨text, counted⟩ := refused ⟨condition, listed, (failures condition listed).mpr fails⟩
      obtain ⟨text', counted'⟩ := refused' ⟨condition, listed, fails⟩
      exact ⟨text.trans text'.symm, counted.trans counted'.symm, errors⟩
    · obtain ⟨alike, fits⟩ := cases.resolve_left failed
      push Not at failed
      have same : meanings (preview.reading schema) conditions = meanings (backend.reading schema) conditions :=
        List.filterMap_congr fun condition listed => by rw [alike condition listed]
      obtain ⟨parts, written, text, counted⟩ := accepted fun condition listed refuses =>
        failed condition listed ((alike condition listed).symm.trans refuses)
      obtain ⟨parts', written', text', counted'⟩ := accepted' failed
      rw [same] at written counted
      refine ⟨?_, ?_, errors⟩
      · rw [text, text', parts_of_meanings written written']
      · rw [counted, counted', saturatedCount, if_pos fits]
        rfl

end Clauses

/-- A value that only the backend takes for blank. -/
def nextLine : TableFilterCondition := ⟨"name", .equal, "\u0085", .and, true⟩

theorem nextLine_disagrees : ¬ Agree [nextLine] [⟨"name", "varchar(50)"⟩] := by
  intro agree
  have previewed : (buildTableFilterClause [nextLine] [⟨"name", "varchar(50)"⟩]).activeCount = 1 := by decide +kernel
  have executed : (TableFilter.buildTableFilterClause [nextLine] [⟨"name", "varchar(50)"⟩]).activeCount = 0 := by decide +kernel
  have counts := agree.count
  rw [previewed, executed] at counts
  cases counts

theorem meanings_length (read : TableFilterCondition → Reading) (conditions : List TableFilterCondition) :
    (meanings read conditions).length ≤ conditions.length := List.length_filterMap_le _ _

/-- A number and a list of texts are read alike. -/
theorem clauses_agree_numbers :
    Agree [⟨"id", .greaterOrEqual, " -1.5e3 ", .and, true⟩, ⟨"name", .in_, "a, b\\,c", .or, true⟩]
      [⟨"id", "bigint unsigned"⟩, ⟨"name", "varchar(50)"⟩] := by
  refine (clauses_agree (by decide)).mpr ⟨by decide +kernel, Or.inr ⟨by decide +kernel, ?_⟩⟩
  have few := meanings_length (backend.reading [⟨"id", "bigint unsigned"⟩, ⟨"name", "varchar(50)"⟩])
    [⟨"id", .greaterOrEqual, " -1.5e3 ", .and, true⟩, ⟨"name", .in_, "a, b\\,c", .or, true⟩]
  rw [List.length_cons, List.length_singleton] at few
  omega

end Pipa.TableSql
