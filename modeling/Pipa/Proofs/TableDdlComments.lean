import Mathlib.Data.Finset.Insert
import Pipa.Library.SqlValues
import Pipa.Proofs.ColumnTypes
import Pipa.Proofs.TableSqlAgreement

/-! Comment-only edits. CHANGE COLUMN puts a whole definition in the place of the old one, so
what the rendered pieces do not say again is lost. -/

namespace Pipa.TableDdl
open Text ColumnPatterns Regex SqlLexer SqlValues SqlWriting TableSql

-- what a pattern matches is never computed here
attribute [local irreducible] Regex.isMatch

/-- The default that a server keeps. -/
inductive HeldDefault where
  | currentTimestamp (token : String)
  | number (text : String)
  | text (units : List Nat)
  | expression (text : String)
deriving DecidableEq

/-- A column as a server keeps it. -/
structure ColumnState where
  name : String
  declaration : String
  characterSet : Option String
  collation : Option String
  generated : Bool
  nullable : Bool
  default : Option HeldDefault
  autoIncrement : Bool
  onUpdate : Finset String
  invisible : Bool
  comment : String
deriving DecidableEq

def isAscii (text : String) : Bool := text.toList.all fun c => c.toNat < 128

section Definitions
variable (escapes : Bool)

/-- A default as a server reads it, in either mode of backslashes. Its numbers are ASCII. -/
def DefaultSql.read : DefaultSql → Option HeldDefault
  | .timestamp token => if isAscii token then some (.currentTimestamp token) else none
  | .number text => if isAscii text then some (.number text) else none
  | .literal value => (stringValue escapes (units (mysqlStringLiteral value))).map .text
  | .expression value => some (.expression value)

/-- What a piece says of a column. -/
def Piece.define (state : ColumnState) : Piece → Option ColumnState
  | .name identifier => some { state with name := identifier }
  | .declaration text => some { state with declaration := text }
  | .characterSet identifier => some { state with characterSet := some identifier }
  | .collate identifier => some { state with collation := some identifier }
  | .generated _ _ => some { state with generated := true }
  | .nullability nullable => some { state with nullable }
  | .default value => (value.read escapes).map fun held => { state with default := some held }
  | .autoIncrement => some { state with autoIncrement := true }
  | .onUpdate token => if isAscii token then some { state with onUpdate := {token} } else none
  | .invisible => some { state with invisible := true }
  | .comment text => some { state with comment := text }

/-- A column of which nothing is said. -/
def ColumnState.plain : ColumnState where
  name := ""
  declaration := ""
  characterSet := none
  collation := none
  generated := false
  nullable := true
  default := none
  autoIncrement := false
  onUpdate := ∅
  invisible := false
  comment := ""

/-- What a definition makes of a column, whatever the column was before. -/
def defined (pieces : List Piece) : Option ColumnState := pieces.foldlM (Piece.define escapes) .plain

end Definitions

section Catalog
variable (tables : RegexTables)

/-- The values that the EXTRA text says an update sets. -/
def onUpdateTokens (extra : String) : List String :=
  (occurrences (onUpdatePrefix tables.classes) (currentTimestampToken tables.classes) extra.toList).map
    fun token => String.ofList (toUppercase token)

/-- The default is the current timestamp: an expression, or the token as a temporal type has it. -/
def IsTimestampDefault (column : TableColumnDefinition) (value : String) : Prop :=
  isCurrentTimestamp tables value = true ∧
    (column.defaultExpression = true ∨ isType temporalDefaultTypeNames (trimmed column.columnType) = true)

instance (column : TableColumnDefinition) (value : String) : Decidable (IsTimestampDefault tables column value) :=
  inferInstanceAs (Decidable (_ ∧ _))

/-- The default of a numeric type looks like a number. -/
def IsNumberDefault (column : TableColumnDefinition) (value : String) : Prop :=
  isType numericTypeNames (trimmed column.columnType) = true ∧ (numericLiteral tables.classes).isMatch (trimmed value) = true

instance (column : TableColumnDefinition) (value : String) : Decidable (IsNumberDefault tables column value) :=
  inferInstanceAs (Decidable (_ ∧ _))

def heldDefault (column : TableColumnDefinition) (value : String) : HeldDefault :=
  if IsTimestampDefault tables column value then .currentTimestamp (timestampToken value)
  else if column.defaultExpression = true then .expression value
  else if IsNumberDefault tables column value ∧ isAscii (trim value) = true then .number (trim value)
  else .text (units value)

/-- The column that a row of the catalog describes. -/
def held (column : TableColumnDefinition) : ColumnState where
  name := column.name
  declaration := trim column.columnType
  characterSet := column.characterSet
  collation := column.collation
  generated := column.generationExpression ≠ "" || (generatedStorage tables.classes).isMatch column.extra.toList
  nullable := column.nullable
  default := column.defaultValue.map (heldDefault tables column)
  autoIncrement := (autoIncrement tables.classes).isMatch column.extra.toList
  onUpdate := (onUpdateTokens tables column.extra).toFinset
  invisible := (invisible tables.classes).isMatch column.extra.toList
  comment := column.comment

/-- The default of a column is said again. -/
def RestatableDefault (escapes : Bool) (column : TableColumnDefinition) (value : String) : Prop :=
  if IsTimestampDefault tables column value then isAscii (timestampToken value) = true
  else if IsNumberDefault tables column value then isAscii (trim value) = true
  else escapes = true ∨ '\\' ∉ value.toList

/-- A column of which everything is said again: only a character type has a character set or a
collation, EXTRA does not call it generated and has one value to set on updates, and no default
is read as another one. -/
structure Restatable (escapes : Bool) (column : TableColumnDefinition) : Prop where
  characterSet : isType characterTypeNames (trimmed column.columnType) = true ∨ column.characterSet = none ∧ column.collation = none
  generated : (generatedStorage tables.classes).isMatch column.extra.toList = false
  onUpdate : ∀ token ∈ onUpdateTokens tables column.extra,
    isAscii token = true ∧ ∀ other ∈ onUpdateTokens tables column.extra, other = token
  default : ∀ value, column.defaultValue = some value → RestatableDefault tables escapes column value

/-- The clauses of EXTRA that are no obstacle to an edit. -/
def knownClauses : List Regex :=
  [defaultGenerated tables.classes, autoIncrement tables.classes, generatedStorage tables.classes,
    invisible tables.classes, knownOnUpdate tables]

end Catalog

/-! ### What pieces define -/

section Pieces
variable {escapes : Bool}

def readDefault (escapes : Bool) : Option DefaultSql → Option (Option HeldDefault)
  | none => some none
  | some value => (value.read escapes).map some

def readOnUpdate : Option String → Option (Finset String)
  | none => some ∅
  | some token => if isAscii token then some {token} else none

/-- A slot that sets a field, or leaves it as it is. -/
theorem slot_sets {α : Type} (slot : Option α) {piece : α → Piece} {state : ColumnState} (after : Option α → ColumnState)
    (defines : ∀ value, (piece value).define escapes state = some (after (some value))) (keeps : after none = state)
    (slots : List (Option Piece)) :
    (slot.map piece :: slots).reduceOption.foldlM (Piece.define escapes) state =
      slots.reduceOption.foldlM (Piece.define escapes) (after slot) := by
  rw [reduceOption_cons, List.foldlM_append]
  cases slot with
  | none =>
    rw [keeps]
    rfl
  | some value =>
    rw [Option.map_some, Option.toList_some, List.foldlM_cons, defines value]
    rfl

theorem flag_sets (raised : Bool) {piece : Piece} {state : ColumnState} (after : Bool → ColumnState)
    (defines : piece.define escapes state = some (after true)) (keeps : after false = state) (slots : List (Option Piece)) :
    ((if raised = true then some piece else none) :: slots).reduceOption.foldlM (Piece.define escapes) state =
      slots.reduceOption.foldlM (Piece.define escapes) (after raised) := by
  cases raised with
  | false => exact slot_sets none (fun value : Option Unit => after value.isSome) (fun _ => defines) keeps slots
  | true => exact slot_sets (some ()) (fun value : Option Unit => after value.isSome) (fun _ => defines) keeps slots

/-- A slot whose piece is read, or cannot be. -/
theorem slot_reads {α β : Type} {slot : Option α} {piece : α → Piece} {state : ColumnState} (read : Option β)
    (after : β → ColumnState) (absent : slot = none → ∃ value, read = some value ∧ after value = state)
    (present : ∀ value, slot = some value → (piece value).define escapes state = read.map after) (slots : List (Option Piece)) :
    (slot.map piece :: slots).reduceOption.foldlM (Piece.define escapes) state =
      read.bind fun value => slots.reduceOption.foldlM (Piece.define escapes) (after value) := by
  rw [reduceOption_cons, List.foldlM_append]
  cases known : slot with
  | none =>
    obtain ⟨value, same, keeps⟩ := absent known
    rw [same, ← keeps]
    rfl
  | some value =>
    rw [Option.map_some, Option.toList_some, List.foldlM_cons, present value known]
    cases read <;> rfl

theorem comment_sets (column : TableColumnDefinition) {state : ColumnState} (after : String → ColumnState)
    (defines : ∀ text, (Piece.comment text).define escapes state = some (after text)) (keeps : after "" = state) :
    [if column.comment ≠ "" then some (Piece.comment column.comment) else none].reduceOption.foldlM (Piece.define escapes) state =
      some (after column.comment) := by
  split
  · exact slot_sets (some column.comment) (fun value => value.elim (after "") after) (fun text => defines text) keeps []
  case isFalse empty =>
    rw [not_not.mp empty, keeps]
    rfl

/-- The definition of what was recognised in a column. -/
theorem defined_recognised (seen : Recognised) (column : TableColumnDefinition) {declaration : String} (given : declaration ≠ "") :
    defined escapes (seen.pieces column declaration) =
      (readDefault escapes seen.default).bind fun default => (readOnUpdate seen.onUpdate).bind fun onUpdate =>
        some
          { name := column.name
            declaration
            characterSet := seen.characterSet
            collation := seen.collation
            generated := seen.storage.isSome
            nullable := column.nullable
            default
            autoIncrement := seen.autoIncrement
            onUpdate
            invisible := seen.invisible
            comment := column.comment } := by
  rw [defined, Recognised.pieces, if_neg given, List.foldlM_append]
  let state := ColumnState.mk column.name declaration
  change List.foldlM (Piece.define escapes) (state none none false true none false ∅ false "") (seen.slots column).reduceOption = _
  refine (slot_sets seen.characterSet (fun value => state value none false true none false ∅ false "")
    (fun _ => rfl) rfl _).trans ?_
  refine (slot_sets seen.collation (fun value => state seen.characterSet value false true none false ∅ false "")
    (fun _ => rfl) rfl _).trans ?_
  let typed := state seen.characterSet seen.collation
  refine (slot_sets seen.storage (fun value => typed value.isSome true none false ∅ false "") (fun _ => rfl) rfl _).trans ?_
  refine (slot_sets (some column.nullable) (fun value => typed seen.storage.isSome (value.getD true) none false ∅ false "")
    (fun _ => rfl) rfl _).trans ?_
  let given := typed seen.storage.isSome column.nullable
  refine (slot_reads (readDefault escapes seen.default) (fun default => given default false ∅ false "")
    (fun absent => ⟨none, by rw [absent]; rfl, rfl⟩) (fun value present => ?_) _).trans ?_
  · show (value.read escapes).map _ = _
    rw [present, readDefault, Option.map_map]
    rfl
  congr 1
  funext default
  refine (flag_sets seen.autoIncrement (fun raised => given default raised ∅ false "") rfl rfl _).trans ?_
  refine (slot_reads (readOnUpdate seen.onUpdate) (fun onUpdate => given default seen.autoIncrement onUpdate false "")
    (fun absent => ⟨∅, by rw [absent]; rfl, rfl⟩) (fun token present => ?_) _).trans ?_
  · show (if isAscii token = true then _ else none) = _
    rw [present, readOnUpdate]
    split <;> rfl
  congr 1
  funext onUpdate
  refine (flag_sets seen.invisible (fun raised => given default seen.autoIncrement onUpdate raised "") rfl rfl _).trans ?_
  exact comment_sets column (given default seen.autoIncrement onUpdate seen.invisible) (fun _ => rfl) rfl

end Pieces

/-! ### What the pieces of an editable column define -/

section Editable
variable {tables : RegexTables} {escapes : Bool} {column : TableColumnDefinition}

theorem editable_facts (editable : isStructureColumnEditable tables column = true) :
    column.generationExpression = "" ∧
      (column.defaultExpression = true → ∀ value, column.defaultValue = some value → isCurrentTimestamp tables value = true) ∧
      (∀ c ∈ unknownExtra tables column.extra, isWhitespace c = true) ∧
      columnTypeValidationError tables column.columnType = none := by
  rw [isStructureColumnEditable] at editable
  split at editable
  · cases editable
  case isFalse unlocked =>
    obtain ⟨-, plain, -, current⟩ : _ ∧ column.generationExpression = "" ∧ _ ∧
        ¬(column.defaultExpression = true ∧ isCurrentTimestampExpression tables column.defaultValue = false) := by
      simpa only [not_or, not_not] using unlocked
    obtain ⟨known, valid⟩ := Bool.and_eq_true_iff.mp editable
    refine ⟨plain, ?_, ?_, Option.isNone_iff_eq_none.mp valid⟩
    · intro expression value given
      cases timestamp : isCurrentTimestamp tables value with
      | true => rfl
      | false => exact absurd ⟨expression, by rw [given, isCurrentTimestampExpression, Option.any_some, timestamp]⟩ current
    · have blank := trimMatches_empty_iff.mp (of_decide_eq_true known)
      rw [String.toList_ofList] at blank
      exact blank

theorem valid_spells (valid : columnTypeValidationError tables column.columnType = none) :
    Spells (columnType tables.classes) (trimmed column.columnType) := by
  rw [columnTypeValidationError] at valid
  split at valid
  case isTrue safe => exact isMatch_anchored safe
  case isFalse => cases valid

/-- A default as it is rendered. -/
theorem rendered_default (valid : columnTypeValidationError tables column.columnType = none) {value : String}
    (current : column.defaultExpression = true → isCurrentTimestamp tables value = true) :
    (if column.defaultExpression then expressionDefault tables value else defaultLiteral tables value column.columnType) =
      if IsTimestampDefault tables column value then .timestamp (timestampToken value)
      else if IsNumberDefault tables column value then .number (trim value)
      else .literal value := by
  have spells := valid_spells valid
  by_cases expression : column.defaultExpression = true
  · rw [if_pos expression, expressionDefault, if_pos (current expression), if_pos ⟨current expression, .inl expression⟩]
  · have temporal : IsTimestampDefault tables column value ↔
        isType temporalDefaultTypeNames (trimmed column.columnType) = true ∧ isCurrentTimestamp tables value = true := by
      rw [IsTimestampDefault, or_iff_right expression, and_comm]
    rw [if_neg expression, defaultLiteral, typePrefix_iff (by decide) spells, numericType_iff spells]
    by_cases timestamp : IsTimestampDefault tables column value
    · rw [if_pos timestamp, if_pos (temporal.mp timestamp)]
    · rw [if_neg timestamp, if_neg (mt temporal.mpr timestamp)]
      rfl

/-- A default is read as the one that is held exactly if it can be said again. -/
theorem read_default_iff (current : column.defaultExpression = true → ∀ value, column.defaultValue = some value →
      isCurrentTimestamp tables value = true) {value : String} (given : column.defaultValue = some value) :
    DefaultSql.read escapes (if IsTimestampDefault tables column value then .timestamp (timestampToken value)
      else if IsNumberDefault tables column value then .number (trim value) else .literal value) =
        some (heldDefault tables column value) ↔ RestatableDefault tables escapes column value := by
  rw [heldDefault, RestatableDefault]
  by_cases timestamp : IsTimestampDefault tables column value
  · simp only [if_pos timestamp, DefaultSql.read, Option.ite_none_right_eq_some, and_true]
  · have literal : ¬column.defaultExpression = true := fun expression =>
      timestamp ⟨current expression value given, .inl expression⟩
    simp only [if_neg timestamp, if_neg literal]
    by_cases number : IsNumberDefault tables column value
    · rw [if_pos number, if_pos number, DefaultSql.read]
      by_cases ascii : isAscii (trim value) = true
      · rw [if_pos ascii, if_pos ⟨number, ascii⟩]
        exact iff_of_true rfl ascii
      · rw [if_neg ascii]
        exact iff_of_false (fun same => by cases same) ascii
    · rw [if_neg number, if_neg number, if_neg fun both => number both.1, DefaultSql.read]
      rw [mysqlStringLiteral_units, Option.map_eq_some_iff]
      simp only [HeldDefault.text.injEq, exists_eq_right]
      have backslash : '\\' ∉ value.toList ↔ 92 ∉ units value := by
        rw [units, List.mem_map]
        constructor
        · intro absent found
          obtain ⟨c, member, same⟩ := found
          obtain rfl : c = '\\' := Char.toNat_inj.mp same
          exact absent member
        · intro absent member
          exact absent ⟨_, member, rfl⟩
      cases escapes with
      | true => exact iff_of_true (stringValue_escapes _) (.inl rfl)
      | false => rw [stringValue_plain_iff, backslash, or_iff_right Bool.false_ne_true]

theorem readDefault_iff (valid : columnTypeValidationError tables column.columnType = none)
    (current : column.defaultExpression = true → ∀ value, column.defaultValue = some value →
      isCurrentTimestamp tables value = true) :
    readDefault escapes (column.defaultValue.map fun value =>
      if column.defaultExpression then expressionDefault tables value else defaultLiteral tables value column.columnType) =
        some (column.defaultValue.map (heldDefault tables column)) ↔
      ∀ value, column.defaultValue = some value → RestatableDefault tables escapes column value := by
  cases given : column.defaultValue with
  | none => exact iff_of_true rfl fun _ => nofun
  | some value =>
    rw [Option.map_some, Option.map_some, readDefault,
      rendered_default valid fun expression => current expression value given, Option.map_eq_some_iff]
    simp only [Option.some.injEq, exists_eq_right, forall_eq']
    exact read_default_iff current given

/-- One token is said again, which is all if they agree. -/
theorem readOnUpdate_iff (tokens : List String) :
    readOnUpdate tokens.head? = some tokens.toFinset ↔
      ∀ token ∈ tokens, isAscii token = true ∧ ∀ other ∈ tokens, other = token := by
  cases tokens with
  | nil => exact iff_of_true rfl fun _ => nofun
  | cons first rest =>
    rw [List.head?_cons, readOnUpdate, Option.ite_none_right_eq_some, Option.some.injEq]
    constructor
    · intro ⟨ascii, same⟩ token member
      have only : ∀ other ∈ first :: rest, other = first := by
        intro other listed
        rw [← List.mem_toFinset, ← same] at listed
        exact Finset.mem_singleton.mp listed
      rw [only token member]
      exact ⟨ascii, only⟩
    · intro agree
      obtain ⟨ascii, only⟩ := agree first List.mem_cons_self
      refine ⟨ascii, ?_⟩
      ext other
      rw [Finset.mem_singleton, List.mem_toFinset]
      exact ⟨fun same => same ▸ List.mem_cons_self, only other⟩

theorem declaration_given (valid : columnTypeValidationError tables column.columnType = none) : trim column.columnType ≠ "" := by
  intro empty
  obtain ⟨word, rest, whole, ⟨name, known, named⟩, -⟩ := columnType_splits (valid_spells valid)
  rw [trimmed, empty] at whole
  have proper : ∀ name ∈ typeNames, isPatternName name = true := by decide
  exact anyCase_nonempty (patternName_nonempty (proper name known)) named (List.append_eq_nil_iff.mp whole.symm).1

theorem ite_same_iff {α : Type} {condition : Prop} [Decidable condition] {option : Option α} :
    (if condition then option else none) = option ↔ condition ∨ option = none := by
  by_cases holds : condition
  · rw [if_pos holds]
    exact iff_of_true rfl (.inl holds)
  · rw [if_neg holds, or_iff_right holds]
    exact eq_comm

/-- The pieces of an editable column define the column itself exactly if it can be said again. -/
theorem defined_columnPieces_iff (editable : isStructureColumnEditable tables column = true) (comment : String) :
    defined escapes (columnPieces tables { column with comment }) = some { held tables column with comment } ↔
      Restatable tables escapes column := by
  obtain ⟨plain, current, -, valid⟩ := editable_facts editable
  have tokens : (backendRecognised tables { column with comment }).onUpdate = (onUpdateTokens tables column.extra).head? := by
    rw [onUpdateTokens, List.head?_map, ← capture_eq_head?]
    rfl
  have default : (backendRecognised tables { column with comment }).default = column.defaultValue.map fun value =>
      if column.defaultExpression then expressionDefault tables value else defaultLiteral tables value column.columnType :=
    if_pos plain
  have storage : (backendRecognised tables { column with comment }).storage = none := if_neg (not_not.mpr plain)
  have characterSet : (backendRecognised tables { column with comment }).characterSet =
      if isType characterTypeNames (trimmed column.columnType) = true then column.characterSet else none := by
    rw [← typePrefix_iff (by decide) (valid_spells valid)]
    rfl
  have collation : (backendRecognised tables { column with comment }).collation =
      if isType characterTypeNames (trimmed column.columnType) = true then column.collation else none := by
    rw [← typePrefix_iff (by decide) (valid_spells valid)]
    rfl
  rw [backendPieces_recognised, defined_recognised _ _ (declaration_given valid), default, tokens, storage, characterSet, collation]
  simp only [Option.bind_eq_some_iff, Option.some.injEq, held, ColumnState.mk.injEq, true_and, ite_same_iff]
  have generated : (false = (decide (column.generationExpression ≠ "") ||
      (generatedStorage tables.classes).isMatch column.extra.toList)) ↔
        (generatedStorage tables.classes).isMatch column.extra.toList = false := by
    rw [plain]
    exact eq_comm
  constructor
  · intro same
    obtain ⟨read, reads, onUpdate, updates, sets, collates, stored, sameDefault, -, sameUpdate, -⟩ := same
    rw [sameDefault] at reads
    rw [sameUpdate] at updates
    refine ⟨?_, generated.mp stored, (readOnUpdate_iff _).mp updates, (readDefault_iff valid current).mp reads⟩
    obtain holds | absent := sets
    · exact .inl holds
    · exact collates.imp_right fun absent' => ⟨absent, absent'⟩
  · intro restatable
    refine ⟨_, (readDefault_iff valid current).mpr restatable.default, _, (readOnUpdate_iff _).mpr restatable.onUpdate,
      restatable.characterSet.imp_right And.left, restatable.characterSet.imp_right And.right,
      generated.mpr restatable.generated, rfl, rfl, rfl, rfl, trivial⟩

/-- A comment-only edit of an editable column is compiled to a CHANGE COLUMN of its pieces. EXTRA
holds nothing but known clauses, and the pieces say everything again, in the server's mode of
backslashes, exactly if the column is restatable. -/
theorem commentEdit_restates_iff (escapes : Bool) (database table comment : String)
    {originalColumns draftColumns : List TableColumnDefinition} {original : TableColumnDefinition}
    (edited : { original with comment } ∈ draftColumns) (found : sourceOf originalColumns { original with comment } = some original)
    (different : comment ≠ original.comment) (editable : isStructureColumnEditable tables original = true) :
    "ALTER TABLE " ++ target database table ++ " CHANGE COLUMN " ++ quoteIdentifier original.name ++ " " ++
        " ".intercalate ((columnPieces tables { original with comment }).map Piece.sql) ++ ";" ∈
      (buildTableDdlPlan tables database table originalColumns draftColumns).statements ∧
    (∃ blank, LeavesAll (knownClauses tables) original.extra.toList blank ∧ ∀ c ∈ blank, isWhitespace c = true) ∧
    (defined escapes (columnPieces tables { original with comment }) = some { held tables original with comment } ↔
      Restatable tables escapes original) := by
  obtain ⟨-, -, blank, valid⟩ := editable_facts editable
  refine ⟨?_, ⟨_, foldl_removeAll_leaves (knownClauses tables) original.extra.toList, blank⟩,
    defined_columnPieces_iff editable comment⟩
  obtain ⟨source, -⟩ := sourceOf_name found
  have changed : sameColumn original { original with comment } = false := by
    simp [sameColumn, different.symm]
  have executes : Executes tables originalColumns { original with comment } :=
    ⟨valid, .inr ⟨original, found, changed, editable⟩⟩
  have action : actionOf { original with comment } = .changeColumn original.name { original with comment } := by
    rw [actionOf, source]
  have accepted := (draftAction_executes tables originalColumns { original with comment } _).mpr ⟨executes, action⟩
  apply List.mem_map.mpr
  refine ⟨.changeColumn original.name { original with comment }, ?_, rfl⟩
  exact List.mem_append_right _ (List.mem_filterMap.mpr ⟨_, edited, accepted⟩)

end Editable

/-- A column that updates stamp. -/
def stampedColumn : TableColumnDefinition :=
  { intColumn (some "at") "at" with
    columnType := "timestamp(3)"
    defaultValue := some "CURRENT_TIMESTAMP(3)"
    defaultExpression := true
    extra := "DEFAULT_GENERATED on update CURRENT_TIMESTAMP(3)" }

theorem commentEdit_restates_stamped :
    defined false (columnPieces asciiTables { stampedColumn with comment := "last edit" }) =
      some { held asciiTables stampedColumn with comment := "last edit" } := by
  obtain ⟨-, -, restates⟩ := @commentEdit_restates_iff asciiTables false "shop" "items" "last edit" _ _ _
    (List.mem_singleton_self { stampedColumn with comment := "last edit" })
    (show sourceOf [stampedColumn] { stampedColumn with comment := "last edit" } = some stampedColumn by decide) (by decide)
    (by decide +kernel)
  apply restates.mpr
  have tokens : onUpdateTokens asciiTables stampedColumn.extra = ["CURRENT_TIMESTAMP(3)"] := by decide +kernel
  refine ⟨.inr ⟨rfl, rfl⟩, by decide +kernel, ?_, ?_⟩
  · rw [tokens]
    decide
  · intro value given
    obtain rfl := Option.some.inj given
    rw [RestatableDefault, if_pos (by decide +kernel)]
    decide +kernel

/-- A column that EXTRA calls generated although it has no expression is editable; its clause is lost. -/
theorem commentEdit_drops_generated :
    ¬∀ (escapes : Bool) (original : TableColumnDefinition) (comment : String), comment ≠ original.comment →
      isStructureColumnEditable asciiTables original = true →
      defined escapes (columnPieces asciiTables { original with comment }) = some { held asciiTables original with comment } := by
  intro restates
  let original : TableColumnDefinition := { intColumn (some "total") "total" with extra := "VIRTUAL GENERATED" }
  have same := restates true original "net" (by decide) (by decide +kernel)
  have generated := congrArg (Option.map ColumnState.generated) same
  have lost : (defined true (columnPieces asciiTables { original with comment := "net" })).map ColumnState.generated = some false := by
    decide +kernel
  have present : (held asciiTables original).generated = true := by decide +kernel
  rw [lost, Option.map_some] at generated
  exact absurd (Option.some.inj generated).symm (by rw [present]; decide)

end Pipa.TableDdl
