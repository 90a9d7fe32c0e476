import Pipa.Library.Slots
import Pipa.Proofs.ColumnWords

/-! When preview and backend write the same definition of a column: a text that is the
same was written from the same pieces, so both recognised the same in the column. -/

namespace Pipa.TableSql
open Text ColumnPatterns Regex TableDdl Slots

-- what a pattern matches is never computed here
attribute [local irreducible] Regex.isMatch

/-- What a side recognises in a column, as it writes it. Name, nullability and comment
are written as they are. -/
structure Recognised where
  characterSet : Option String
  collation : Option String
  storage : Option String
  default : Option DefaultSql
  autoIncrement : Bool
  onUpdate : Option String
  invisible : Bool
deriving DecidableEq, Repr

/-- What the preview recognises. -/
def recognised (column : TableColumnDefinition) : Recognised :=
  let characterType := (typePrefix foldedClasses anyCase characterTypeNames).isMatch (trimmed column.columnType)
  { characterSet := if characterType then column.characterSet.filter (· ≠ "") else none
    collation := if characterType then column.collation.filter (· ≠ "") else none
    storage := if column.generationExpression ≠ "" then
      some (if (storedGenerated foldedClasses).isMatch column.extra.toList then "STORED" else "VIRTUAL") else none
    default := if column.generationExpression = "" then
      column.defaultValue.map fun value =>
        if column.defaultExpression then expressionDefault value else defaultLiteral value column.columnType
      else none
    autoIncrement := (autoIncrement foldedClasses).isMatch column.extra.toList
    onUpdate := (Regex.capture (onUpdatePrefix foldedClasses) (currentTimestampToken foldedClasses) column.extra.toList).map
      fun token => String.ofList (toUppercase token)
    invisible := (invisible foldedClasses).isMatch column.extra.toList }

/-- What the backend recognises. -/
def backendRecognised (tables : RegexTables) (column : TableColumnDefinition) : Recognised :=
  let characterType := (typePrefix tables.classes anyCase characterTypeNames).isMatch (TableDdl.trimmed column.columnType)
  { characterSet := if characterType then column.characterSet else none
    collation := if characterType then column.collation else none
    storage := if column.generationExpression ≠ "" then
      some (if (storedGenerated tables.classes).isMatch column.extra.toList then "STORED" else "VIRTUAL") else none
    default := if column.generationExpression = "" then
      column.defaultValue.map fun value =>
        if column.defaultExpression then TableDdl.expressionDefault tables value
        else TableDdl.defaultLiteral tables value column.columnType
      else none
    autoIncrement := (autoIncrement tables.classes).isMatch column.extra.toList
    onUpdate := (Regex.capture (onUpdatePrefix tables.classes) (currentTimestampToken tables.classes) column.extra.toList).map
      fun token => String.ofList (toUppercase token)
    invisible := (invisible tables.classes).isMatch column.extra.toList }

/-! ### Slots -/

/-- The pieces behind name and type, each of which may be missing. -/
def Recognised.slots (column : TableColumnDefinition) (seen : Recognised) : List (Option Piece) :=
  [seen.characterSet.map .characterSet, seen.collation.map .collate,
    seen.storage.map (.generated column.generationExpression), some (.nullability column.nullable), seen.default.map .default,
    if seen.autoIncrement then some .autoIncrement else none, seen.onUpdate.map .onUpdate,
    if seen.invisible then some .invisible else none, if column.comment ≠ "" then some (.comment column.comment) else none]

/-- A definition made of its name, a type and the slots that are filled. -/
def Recognised.pieces (column : TableColumnDefinition) (declaration : String) (seen : Recognised) : List Piece :=
  [.name column.name, .declaration (if declaration = "" then "VARCHAR(255)" else declaration)] ++ (seen.slots column).reduceOption

section Slots
variable {α β : Type} (condition : Prop) [Decidable condition]

theorem reduceOption_cons (slot : Option α) (slots : List (Option α)) :
    (slot :: slots).reduceOption = slot.toList ++ slots.reduceOption := by
  cases slot <;> simp

theorem ite_toList (option : Option α) :
    (if condition then option else none).toList = if condition then option.toList else [] := by
  split <;> rfl

theorem map_ite_nil (f : α → β) (items : List α) :
    (if condition then items else []).map f = if condition then items.map f else [] := by
  split <;> rfl

theorem ite_append (first second : List α) :
    (if condition then first ++ second else []) = (if condition then first else []) ++ if condition then second else [] := by
  split <;> rfl

end Slots

theorem columnPieces_recognised (column : TableColumnDefinition) :
    columnPieces column = (recognised column).pieces column (jsTrim column.columnType) := by
  unfold Recognised.pieces Recognised.slots recognised
  dsimp only
  simp only [reduceOption_cons, Option.toList_map, ite_toList, map_ite_nil,
    List.reduceOption_nil, List.append_nil, Option.toList_some, List.map_cons, List.map_nil, List.map_map]
  simp only [columnPieces, preservedExtraClauses, ite_append, List.append_assoc, trimmed, Function.comp_def]
  rfl

theorem backendPieces_recognised (tables : RegexTables) (column : TableColumnDefinition) :
    TableDdl.columnPieces tables column = (backendRecognised tables column).pieces column (trim column.columnType) := by
  unfold Recognised.pieces Recognised.slots backendRecognised
  dsimp only
  simp only [reduceOption_cons, Option.toList_map, ite_toList, map_ite_nil,
    List.reduceOption_nil, List.append_nil, Option.toList_some, List.map_cons, List.map_nil, List.map_map]
  simp only [TableDdl.columnPieces, TableDdl.preservedExtraClauses, ite_append, List.append_assoc, TableDdl.trimmed, Function.comp_def]
  rfl

/-- A piece and the blank behind it. -/
def pieceText (piece : Piece) : List Char := piece.sql.toList ++ [' ']

theorem joined_texts {pieces : List Piece} (nonempty : pieces ≠ []) :
    (" ".intercalate (pieces.map Piece.sql)).toList ++ [' '] = pieces.flatMap pieceText := by
  induction pieces with
  | nil => exact absurd rfl nonempty
  | cons piece pieces ih =>
    cases pieces with
    | nil => simp [pieceText]
    | cons next pieces =>
      have joined : (" ".intercalate ((piece :: next :: pieces).map Piece.sql)).toList =
          piece.sql.toList ++ [' '] ++ (" ".intercalate ((next :: pieces).map Piece.sql)).toList := by
        rw [List.map_cons, List.map_cons, String.intercalate_cons_cons, String.toList_append, String.toList_append]
        rfl
      rw [joined, List.flatMap_cons, List.append_assoc, ih (List.cons_ne_nil _ _), pieceText]

theorem written_slots (slots : List (Option Piece)) :
    written (slots.map (Option.map pieceText)) = slots.reduceOption.flatMap pieceText := by
  induction slots with
  | nil => rfl
  | cons slot slots ih =>
    rw [written] at ih ⊢
    cases slot with
    | none => simpa using ih
    | some piece => simpa using ih

/-! ### Defaults -/

/-- A default as one side renders it from a value and its trimmed text. -/
inductive Rendered (classes numbers : PatternClasses) (text : List Char) (value : String) : DefaultSql → Prop
  | timestamp (spells : Spells (currentTimestampToken classes) text) :
    Rendered classes numbers text value (.timestamp (String.ofList (toUppercase text)))
  | number (spells : Spells (number numbers) text) : Rendered classes numbers text value (.number (String.ofList text))
  | literal : Rendered classes numbers text value (.literal value)
  | expression : Rendered classes numbers text value (.expression value)

theorem timestamp_starts {classes : PatternClasses} {text : List Char} (spells : Spells (currentTimestampToken classes) text) :
    ∃ rest, toUppercase text = 'C' :: rest := by
  obtain ⟨name, more, named, -, rfl⟩ := spells_seq.mp spells
  have letters : "CURRENT_TIMESTAMP".toList = 'C' :: "URRENT_TIMESTAMP".toList := rfl
  have spelled := spells_spelled.mp named
  rw [letters] at spelled
  obtain ⟨c, rest, folded, -, rfl⟩ := List.forall₂_cons_left_iff.mp spelled
  refine ⟨toUppercase (rest ++ more), ?_⟩
  have upper : (if c = '\u017F' then 'S' else c.toUpper) = 'C' := by
    simp only [folds, Bool.or_eq_true, Bool.and_eq_true, beq_iff_eq] at folded
    rcases folded with (same | ⟨impossible, -⟩) | ⟨impossible, -⟩
    · have codes := congrArg Char.toNat same
      rw [toLower_toNat, toLower_toNat] at codes
      change (if 65 ≤ 67 ∧ 67 ≤ 90 then 67 + 32 else 67) = _ at codes
      have known : c.toNat = 67 ∨ c.toNat = 99 := by
        split at codes <;> split at codes <;> omega
      rcases known with known | known
      · obtain rfl : c = 'C' := Char.toNat_inj.mp known
        rfl
      · obtain rfl : c = 'c' := Char.toNat_inj.mp known
        rfl
    · exact absurd impossible (by decide)
    · exact absurd impossible (by decide)
  rw [List.cons_append, ColumnPatterns.toUppercase, List.map_cons, upper]
  rfl

theorem number_starts {numbers : PatternClasses} {text : List Char}
    (kept : ∀ c, numbers.digit c = true → isTrimmed c = false) (spells : Spells (number numbers) text) :
    ∃ c rest, text = c :: rest ∧ (c = '+' ∨ c = '-' ∨ c = '.' ∨ numbers.digit c = true) := by
  obtain ⟨c, rest, rfl⟩ := List.exists_cons_of_ne_nil (sturdy_number kept spells).nonempty
  have sign : ∀ c, (c == '+' || c == '-') = true → c = '+' ∨ c = '-' ∨ c = '.' ∨ numbers.digit c = true := by
    intro c same
    simp only [Bool.or_eq_true, beq_iff_eq] at same
    rcases same with same | same
    · exact Or.inl same
    · exact Or.inr (Or.inl same)
  have point : ∀ c, (c == '.') = true → c = '+' ∨ c = '-' ∨ c = '.' ∨ numbers.digit c = true :=
    fun c same => Or.inr (Or.inr (Or.inl (eq_of_beq same)))
  have digit : ∀ c, numbers.digit c = true → c = '+' ∨ c = '-' ∨ c = '.' ∨ numbers.digit c = true :=
    fun c digit => Or.inr (Or.inr (Or.inr digit))
  have inside : (number numbers).Within fun c => c = '+' ∨ c = '-' ∨ c = '.' ∨ numbers.digit c = true :=
    ⟨⟨sign, trivial⟩, ⟨⟨digit, digit⟩, ⟨point, digit⟩, trivial⟩, point, digit, digit⟩
  exact ⟨c, rest, rfl, spells.within inside c List.mem_cons_self⟩

theorem digit_kept (c : Char) (digit : c.isDigit = true) : isTrimmed c = false :=
  kept_foldedWord (by simp [isFoldedWord, isAsciiWord, Char.isAlphanum, digit])

/-- What a default begins with. -/
def DefaultHead (numbers : PatternClasses) : DefaultSql → Char → Prop
  | .timestamp _, c => c = 'C'
  | .number _, c => c ≠ 'C' ∧ c ≠ '\'' ∧ c ≠ '(' ∧ (c = '+' ∨ c = '-' ∨ c = '.' ∨ numbers.digit c = true)
  | .literal _, c => c = '\''
  | .expression _, c => c = '('

theorem Rendered.starts {classes numbers : PatternClasses} {text : List Char} {value : String} {default : DefaultSql}
    (rendered : Rendered classes numbers text value default)
    (digits : ∀ c, c.toNat < 128 → numbers.digit c = c.isDigit) (kept : ∀ c, numbers.digit c = true → isTrimmed c = false) :
    ∃ c rest, default.sql.toList = c :: rest ∧ DefaultHead numbers default c := by
  cases rendered with
  | timestamp spells =>
    obtain ⟨rest, upper⟩ := timestamp_starts spells
    exact ⟨'C', rest, by rw [DefaultSql.sql, upper, String.toList_ofList], rfl⟩
  | number spells =>
    obtain ⟨c, rest, rfl, kind⟩ := number_starts kept spells
    refine ⟨c, rest, by rw [DefaultSql.sql, String.toList_ofList], ?_, ?_, ?_, kind⟩
    all_goals
      rintro rfl
      simp [digits] at kind
  | literal =>
    refine ⟨'\'', (Text.replace '\'' "''" (Text.replace '\\' "\\\\" value)).toList ++ "'".toList, ?_, rfl⟩
    rw [DefaultSql.sql, mysqlStringLiteral, String.toList_append, String.toList_append]
    rfl
  | expression =>
    refine ⟨'(', value.toList ++ ")".toList, ?_, rfl⟩
    rw [DefaultSql.sql, String.toList_append, String.toList_append]
    rfl

/-- Two sides that trim a value to the same recognised text render the same default, or
defaults that begin apart. -/
theorem rendered_told (tables : RegexTables) {value : String} {front back : DefaultSql}
    (rendered : Rendered foldedClasses exactClasses (trimmed value) value front)
    (rendered' : Rendered tables.classes tables.classes (TableDdl.trimmed value) value back) :
    front = back ∨ Apart front.sql.toList back.sql.toList := by
  have kept := digit_kept
  have kept' : ∀ c, tables.digit c = true → isTrimmed c = false := fun c digit => backend_kept tables digit
  obtain ⟨c, rest, text, head⟩ := rendered.starts (fun _ _ => rfl) kept
  obtain ⟨c', rest', text', head'⟩ := rendered'.starts tables.digit_ascii kept'
  have apart (differ : c ≠ c') : front = back ∨ Apart front.sql.toList back.sql.toList := by
    rw [text, text']
    exact Or.inr (.of_heads differ rest rest')
  have same_text (sturdy : Sturdy (trimmed value)) (sturdy' : Sturdy (TableDdl.trimmed value)) :
      trimmed value = TableDdl.trimmed value := congrArg String.toList (trims_agree sturdy sturdy')
  cases rendered with
  | timestamp spells =>
    cases rendered' with
    | timestamp spells' =>
      rw [same_text (sturdy_currentTimestampToken kept spells) (sturdy_currentTimestampToken kept' spells')]
      exact Or.inl rfl
    | number => exact apart fun same => head'.1 (same.symm.trans head)
    | literal | expression => exact apart (by rw [head, head']; decide)
  | number spells =>
    cases rendered' with
    | timestamp => exact apart fun same => head.1 (same.trans head')
    | number spells' =>
      rw [same_text (sturdy_number kept spells) (sturdy_number kept' spells')]
      exact Or.inl rfl
    | literal => exact apart fun same => head.2.1 (same.trans head')
    | expression => exact apart fun same => head.2.2.1 (same.trans head')
  | literal =>
    cases rendered' with
    | literal => exact Or.inl rfl
    | number => exact apart fun same => head'.2.1 (same.symm.trans head)
    | timestamp | expression => exact apart (by rw [head, head']; decide)
  | expression =>
    cases rendered' with
    | expression => exact Or.inl rfl
    | number => exact apart fun same => head'.2.2.1 (same.symm.trans head)
    | timestamp | literal => exact apart (by rw [head, head']; decide)

/-! ### Definitions -/

/-- What two sides recognise in one column is the same or told apart, slot by slot. -/
structure Comparable (seen seen' : Recognised) : Prop where
  characterSet : ∀ a b, seen.characterSet = some a → seen'.characterSet = some b → a = b
  collation : ∀ a b, seen.collation = some a → seen'.collation = some b → a = b
  storage : ∀ a b, seen.storage = some a → seen'.storage = some b → a = b ∨ Apart a.toList b.toList
  default : ∀ a b, seen.default = some a → seen'.default = some b → a = b ∨ Apart a.sql.toList b.sql.toList
  onUpdate : ∀ a b, seen.onUpdate = some a → seen'.onUpdate = some b → ' ' ∉ a.toList ∧ ' ' ∉ b.toList

/-- A slot of two definitions, with what its pieces begin with. -/
def slotChoice (head : String) (front back : Option Piece) : Choice Char :=
  ⟨head.toList, front.map pieceText, back.map pieceText⟩

/-- A slot whose pieces begin with its head and are told apart behind it. -/
theorem slotChoice_proper {α : Type} {head : String} {front back : Option α} (piece : α → Piece) (tail : α → String)
    (nonempty : head.toList ≠ []) (sql : ∀ value, (piece value).sql = head ++ tail value)
    (told : ∀ a b, front = some a → back = some b →
      a = b ∨ Apart ((tail a).toList ++ [' ']) ((tail b).toList ++ [' '])) :
    (slotChoice head (front.map piece) (back.map piece)).Proper := by
  have text (value : α) : pieceText (piece value) = head.toList ++ ((tail value).toList ++ [' ']) := by
    rw [pieceText, sql, String.toList_append, List.append_assoc]
  have starts (slot : Option α) : ∀ text, (slot.map piece).map pieceText = some text → head.toList <+: text := by
    intro written same
    rw [Option.map_map] at same
    obtain ⟨value, -, rfl⟩ := Option.map_eq_some_iff.mp same
    exact ⟨_, (text value).symm⟩
  refine ⟨nonempty, starts front, starts back, fun written written' same same' => ?_⟩
  obtain ⟨_, first, rfl⟩ := Option.map_eq_some_iff.mp same
  obtain ⟨_, second, rfl⟩ := Option.map_eq_some_iff.mp same'
  obtain ⟨a, held, rfl⟩ := Option.map_eq_some_iff.mp first
  obtain ⟨b, held', rfl⟩ := Option.map_eq_some_iff.mp second
  rcases told a b held held' with rfl | apart
  · exact Or.inl rfl
  · rw [text, text]
    exact Or.inr (apart.behind head.toList)

/-- Slots that hold the same text were filled with the same. -/
theorem slot_same {α : Type} {head : String} {front back : Option α} {piece : α → Piece} (tail : α → String)
    (sql : ∀ value, (piece value).sql = head ++ tail value)
    (told : ∀ a b, front = some a → back = some b → a = b ∨ Apart ((tail a).toList ++ [' ']) ((tail b).toList ++ [' ']))
    (same : (slotChoice head (front.map piece) (back.map piece)).left =
      (slotChoice head (front.map piece) (back.map piece)).right) : front = back := by
  rw [slotChoice, Option.map_map, Option.map_map] at same
  cases left : front with
  | none =>
    rw [left] at same
    exact (Option.map_eq_none_iff.mp same.symm).symm
  | some a =>
    rw [left] at same
    obtain ⟨b, right, text⟩ := Option.map_eq_some_iff.mp same.symm
    rw [right]
    rcases told a b left right with rfl | apart
    · rfl
    · have texts : (tail b).toList ++ [' '] = (tail a).toList ++ [' '] := by
        simp only [Function.comp_apply, pieceText, sql, String.toList_append, List.append_assoc] at text
        exact List.append_cancel_left text
      exact absurd texts.symm apart.ne

/-- A flag as a slot. -/
def flag (raised : Bool) : Option Unit := if raised then some () else none

theorem flag_map (raised : Bool) (piece : Piece) : (flag raised).map (fun _ => piece) = if raised then some piece else none := by
  cases raised <;> rfl

theorem flag_inj {raised raised' : Bool} (same : flag raised = flag raised') : raised = raised' := by
  cases raised <;> cases raised' <;> simp_all [flag]

def commentText (column : TableColumnDefinition) : Option String := if column.comment ≠ "" then some column.comment else none

theorem commentText_map (column : TableColumnDefinition) :
    (commentText column).map Piece.comment = if column.comment ≠ "" then some (.comment column.comment) else none := by
  rw [commentText]
  split <;> rfl

/-- The slots of two definitions of a column. -/
def choices (column : TableColumnDefinition) (seen seen' : Recognised) : List (Choice Char) :=
  [slotChoice "CHARACTER SET " (seen.characterSet.map .characterSet) (seen'.characterSet.map .characterSet),
    slotChoice "COLLATE " (seen.collation.map .collate) (seen'.collation.map .collate),
    slotChoice "GENERATED ALWAYS AS (" (seen.storage.map (.generated column.generationExpression))
      (seen'.storage.map (.generated column.generationExpression)),
    slotChoice "N" ((some column.nullable).map .nullability) ((some column.nullable).map .nullability),
    slotChoice "DEFAULT " (seen.default.map .default) (seen'.default.map .default),
    slotChoice "AUTO_INCREMENT" ((flag seen.autoIncrement).map fun _ => .autoIncrement)
      ((flag seen'.autoIncrement).map fun _ => .autoIncrement),
    slotChoice "ON UPDATE " (seen.onUpdate.map .onUpdate) (seen'.onUpdate.map .onUpdate),
    slotChoice "INVISIBLE" ((flag seen.invisible).map fun _ => .invisible) ((flag seen'.invisible).map fun _ => .invisible),
    slotChoice "COMMENT " ((commentText column).map Piece.comment) ((commentText column).map Piece.comment)]

theorem choices_left (column : TableColumnDefinition) (seen seen' : Recognised) :
    (choices column seen seen').map Choice.left = (seen.slots column).map (Option.map pieceText) := by
  rw [Recognised.slots, ← flag_map, ← flag_map, ← commentText_map]
  rfl

theorem choices_right (column : TableColumnDefinition) (seen seen' : Recognised) :
    (choices column seen seen').map Choice.right = (seen'.slots column).map (Option.map pieceText) := by
  rw [Recognised.slots, ← flag_map, ← flag_map, ← commentText_map]
  rfl

theorem generated_sql (expression storage : String) :
    (Piece.generated expression storage).sql = "GENERATED ALWAYS AS (" ++ (expression ++ ") " ++ storage) := by
  change "GENERATED ALWAYS AS (" ++ expression ++ ") " ++ storage = _
  simp only [String.append_assoc]

section Told
variable {seen seen' : Recognised} (comparable : Comparable seen seen')
include comparable

theorem told_storage (expression : String) (a b : String) (held : seen.storage = some a) (held' : seen'.storage = some b) :
    a = b ∨ Apart ((expression ++ ") " ++ a).toList ++ [' ']) ((expression ++ ") " ++ b).toList ++ [' ']) := by
  rcases comparable.storage a b held held' with same | apart
  · exact Or.inl same
  · rw [String.toList_append, @String.toList_append _ b]
    exact Or.inr ((apart.behind _).append _ _)

theorem told_default (a b : DefaultSql) (held : seen.default = some a) (held' : seen'.default = some b) :
    a = b ∨ Apart (a.sql.toList ++ [' ']) (b.sql.toList ++ [' ']) :=
  (comparable.default a b held held').imp_right fun apart => apart.append _ _

theorem told_onUpdate (a b : String) (held : seen.onUpdate = some a) (held' : seen'.onUpdate = some b) :
    a = b ∨ Apart (a.toList ++ [' ']) (b.toList ++ [' ']) := by
  obtain ⟨absent, absent'⟩ := comparable.onUpdate a b held held'
  by_cases same : a = b
  · exact Or.inl same
  · exact Or.inr (apart_terminated absent absent' fun texts => same (String.toList_inj.mp texts))

theorem choices_proper (column : TableColumnDefinition) : ∀ choice ∈ choices column seen seen', choice.Proper := by
  simp only [choices, List.forall_mem_cons]
  refine ⟨?_, ?_, ?_, ?_, ?_, ?_, ?_, ?_, ?_, by simp⟩
  · exact slotChoice_proper .characterSet quoteIdentifier (by decide) (fun _ => rfl)
      fun a b held held' => Or.inl (comparable.characterSet a b held held')
  · exact slotChoice_proper .collate quoteIdentifier (by decide) (fun _ => rfl)
      fun a b held held' => Or.inl (comparable.collation a b held held')
  · exact slotChoice_proper (.generated column.generationExpression) (fun storage => column.generationExpression ++ ") " ++ storage)
      (by decide) (generated_sql _) (told_storage comparable _)
  · exact slotChoice_proper .nullability (fun nullable => if nullable then "ULL" else "OT NULL") (by decide)
      (by decide) fun a b held held' => Or.inl (Option.some.inj (held.symm.trans held'))
  · exact slotChoice_proper .default DefaultSql.sql (by decide) (fun _ => rfl) (told_default comparable)
  · exact slotChoice_proper (fun _ => .autoIncrement) (fun _ => "") (by decide) (fun _ => rfl) fun _ _ _ _ => Or.inl rfl
  · exact slotChoice_proper .onUpdate id (by decide) (fun _ => rfl) (told_onUpdate comparable)
  · exact slotChoice_proper (fun _ => .invisible) (fun _ => "") (by decide) (fun _ => rfl) fun _ _ _ _ => Or.inl rfl
  · exact slotChoice_proper .comment mysqlStringLiteral (by decide) (fun _ => rfl)
      fun a b held held' => Or.inl (Option.some.inj (held.symm.trans held'))

/-- Comparable sides that fill the slots with the same text recognised the same. -/
theorem recognised_of_slots {column : TableColumnDefinition}
    (same : written ((seen.slots column).map (Option.map pieceText)) = written ((seen'.slots column).map (Option.map pieceText))) :
    seen = seen' := by
  have heads : ["CHARACTER SET ".toList, "COLLATE ".toList, "GENERATED ALWAYS AS (".toList, "N".toList, "DEFAULT ".toList,
      "AUTO_INCREMENT".toList, "ON UPDATE ".toList, "INVISIBLE".toList, "COMMENT ".toList].Pairwise Apart := by decide
  rw [← choices_left column seen seen', ← choices_right column seen seen'] at same
  have agree := choices_of_written (choices_proper comparable column) (List.pairwise_map.mp heads) same
  simp only [choices, List.forall_mem_cons] at agree
  obtain ⟨characterSet, collation, storage, -, default, autoIncrement, onUpdate, invisible, -⟩ := agree
  have characterSets := slot_same quoteIdentifier (fun _ => rfl)
    (fun a b held held' => Or.inl (comparable.characterSet a b held held')) characterSet
  have collations := slot_same quoteIdentifier (fun _ => rfl)
    (fun a b held held' => Or.inl (comparable.collation a b held held')) collation
  have storages := slot_same _ (generated_sql _) (told_storage comparable _) storage
  have defaults := slot_same DefaultSql.sql (fun _ => rfl) (told_default comparable) default
  have onUpdates := slot_same id (fun _ => rfl) (told_onUpdate comparable) onUpdate
  have autoIncrements := flag_inj (slot_same (fun _ => "") (fun _ => rfl) (fun _ _ _ _ => Or.inl rfl) autoIncrement)
  have invisibles := flag_inj (slot_same (fun _ => "") (fun _ => rfl) (fun _ _ _ _ => Or.inl rfl) invisible)
  cases seen
  cases seen'
  rw [Recognised.mk.injEq]
  exact ⟨characterSets, collations, storages, defaults, autoIncrements, onUpdates, invisibles⟩

end Told

section Column
variable (tables : RegexTables) (column : TableColumnDefinition)

theorem rendered_front (value : String) :
    Rendered foldedClasses exactClasses (trimmed value) value
      (if column.defaultExpression then expressionDefault value else defaultLiteral value column.columnType) := by
  by_cases expression : column.defaultExpression = true
  · rw [if_pos expression, expressionDefault]
    by_cases current : isCurrentTimestamp value = true
    · rw [if_pos current]
      exact .timestamp (isMatch_anchored current)
    · rw [if_neg current]
      exact .expression
  · rw [if_neg expression, defaultLiteral]
    by_cases current : (typePrefix foldedClasses anyCase temporalDefaultTypeNames).isMatch (trimmed column.columnType) = true ∧
        isCurrentTimestamp value = true
    · rw [if_pos current]
      exact .timestamp (isMatch_anchored current.2)
    rw [if_neg current]
    by_cases numeric : numericType.isMatch (trimmed column.columnType) = true ∧
        (numericLiteral exactClasses).isMatch (trimmed value) = true
    · rw [if_pos numeric, ← @String.ofList_toList (jsTrim value)]
      exact .number (isMatch_anchored numeric.2)
    · rw [if_neg numeric]
      exact .literal

theorem rendered_back (value : String) :
    Rendered tables.classes tables.classes (TableDdl.trimmed value) value
      (if column.defaultExpression then TableDdl.expressionDefault tables value
        else TableDdl.defaultLiteral tables value column.columnType) := by
  by_cases expression : column.defaultExpression = true
  · rw [if_pos expression, TableDdl.expressionDefault]
    by_cases current : TableDdl.isCurrentTimestamp tables value = true
    · rw [if_pos current]
      exact .timestamp (isMatch_anchored current)
    · rw [if_neg current]
      exact .expression
  · rw [if_neg expression, TableDdl.defaultLiteral]
    by_cases current : (typePrefix tables.classes anyCase temporalDefaultTypeNames).isMatch
        (TableDdl.trimmed column.columnType) = true ∧ TableDdl.isCurrentTimestamp tables value = true
    · rw [if_pos current]
      exact .timestamp (isMatch_anchored current.2)
    rw [if_neg current]
    by_cases numeric : numericType.isMatch (TableDdl.trimmed column.columnType) = true ∧
        (numericLiteral tables.classes).isMatch (TableDdl.trimmed value) = true
    · rw [if_pos numeric, ← @String.ofList_toList (trim value)]
      exact .number (isMatch_anchored numeric.2)
    · rw [if_neg numeric]
      exact .literal

theorem toUppercase_blank {text : List Char} (kept : ∀ c ∈ text, isTrimmed c = false) : ' ' ∉ toUppercase text := by
  intro member
  obtain ⟨c, inside, upper⟩ := List.mem_map.mp member
  by_cases long : c = '\u017F'
  · rw [if_pos long] at upper
    exact absurd upper (by decide)
  rw [if_neg long] at upper
  have code := congrArg Char.toNat upper
  rw [toUpper_toNat] at code
  change _ = 32 at code
  have blank : c.toNat = 32 := by split at code <;> omega
  have trims := (trimmed_iff c).mpr (Or.inr (Or.inl blank))
  rw [kept c inside] at trims
  cases trims

theorem captured_blank {classes : PatternClasses} (kept : ∀ c, classes.digit c = true → isTrimmed c = false) {text : List Char}
    {written : String} (found : (Regex.capture (onUpdatePrefix classes) (currentTimestampToken classes) text).map
      (fun token => String.ofList (toUppercase token)) = some written) : ' ' ∉ written.toList := by
  obtain ⟨token, captured, rfl⟩ := Option.map_eq_some_iff.mp found
  rw [String.toList_ofList]
  exact toUppercase_blank (kept_currentTimestampToken kept (capture_spells captured))

theorem comparable : Comparable (recognised column) (backendRecognised tables column) where
  characterSet a b held held' := by
    have front := (Option.filter_eq_some_iff.mp (Option.ite_none_right_eq_some.mp held).2).1
    have back := (Option.ite_none_right_eq_some.mp held').2
    exact Option.some.inj (front.symm.trans back)
  collation a b held held' := by
    have front := (Option.filter_eq_some_iff.mp (Option.ite_none_right_eq_some.mp held).2).1
    have back := (Option.ite_none_right_eq_some.mp held').2
    exact Option.some.inj (front.symm.trans back)
  storage a b held held' := by
    obtain rfl := Option.some.inj (Option.ite_none_right_eq_some.mp held).2
    obtain rfl := Option.some.inj (Option.ite_none_right_eq_some.mp held').2
    split <;> split
    · exact Or.inl rfl
    · exact Or.inr (by decide)
    · exact Or.inr (by decide)
    · exact Or.inl rfl
  default a b held held' := by
    obtain ⟨value, given, rfl⟩ := Option.map_eq_some_iff.mp (Option.ite_none_right_eq_some.mp held).2
    obtain ⟨value', given', rfl⟩ := Option.map_eq_some_iff.mp (Option.ite_none_right_eq_some.mp held').2
    obtain rfl := Option.some.inj (given.symm.trans given')
    exact rendered_told tables (rendered_front column value) (rendered_back tables column value)
  onUpdate a b held held' :=
    ⟨captured_blank digit_kept held, captured_blank (fun _ digit => backend_kept tables digit) held'⟩

/-- Definitions of a column that both sides accept are the same text exactly if both
recognise the same in it. -/
theorem columnSql_same (valid : columnTypeValidationError column.columnType = none)
    (valid' : TableDdl.columnTypeValidationError tables column.columnType = none) :
    columnSql column = TableDdl.columnSql tables column ↔ recognised column = backendRecognised tables column := by
  have matched : (safeColumnType foldedClasses).isMatch (trimmed column.columnType) = true := by
    rw [columnTypeValidationError] at valid
    split at valid
    next matched => exact matched
    next => cases valid
  have matched' : (safeColumnType tables.classes).isMatch (TableDdl.trimmed column.columnType) = true := by
    rw [TableDdl.columnTypeValidationError] at valid'
    split at valid'
    next matched => exact matched
    next => cases valid'
  have declaration : jsTrim column.columnType = trim column.columnType :=
    trims_agree (sturdy_columnType (isMatch_anchored matched)) (sturdy_columnType (isMatch_anchored matched'))
  rw [columnSql, TableDdl.columnSql, columnPieces_recognised, backendPieces_recognised, declaration]
  constructor
  · intro same
    have texts := congrArg (fun text : String => text.toList ++ [' ']) same
    rw [joined_texts (by simp [Recognised.pieces]), joined_texts (by simp [Recognised.pieces]), Recognised.pieces, Recognised.pieces,
      List.flatMap_append, List.flatMap_append] at texts
    have slots := List.append_cancel_left texts
    rw [← written_slots, ← written_slots] at slots
    exact recognised_of_slots (comparable tables column) slots
  · intro same
    rw [same]

end Column

end Pipa.TableSql
