import Pipa.Proofs.TableDdlOrder
import Pipa.Proofs.TableDdlPieces

/-! What a server reads of each statement of a plan: one action on the given table, as
long as no expression of a draft is written as it stands. -/

namespace Pipa.TableDdl
open SqlLexer SqlWriting Text ColumnPatterns Regex

-- what a pattern matches is never computed here
attribute [local irreducible] Regex.isMatch

variable (tables : RegexTables) (rules : Rules)

def keywords (names : List String) : List Token := names.map keyword

/-- A name in quotes. -/
def quotedToken (name : String) : Token := .quoted (columnText (units name))

/-- A string literal with this value. -/
def stringToken (value : String) : Token := .string (stringText (units value))

/-- The current timestamp, perhaps with a precision, in upper case. -/
def TimestampText (token : String) : Prop :=
  ∃ value, Spells (currentTimestampToken tables.classes) value ∧ token = String.ofList (toUppercase value)

/-- A default is held by a literal, or it is a timestamp or a number. -/
def DefaultSql.Held : DefaultSql → List Token → Prop
  | .timestamp token, read => TimestampText tables token ∧ tokens rules (units token) = some read
  | .number text, read => (numericLiteral tables.classes).isMatch text.toList = true ∧ tokens rules (units text) = some read
  | .literal value, read => read = [stringToken value]
  | .expression _, _ => False

/-- How a piece is read when it holds what a draft says: names and texts in quotes, and
otherwise only what was matched. -/
def Piece.Held : Piece → List Token → Prop
  | .name identifier, read => read = [quotedToken identifier]
  | .declaration text, read =>
    (safeColumnType tables.classes).isMatch text.toList = true ∧ tokens rules (units text) = some read
  | .characterSet identifier, read => read = keywords ["CHARACTER", "SET"] ++ [quotedToken identifier]
  | .collate identifier, read => read = keywords ["COLLATE"] ++ [quotedToken identifier]
  | .generated _ _, _ => False
  | .nullability nullable, read => read = keywords (if nullable then ["NULL"] else ["NOT", "NULL"])
  | .default value, read => ∃ inner, value.Held tables rules inner ∧ read = keywords ["DEFAULT"] ++ inner
  | .autoIncrement, read => read = keywords ["AUTO_INCREMENT"]
  | .onUpdate token, read =>
    ∃ inner, TimestampText tables token ∧ tokens rules (units token) = some inner ∧ read = keywords ["ON", "UPDATE"] ++ inner
  | .invisible, read => read = keywords ["INVISIBLE"]
  | .comment text, read => read = keywords ["COMMENT"] ++ [stringToken text]

/-- What an action does, and the names it says in front of a definition. -/
def DdlAction.heading : DdlAction → List Token
  | .dropColumn name => keywords ["DROP", "COLUMN"] ++ [quotedToken name]
  | .addColumn _ => keywords ["ADD", "COLUMN"]
  | .changeColumn sourceName _ => keywords ["CHANGE", "COLUMN"] ++ [quotedToken sourceName]

def DdlAction.pieces : DdlAction → List Piece
  | .dropColumn _ => []
  | .addColumn column | .changeColumn _ column => columnPieces tables column

/-- A statement is read as one action on the table: its pieces hold what the draft says,
no comma outside parentheses adds another action, and no semicolon ends it early. -/
def Structural (database table : String) (action : DdlAction) (statement : String) : Prop :=
  ∃ reads, List.Forall₂ (Piece.Held tables rules) (action.pieces tables) reads ∧ Single reads.flatten ∧
    tokens rules (units statement) = some (keywords ["ALTER", "TABLE"] ++
      [quotedToken database, .symbol 46, quotedToken table] ++ action.heading ++ reads.flatten ++ [.symbol 59])

/-! ### Pieces -/

/-- A piece that is read before a gap, as it should be, and as a part of one action. -/
structure Piece.Reads (piece : Piece) (read : List Token) : Prop where
  reads : ReadsBefore rules isGap (units piece.sql) read
  held : piece.Held tables rules read
  single : Single read

section Pieces
variable {tables rules}

theorem single_keywords (names : List String) : Single (keywords names) := by
  have unmarked : marks (keywords names) = [] := by
    refine List.filterMap_eq_nil_iff.mpr fun token member => ?_
    obtain ⟨name, -, rfl⟩ := List.mem_map.mp member
    rfl
  rw [Single, unmarked]
  rfl

theorem gap_wordEnd {unit : Nat} (gap : isGap unit = true) : isWordEnd unit = true := by
  rcases isGap_cases gap with rfl | rfl <;> rfl

theorem reads_keyword {name : String} (proper : isKeywordText (units name) = true) :
    ReadsBefore rules isGap (units name) (keywords [name]) :=
  (readsBefore_keyword proper).mono fun _ => gap_wordEnd

theorem reads_quotedName (name : String) : ReadsBefore rules isGap (units (quoteIdentifier name)) [quotedToken name] := by
  rw [quoteIdentifier_units]
  refine (readsBefore_quoted (units name)).mono fun unit gap => ?_
  rcases isGap_cases gap with rfl | rfl <;> rfl

theorem reads_literal (value : String) : ReadsBefore rules isGap (units (mysqlStringLiteral value)) [stringToken value] := by
  rw [mysqlStringLiteral_units]
  refine (readsBefore_string (units value)).mono fun unit gap => ?_
  rcases isGap_cases gap with rfl | rfl <;> rfl

/-- Framed text is read as a part of one action. -/
theorem reads_framed {word : List Char} {shape : List Nat} (framed : Framed word shape) (closed : Arguments shape) :
    ∃ read, ReadsBefore rules isGap (word.map Char.toNat) read ∧ Single read := by
  have tame : ∀ unit ∈ word.map Char.toNat, isTame unit = true := by
    intro unit member
    obtain ⟨c, inside, rfl⟩ := List.mem_map.mp member
    exact framed.tame c inside
  obtain ⟨read, reads, same⟩ := readsBefore_tame rules tame
  refine ⟨read, reads, ?_⟩
  rw [Single, same, framed.marks]
  rcases closed with rfl | rfl | rfl <;> rfl

theorem reads_timestamp {token : String} (timestamp : TimestampText tables token) :
    ∃ read, ReadsBefore rules isGap (units token) read ∧ Single read := by
  obtain ⟨value, spells, rfl⟩ := timestamp
  obtain ⟨shape, framed, closed⟩ := framed_currentTimestampToken spells
  rw [units, String.toList_ofList]
  exact reads_framed framed.toUppercase closed

theorem reads_number {text : String} (matched : (numericLiteral tables.classes).isMatch text.toList = true) :
    ∃ read, ReadsBefore rules isGap (units text) read ∧ Single read := by
  obtain ⟨sign, digits, whole, signed, framed⟩ := framed_number (isMatch_anchored matched)
  obtain ⟨read, reads, single⟩ := @reads_framed rules _ _ framed (Or.inl rfl)
  rw [units, whole, List.map_append]
  have signs (c : Char) (kind : c.toNat = 43 ∨ c.toNat = 45) :
      ReadsBefore rules isGap ([c].map Char.toNat ++ digits.map Char.toNat) ([.symbol c.toNat] ++ read) := by
    refine (readsBefore_sign kind).append reads fun rest gap unit same => ?_
    cases digits with
    | nil =>
      rcases isGap_cases (gap unit same) with rfl | rfl <;> rfl
    | cons c digits =>
      obtain rfl := Option.some.inj same
      have tame := framed.tame c List.mem_cons_self
      refine bne_iff_ne.mpr fun minus => ?_
      rw [minus] at tame
      exact absurd tame (by decide)
  rcases signed with rfl | rfl | rfl
  · exact ⟨read, reads, single⟩
  · exact ⟨_, signs '+' (Or.inl rfl), Single.append rfl single⟩
  · exact ⟨_, signs '-' (Or.inr rfl), Single.append rfl single⟩

/-- What a default must be to be held. -/
def DefaultSql.Proper (tables : RegexTables) : DefaultSql → Prop
  | .timestamp token => TimestampText tables token
  | .number text => (numericLiteral tables.classes).isMatch text.toList = true
  | .literal _ => True
  | .expression _ => False

def Piece.Proper (tables : RegexTables) : Piece → Prop
  | .declaration text => (safeColumnType tables.classes).isMatch text.toList = true
  | .generated _ _ => False
  | .default value => value.Proper tables
  | .onUpdate token => TimestampText tables token
  | _ => True

theorem DefaultSql.reads {value : DefaultSql} (proper : value.Proper tables) :
    ∃ read, ReadsBefore rules isGap (units value.sql) read ∧ value.Held tables rules read ∧ Single read := by
  cases value with
  | timestamp token =>
    obtain ⟨read, reads, single⟩ := @reads_timestamp _ rules _ proper
    exact ⟨read, reads, ⟨proper, reads.whole⟩, single⟩
  | number text =>
    obtain ⟨read, reads, single⟩ := @reads_number _ rules _ proper
    exact ⟨read, reads, ⟨proper, reads.whole⟩, single⟩
  | literal value => exact ⟨_, reads_literal value, rfl, rfl⟩
  | expression value => exact proper.elim

/-- Keywords in front of what they introduce. -/
theorem reads_introduced {heading : String} {names : List String}
    (spelled : units heading = names.flatMap fun name => units name ++ [32])
    (proper : ∀ name ∈ names, isKeywordText (units name) = true) {text : String} {read : List Token}
    (reads : ReadsBefore rules isGap (units text) read) :
    ReadsBefore rules isGap (units (heading ++ text)) (keywords names ++ read) := by
  rw [units_append, spelled]
  clear spelled
  induction names with
  | nil => exact reads
  | cons name names ih =>
    obtain ⟨first, others⟩ := List.forall_mem_cons.mp proper
    have spaced := (reads_keyword first).spaced rfl (ih others)
    rwa [List.flatMap_cons, List.append_assoc, List.append_assoc]

/-- Each proper piece is read before a gap and holds what it should. -/
theorem Piece.proper_reads {piece : Piece} (proper : piece.Proper tables) : ∃ read, piece.Reads tables rules read := by
  cases piece with
  | name identifier => exact ⟨_, reads_quotedName identifier, rfl, rfl⟩
  | declaration text =>
    obtain ⟨shape, framed, closed⟩ := framed_columnType (isMatch_anchored proper)
    obtain ⟨read, reads, single⟩ := reads_framed framed closed
    exact ⟨read, reads, ⟨proper, reads.whole⟩, single⟩
  | characterSet identifier =>
    exact ⟨_, reads_introduced (by decide) (by decide) (reads_quotedName identifier), rfl, rfl⟩
  | collate identifier =>
    exact ⟨_, reads_introduced (by decide) (by decide) (reads_quotedName identifier), rfl, rfl⟩
  | generated expression storage => exact proper.elim
  | nullability nullable =>
    cases nullable with
    | true => exact ⟨_, reads_keyword (by decide), rfl, rfl⟩
    | false =>
      have reads : ReadsBefore rules isGap (units ("NOT " ++ "NULL")) (keywords ["NOT"] ++ keywords ["NULL"]) :=
        reads_introduced (by decide) (by decide) (reads_keyword (by decide))
      exact ⟨_, reads, rfl, rfl⟩
  | default value =>
    obtain ⟨inner, reads, held, single⟩ := @DefaultSql.reads _ rules _ proper
    exact ⟨_, reads_introduced (by decide) (by decide) reads, ⟨inner, held, rfl⟩, (single_keywords ["DEFAULT"]).append single⟩
  | autoIncrement => exact ⟨_, reads_keyword (by decide), rfl, rfl⟩
  | onUpdate token =>
    obtain ⟨inner, reads, single⟩ := @reads_timestamp _ rules _ proper
    exact ⟨_, reads_introduced (by decide) (by decide) reads, ⟨inner, proper, reads.whole, rfl⟩,
      (single_keywords ["ON", "UPDATE"]).append single⟩
  | invisible => exact ⟨_, reads_keyword (by decide), rfl, rfl⟩
  | comment text =>
    exact ⟨_, reads_introduced (by decide) (by decide) (reads_literal text), rfl, rfl⟩

theorem timestamp_proper {value : String} (current : isCurrentTimestamp tables value = true) :
    TimestampText tables (timestampToken value) := ⟨trimmed value, isMatch_anchored current, rfl⟩

theorem extra_proper (extra : String) : ∀ piece ∈ preservedExtraClauses tables extra, piece.Proper tables := by
  intro piece member
  rw [preservedExtraClauses] at member
  rcases List.mem_append.mp member with member | member
  · rcases List.mem_append.mp member with member | member
    · split at member
      · obtain rfl := List.mem_singleton.mp member
        trivial
      · cases member
    · obtain ⟨token, captured, rfl⟩ := List.mem_map.mp member
      exact ⟨token, capture_spells (Option.mem_toList.mp captured), rfl⟩
  · split at member
    · obtain rfl := List.mem_singleton.mp member
      trivial
    · cases member

theorem default_proper (value databaseType : String) : (defaultLiteral tables value databaseType).Proper tables := by
  rw [defaultLiteral]
  by_cases current : (typePrefix tables.classes anyCase temporalDefaultTypeNames).isMatch (trimmed databaseType) = true ∧
      isCurrentTimestamp tables value = true
  · rw [if_pos current]
    exact timestamp_proper current.2
  rw [if_neg current]
  by_cases numeric : numericType.isMatch (trimmed databaseType) = true ∧
      (numericLiteral tables.classes).isMatch (trimmed value) = true
  · rw [if_pos numeric]
    exact numeric.2
  · rw [if_neg numeric]
    trivial

theorem declaration_nonempty {word : List Char} (spells : Spells (columnType tables.classes) word) : word ≠ [] := by
  obtain ⟨name, rest, named, -, rfl⟩ := spells_seq.mp spells
  obtain ⟨part, listed, spelled⟩ := spells_any named
  obtain ⟨text, known, rfl⟩ := List.mem_map.mp listed
  have letters : typeNames.all fun text => !text.toList.isEmpty := by decide
  have some_letter := List.all_eq_true.mp letters text known
  intro empty
  obtain ⟨rfl, rfl⟩ := List.append_eq_nil_iff.mp empty
  have same := (spells_spelled.mp spelled).length_eq
  cases inside : text.toList with
  | nil => simp [inside] at some_letter
  | cons c rest => simp [inside] at same

end Pieces

/-- No expression of the draft is written: it is not generated, and its default is a
literal or the current timestamp. -/
def Shown (column : TableColumnDefinition) : Prop :=
  column.generationExpression = "" ∧
    (column.defaultExpression = true → ∀ value, column.defaultValue = some value → isCurrentTimestamp tables value = true)

section Columns
variable {tables rules} {column : TableColumnDefinition}

/-- A definition is made of proper pieces exactly if it writes no expression. -/
theorem columnPieces_proper (valid : columnTypeValidationError tables column.columnType = none) :
    (∀ piece ∈ columnPieces tables column, piece.Proper tables) ↔ Shown tables column := by
  have matched : (safeColumnType tables.classes).isMatch (trim column.columnType).toList = true := by
    rw [columnTypeValidationError] at valid
    split at valid
    next matched => exact matched
    next => cases valid
  have written : trim column.columnType ≠ "" := fun empty =>
    declaration_nonempty (isMatch_anchored matched) (by rw [empty]; rfl)
  have declared : (if trim column.columnType = "" then "VARCHAR(255)" else trim column.columnType) = trim column.columnType :=
    if_neg written
  rw [columnPieces]
  simp only [List.forall_mem_append, declared]
  constructor
  · rintro ⟨⟨⟨⟨⟨-, generated⟩, -⟩, defaults⟩, -⟩, -⟩
    have plain : column.generationExpression = "" := by
      by_contra expression
      rw [if_pos expression] at generated
      exact generated _ List.mem_cons_self
    refine ⟨plain, fun expression value given => ?_⟩
    rw [if_pos plain, given] at defaults
    have proper := defaults _ List.mem_cons_self
    dsimp only at proper
    rw [if_pos expression, expressionDefault] at proper
    by_contra other
    rw [if_neg other] at proper
    exact proper
  · rintro ⟨plain, shown⟩
    refine ⟨⟨⟨⟨⟨?_, ?_⟩, ?_⟩, ?_⟩, extra_proper column.extra⟩, ?_⟩
    · constructor
      · intro piece member
        rcases List.mem_cons.mp member with rfl | member
        · trivial
        · obtain rfl := List.mem_singleton.mp member
          exact matched
      · split
        · intro piece member
          rcases List.mem_append.mp member with member | member
          all_goals
            obtain ⟨identifier, -, rfl⟩ := List.mem_map.mp member
            trivial
        · simp
    · rw [if_neg (not_not.mpr plain)]
      simp
    · simp [Piece.Proper]
    · rw [if_pos plain]
      intro piece member
      obtain ⟨value, given, rfl⟩ := List.mem_map.mp member
      have given := Option.mem_toList.mp given
      by_cases expression : column.defaultExpression = true
      · rw [if_pos expression, expressionDefault, if_pos (shown expression value given)]
        exact timestamp_proper (shown expression value given)
      · rw [if_neg expression]
        exact default_proper value column.columnType
    · split <;> simp [Piece.Proper]

theorem forall_reads {pieces : List Piece} (proper : ∀ piece ∈ pieces, piece.Proper tables) :
    ∃ reads, List.Forall₂ (Piece.Reads tables rules) pieces reads := by
  induction pieces with
  | nil => exact ⟨[], .nil⟩
  | cons piece pieces ih =>
    obtain ⟨first, others⟩ := List.forall_mem_cons.mp proper
    obtain ⟨read, reading⟩ := Piece.proper_reads first
    obtain ⟨reads, later⟩ := ih others
    exact ⟨read :: reads, .cons reading later⟩

theorem single_reads {pieces : List Piece} {reads : List (List Token)}
    (each : List.Forall₂ (Piece.Reads tables rules) pieces reads) : Single reads.flatten := by
  induction each with
  | nil => exact single_nil
  | cons first others ih => exact first.single.append ih

/-- A definition whose pieces are proper is read piece by piece. -/
theorem columnSql_reads (proper : ∀ piece ∈ columnPieces tables column, piece.Proper tables) :
    ∃ reads, List.Forall₂ (Piece.Held tables rules) (columnPieces tables column) reads ∧ Single reads.flatten ∧
      ReadsBefore rules isGap (units (columnSql tables column)) reads.flatten := by
  obtain ⟨reads, each⟩ := @forall_reads _ rules _ proper
  refine ⟨reads, each.imp fun _ _ reading => reading.held, single_reads each, readsBefore_joined ?_ ?_⟩
  · rw [List.forall₂_map_left_iff]
    exact each.imp fun _ _ reading => reading.reads
  · rw [ne_eq, List.map_eq_nil_iff, columnPieces]
    simp

theorem pieces_held {pieces : List Piece} {reads : List (List Token)}
    (held : List.Forall₂ (Piece.Held tables rules) pieces reads) : ∀ piece ∈ pieces, piece.Proper tables := by
  intro piece member
  induction held with
  | nil => cases member
  | cons first others ih =>
    rcases List.mem_cons.mp member with rfl | later
    · cases piece with
      | declaration text => exact first.1
      | generated expression storage => exact first
      | default value =>
        obtain ⟨inner, held, -⟩ := first
        cases value with
        | timestamp token => exact held.1
        | number text => exact held.1
        | literal value => trivial
        | expression value => exact held
      | onUpdate token =>
        obtain ⟨inner, timestamp, -⟩ := first
        exact timestamp
      | name | characterSet | collate | nullability | autoIncrement | invisible | comment => trivial
    · exact ih later

end Columns

/-! ### Statements -/

section Statements
variable {tables rules}

theorem reads_target (database table : String) :
    ReadsBefore rules isGap (units ("ALTER TABLE " ++ target database table))
      (keywords ["ALTER", "TABLE"] ++ [quotedToken database, .symbol 46, quotedToken table]) := by
  refine reads_introduced (by decide) (by decide) ?_
  have point : ReadsBefore rules isGap ([46] ++ units (quoteIdentifier table)) ([.symbol 46] ++ [quotedToken table]) :=
    readsBefore_point.append (reads_quotedName table) fun rest _ => by
      rw [quoteIdentifier_units]
      exact meets_cons rfl _
  have database_name : ReadsBefore rules (fun unit => unit != 96) (units (quoteIdentifier database)) [quotedToken database] := by
    rw [quoteIdentifier_units]
    exact readsBefore_quoted (units database)
  have both := database_name.append point fun rest _ => meets_cons rfl _
  have shape : units (target database table) = units (quoteIdentifier database) ++ ([46] ++ units (quoteIdentifier table)) := by
    rw [target, units_append, units_append, List.append_assoc]
    rfl
  rw [shape]
  exact both

/-- A statement is the table's address, an action behind a blank, and a semicolon. -/
theorem tokens_statement {database table heading action : String} {read : List Token}
    (reads : ReadsBefore rules isGap (units heading ++ units action) read) (spaced : String) (same : units spaced = 32 :: units heading) :
    tokens rules (units ("ALTER TABLE " ++ target database table ++ spaced ++ action ++ ";")) =
      some (keywords ["ALTER", "TABLE"] ++ [quotedToken database, .symbol 46, quotedToken table] ++ read ++ [.symbol 59]) := by
  have shape : units ("ALTER TABLE " ++ target database table ++ spaced ++ action ++ ";") =
      (units ("ALTER TABLE " ++ target database table) ++ 32 :: (units heading ++ units action)) ++ [59] := by
    rw [units_append _ ";", units_append _ action, units_append _ spaced, same, List.append_assoc (units _)]
    rfl
  have ended : ReadsBefore rules anything [59] [.symbol 59] := readsBefore_symbol (by decide)
  rw [shape]
  exact (((reads_target database table).spaced rfl reads).append ended fun rest _ => meets_cons rfl _).whole

/-- A statement whose pieces are proper is structural. -/
theorem structural_sql (database table : String) {action : DdlAction} (proper : ∀ piece ∈ action.pieces tables, piece.Proper tables) :
    Structural tables rules database table action (action.sql tables database table) := by
  cases action with
  | dropColumn name =>
    have reads : ReadsBefore rules isGap (units "DROP COLUMN " ++ units (quoteIdentifier name))
        (keywords ["DROP", "COLUMN"] ++ [quotedToken name]) := by
      rw [← units_append]
      exact reads_introduced (by decide) (by decide) (reads_quotedName name)
    refine ⟨[], .nil, rfl, ?_⟩
    rw [List.flatten_nil, List.append_nil]
    exact tokens_statement reads " DROP COLUMN " (by decide)
  | addColumn column =>
    obtain ⟨pieces, held, single, definition⟩ := @columnSql_reads _ rules _ proper
    have reads : ReadsBefore rules isGap (units "ADD COLUMN " ++ units (columnSql tables column))
        (keywords ["ADD", "COLUMN"] ++ pieces.flatten) := by
      rw [← units_append]
      exact reads_introduced (by decide) (by decide) definition
    refine ⟨pieces, held, single, ?_⟩
    rw [List.append_assoc (_ ++ _)]
    exact tokens_statement reads " ADD COLUMN " (by decide)
  | changeColumn sourceName column =>
    obtain ⟨pieces, held, single, definition⟩ := @columnSql_reads _ rules _ proper
    have renamed : ReadsBefore rules isGap (units (quoteIdentifier sourceName ++ " " ++ columnSql tables column))
        ([quotedToken sourceName] ++ pieces.flatten) := by
      rw [units_append, units_append, List.append_assoc]
      exact (reads_quotedName sourceName).spaced rfl definition
    have reads : ReadsBefore rules isGap
        (units "CHANGE COLUMN " ++ units (quoteIdentifier sourceName ++ " " ++ columnSql tables column))
        (keywords ["CHANGE", "COLUMN"] ++ ([quotedToken sourceName] ++ pieces.flatten)) := by
      rw [← units_append]
      exact reads_introduced (by decide) (by decide) renamed
    let start := "ALTER TABLE " ++ target database table ++ " CHANGE COLUMN "
    have shape : start ++ quoteIdentifier sourceName ++ " " ++ columnSql tables column ++ ";" =
        start ++ (quoteIdentifier sourceName ++ " " ++ columnSql tables column) ++ ";" := by
      simp only [String.append_assoc]
    refine ⟨pieces, held, single, (congrArg (fun text => tokens rules (units text)) shape).trans ?_⟩
    have read := @tokens_statement _ database table _ _ _ reads " CHANGE COLUMN " (by decide)
    simpa only [DdlAction.heading, List.append_assoc] using read

end Statements

/-! ### Plans -/

/-- A draft that the plan writes: it is new, or it changes its original. -/
def Emitted (originalColumns : List TableColumnDefinition) (column : TableColumnDefinition) : Prop :=
  column.sourceName = none ∨ ∃ original, sourceOf originalColumns column = some original ∧ sameColumn original column = false

/-- The draft behind an action of the plan. -/
def DdlAction.Writes (action : DdlAction) (column : TableColumnDefinition) : Prop :=
  action = .addColumn column ∨ ∃ sourceName, action = .changeColumn sourceName column

section Plans
variable {tables} {originalColumns draftColumns : List TableColumnDefinition}

theorem draftAction_writes {column : TableColumnDefinition} {action : DdlAction}
    (accepted : draftAction tables originalColumns column = .ok (some action)) :
    action.Writes column ∧ Emitted originalColumns column ∧ columnTypeValidationError tables column.columnType = none := by
  rcases draftAction_ok tables accepted with ⟨absent, valid, made⟩ | ⟨-, -, none⟩ | ⟨_, -, -, none⟩ |
    ⟨sourceName, original, -, found, changed, valid, made⟩
  · exact ⟨Or.inl (Option.some.inj made), Or.inl absent, valid⟩
  · cases none
  · cases none
  · exact ⟨Or.inr ⟨sourceName, Option.some.inj made⟩, Or.inr ⟨original, found, changed⟩, valid⟩

theorem emitted_writes {column : TableColumnDefinition}
    (accepted : ∃ action, draftAction tables originalColumns column = .ok action) (emitted : Emitted originalColumns column) :
    ∃ action, draftAction tables originalColumns column = .ok (some action) := by
  obtain ⟨action, ok⟩ := accepted
  rcases draftAction_ok tables ok with ⟨-, -, rfl⟩ | ⟨known, missing, -⟩ | ⟨original, found, same, -⟩ |
    ⟨_, _, -, -, -, -, rfl⟩
  · exact ⟨_, ok⟩
  · rcases emitted with absent | ⟨original, found, -⟩
    · exact absurd absent known
    · rw [missing] at found
      cases found
  · rcases emitted with absent | ⟨other, found', changed⟩
    · have source := (sourceOf_name found).1
      rw [absent] at source
      cases source
    · rw [Option.some.inj (found.symm.trans found'), changed] at same
      cases same
  · exact ⟨_, ok⟩

/-- The actions that the drafts of a plan come to. -/
theorem mem_planActions {action : DdlAction} (member : action ∈ planActions tables originalColumns draftColumns) :
    (∃ name, action = .dropColumn name) ∨
      ∃ column ∈ draftColumns, draftAction tables originalColumns column = .ok (some action) := by
  rcases List.mem_append.mp member with dropped | written
  · obtain ⟨column, -, rfl⟩ := List.mem_map.mp dropped
    exact Or.inl ⟨column.name, rfl⟩
  · obtain ⟨column, listed, made⟩ := List.mem_filterMap.mp written
    refine Or.inr ⟨column, listed, ?_⟩
    cases outcome : draftAction tables originalColumns column with
    | error reason =>
      rw [outcome] at made
      cases made
    | ok result =>
      rw [outcome] at made
      rw [show result = some action from made]

theorem writes_pieces {action : DdlAction} {column : TableColumnDefinition} (writes : action.Writes column) :
    action.pieces tables = columnPieces tables column := by
  rcases writes with rfl | ⟨sourceName, rfl⟩ <;> rfl

end Plans

/-- Every statement of an accepted plan is one action that holds what the drafts say in
quotes or in matched text, exactly if no draft that is written brings an expression. -/
theorem plan_structural (rules : Rules) (database table : String) (originalColumns draftColumns : List TableColumnDefinition)
    (accepted : (buildTableDdlPlan tables database table originalColumns draftColumns).errors = []) :
    List.Forall₂ (Structural tables rules database table) (planActions tables originalColumns draftColumns)
        (buildTableDdlPlan tables database table originalColumns draftColumns).statements ↔
      ∀ column ∈ draftColumns, Emitted originalColumns column → Shown tables column := by
  rw [buildTableDdlPlan, List.forall₂_map_right_iff, List.forall₂_same]
  constructor
  · intro structural column listed emitted
    obtain ⟨action, ok⟩ := emitted_writes (accepted_actions tables accepted column listed) emitted
    obtain ⟨writes, -, valid⟩ := draftAction_writes ok
    have planned : action ∈ planActions tables originalColumns draftColumns := by
      refine List.mem_append_right _ (List.mem_filterMap.mpr ⟨column, listed, ?_⟩)
      rw [ok]
      rfl
    obtain ⟨reads, held, -, -⟩ := structural action planned
    rw [writes_pieces writes] at held
    exact (columnPieces_proper valid).mp (pieces_held held)
  · intro shown action planned
    refine structural_sql database table ?_
    rcases mem_planActions planned with ⟨name, rfl⟩ | ⟨column, listed, ok⟩
    · simp [DdlAction.pieces]
    · obtain ⟨writes, emitted, valid⟩ := draftAction_writes ok
      rw [writes_pieces writes]
      exact (columnPieces_proper valid).mpr (shown column listed emitted)

/-- A new column whose default is written as an expression. -/
def expressionColumn (value : String) : TableColumnDefinition :=
  { intColumn none "c" with defaultExpression := true, defaultValue := some value }

/-- A default expression that closes its parenthesis adds a second action. -/
theorem expression_adds_action :
    (buildTableDdlPlan asciiTables "shop" "items" [intColumn none "a"]
        [intColumn (some "a") "a", expressionColumn "1), ADD COLUMN x int DEFAULT (1"]).errors = [] ∧
      (buildTableDdlPlan asciiTables "shop" "items" [intColumn none "a"]
        [intColumn (some "a") "a", expressionColumn "1), ADD COLUMN x int DEFAULT (1"]).statements =
        ["ALTER TABLE \x60shop\x60.\x60items\x60 ADD COLUMN \x60c\x60 int NULL DEFAULT (1), ADD COLUMN x int DEFAULT (1);"] ∧
      ¬ List.Forall₂ (Structural asciiTables ⟨true, true⟩ "shop" "items")
        (planActions asciiTables [intColumn none "a"]
          [intColumn (some "a") "a", expressionColumn "1), ADD COLUMN x int DEFAULT (1"])
        (buildTableDdlPlan asciiTables "shop" "items" [intColumn none "a"]
          [intColumn (some "a") "a", expressionColumn "1), ADD COLUMN x int DEFAULT (1"]).statements := by
  refine ⟨by decide +kernel, by decide +kernel, fun structural => ?_⟩
  have actions : planActions asciiTables [intColumn none "a"]
      [intColumn (some "a") "a", expressionColumn "1), ADD COLUMN x int DEFAULT (1"] =
        [.addColumn (expressionColumn "1), ADD COLUMN x int DEFAULT (1")] := by decide +kernel
  have text : (buildTableDdlPlan asciiTables "shop" "items" [intColumn none "a"]
      [intColumn (some "a") "a", expressionColumn "1), ADD COLUMN x int DEFAULT (1"]).statements =
        ["ALTER TABLE \x60shop\x60.\x60items\x60 ADD COLUMN \x60c\x60 int NULL DEFAULT (1), ADD COLUMN x int DEFAULT (1);"] := by
    decide +kernel
  rw [actions, text] at structural
  obtain ⟨⟨reads, -, single, read⟩, -⟩ := List.forall₂_cons.mp structural
  have behind : (tokens ⟨true, true⟩ (units
      "ALTER TABLE \x60shop\x60.\x60items\x60 ADD COLUMN \x60c\x60 int NULL DEFAULT (1), ADD COLUMN x int DEFAULT (1);")).map
        (fun tokens => decide (Single (tokens.drop 7).dropLast)) = some false := by decide +kernel
  rw [read] at behind
  have inside : (keywords ["ALTER", "TABLE"] ++ [quotedToken "shop", Token.symbol 46, quotedToken "items"] ++
      DdlAction.heading (.addColumn (expressionColumn "1), ADD COLUMN x int DEFAULT (1")) ++ reads.flatten ++
        [Token.symbol 59]).drop 7 = reads.flatten ++ [Token.symbol 59] := rfl
  rw [Option.map_some, inside, List.dropLast_concat, decide_eq_true single] at behind
  cases behind

/-- A literal that looks like an action stays a literal, and the current timestamp may be
given as an expression. -/
theorem plan_structural_defaults :
    List.Forall₂ (Structural asciiTables ⟨true, true⟩ "shop" "items")
      (planActions asciiTables [intColumn none "a"]
        [{ intColumn (some "a") "a" with comment := "'), DROP COLUMN (" }, expressionColumn "CURRENT_TIMESTAMP"])
      (buildTableDdlPlan asciiTables "shop" "items" [intColumn none "a"]
        [{ intColumn (some "a") "a" with comment := "'), DROP COLUMN (" }, expressionColumn "CURRENT_TIMESTAMP"]).statements := by
  refine (plan_structural asciiTables ⟨true, true⟩ "shop" "items" _ _ (by decide +kernel)).mpr fun column listed _ => ?_
  rcases List.mem_cons.mp listed with rfl | listed
  · exact ⟨rfl, fun expression => by cases expression⟩
  · obtain rfl := List.mem_singleton.mp listed
    refine ⟨rfl, fun _ value given => ?_⟩
    obtain rfl := Option.some.inj given
    decide +kernel

end Pipa.TableDdl
