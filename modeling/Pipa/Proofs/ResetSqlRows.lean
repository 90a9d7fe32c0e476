import Pipa.Library.Fallible
import Pipa.Library.Undo
import Pipa.ResetSql

/-! What a complete reset output is made of: one statement for each row mutation,
last mutation first, and in each statement the columns its image records. -/

namespace Pipa.ResetSql
open Fallible

private theorem orError_ok (value : Option α) (reason : String) (result : α) :
    orError value reason = .ok result ↔ value = some result := by
  cases value <;> simp [orError]

private theorem refuse_ok (refused : Bool) (reason : String) (result : Unit) :
    refuse refused reason = .ok result ↔ refused = false := by
  cases refused <;> simp [refuse]

/-- The pairs name these columns in order, each with the literal of its recorded cell. -/
def Pins (codec : ResetCodec) (image : RowImage) (columns : List String) (pairs : List (String × String)) : Prop :=
  List.Forall₂ (fun column (pair : String × String) =>
    pair.1 = column ∧ ∃ cell, image[column]? = some cell ∧ cellLiteral codec cell = .ok pair.2) columns pairs

/-- The columns of a change that an image records. -/
def recordedColumns (change : BinlogChange) (image : RowImage) : List String :=
  change.columns.filter fun column => isRecorded image[column]?

section Values
variable {codec : ResetCodec} {change : BinlogChange} {image : RowImage} {requireComplete : Bool}

/-- One column is pinned if it is recorded, and left out otherwise. -/
private theorem orderedValue_ok {column : String} {value : Option (String × String)}
    (ok : orderedValue codec image requireComplete column = .ok value) :
    Pins codec image (if isRecorded image[column]? then [column] else []) value.toList ∧
      (requireComplete = true → isRecorded image[column]? = true) := by
  unfold orderedValue at ok
  cases placeholder : placeholderColumn column with
  | true =>
    simp only [placeholder, ↓reduceIte] at ok
    cases requireComplete with
    | true => simp at ok
    | false =>
      cases recorded : isRecorded image[column]? with
      | true => simp [recorded] at ok
      | false =>
        simp only [recorded, Bool.or_self, Bool.false_eq_true, ↓reduceIte, Except.ok.injEq] at ok
        subst value
        exact ⟨.nil, by simp⟩
  | false =>
    simp only [placeholder, Bool.false_eq_true, ↓reduceIte] at ok
    have incomplete (missing : isRecorded image[column]? = false)
        (ok : (if requireComplete then .error "the row image is incomplete" else .ok none) = Except.ok value) :
        Pins codec image (if isRecorded image[column]? then [column] else []) value.toList ∧
          (requireComplete = true → isRecorded image[column]? = true) := by
      cases requireComplete with
      | true => cases ok
      | false =>
        obtain rfl := Except.ok.inj ok
        rw [missing]
        exact ⟨.nil, by simp⟩
    have recordedCell {cell : BinlogCell} (held : image[column]? = some cell)
        (recorded : isRecorded (some cell) = true)
        (ok : (do let literal ← cellLiteral codec cell; return some (column, literal)) = Except.ok value) :
        Pins codec image (if isRecorded image[column]? then [column] else []) value.toList ∧
          (requireComplete = true → isRecorded image[column]? = true) := by
      simp only [bind_ok, pure_ok] at ok
      obtain ⟨literal, rendered, rfl⟩ := ok
      rw [held, recorded]
      exact ⟨.cons ⟨rfl, cell, held, rendered⟩ .nil, fun _ => rfl⟩
    cases held : image[column]? with
    | none =>
      rw [held] at ok incomplete
      exact incomplete rfl ok
    | some cell =>
      rw [held] at ok incomplete recordedCell
      cases cell with
      | notLogged => exact incomplete rfl ok
      | null | value | unixTimestamp | decodeError | partialValue => exact recordedCell rfl rfl ok

private theorem orderedValues_columns {columns : List String} {values : List (Option (String × String))}
    (ok : columns.mapM (orderedValue codec image requireComplete) = .ok values) :
    Pins codec image (columns.filter fun column => isRecorded image[column]?) (values.filterMap id) ∧
      (requireComplete = true → ∀ column ∈ columns, isRecorded image[column]? = true) := by
  induction columns generalizing values with
  | nil =>
    obtain rfl := (pure_ok _ _).mp ok
    exact ⟨.nil, by simp⟩
  | cons column columns ih =>
    simp only [List.mapM_cons, bind_ok, pure_ok] at ok
    obtain ⟨value, here, rest, later, rfl⟩ := ok
    obtain ⟨pinned, complete⟩ := orderedValue_ok here
    obtain ⟨pins, completes⟩ := ih later
    refine ⟨?_, fun required => List.forall_mem_cons.mpr ⟨complete required, completes required⟩⟩
    have joined : Pins codec image _ (value.toList ++ rest.filterMap id) := List.rel_append pinned pins
    cases recorded : isRecorded image[column]? <;> cases value <;> simpa [recorded, Pins] using joined

/-- Ordered values pin exactly the recorded columns; all of them when completeness is required. -/
theorem orderedValues_ok {values : List (String × String)}
    (ok : orderedValues codec change image requireComplete = .ok values) :
    Pins codec image (recordedColumns change image) values ∧
      (requireComplete = true → ∀ column ∈ change.columns, isRecorded image[column]? = true) := by
  simp only [orderedValues, bind_ok, pure_ok] at ok
  obtain ⟨-, -, values', collected, rfl⟩ := ok
  exact orderedValues_columns collected

theorem predicateValues_ok {predicates : List (String × String)}
    (ok : predicateValues codec change image requireComplete = .ok predicates) :
    Pins codec image (recordedColumns change image) predicates ∧ predicates ≠ [] := by
  simp only [predicateValues, bind_ok, refuse_ok, pure_ok] at ok
  obtain ⟨values, ordered, -, nonempty, rfl⟩ := ok
  exact ⟨(orderedValues_ok ordered).1, by simpa [List.isEmpty_iff] using nonempty⟩

end Values

/-- What a statement pins: a DELETE and an UPDATE the recorded columns of the
current row, an INSERT every column of the change. -/
def Reverses (codec : ResetCodec) (mutation : BinlogChange × BinlogRowChange) (statement : ResetStatement) : Prop :=
  let (change, row) := mutation
  match change.operation with
  | .insert => ∃ after predicates, row.after = some after ∧
      statement = .delete change.database change.table predicates ∧
      Pins codec after (recordedColumns change after) predicates ∧ predicates ≠ []
  | .update => ∃ before after assignments predicates, row.before = some before ∧ row.after = some after ∧
      statement = .update change.database change.table assignments predicates ∧
      Pins codec before (recordedColumns change before) assignments ∧
      Pins codec (overlay (overlay ∅ before) after) (recordedColumns change (overlay (overlay ∅ before) after))
        predicates ∧ predicates ≠ []
  | .delete => ∃ before values, row.before = some before ∧
      statement = .insert change.database change.table values ∧
      Pins codec before change.columns values
  | .ddl => False

theorem resetRow_reverses {codec : ResetCodec} {change : BinlogChange} {row : BinlogRowChange}
    {statement : ResetStatement} (ok : resetRow codec change row = .ok statement) :
    Reverses codec (change, row) statement := by
  cases operation : change.operation with
  | insert =>
    simp only [resetRow, operation, resetInsert, bind_ok, orError_ok, pure_ok] at ok
    obtain ⟨-, -, after, image, predicates, located, rfl⟩ := ok
    simp only [Reverses, operation]
    exact ⟨after, predicates, image, rfl, predicateValues_ok located⟩
  | update =>
    simp only [resetRow, operation, resetUpdate, bind_ok, orError_ok, refuse_ok, pure_ok] at ok
    obtain ⟨-, -, before, old, after, new, -, -, -, -, -, -, assignments, restored, -, -, predicates, located, rfl⟩ := ok
    obtain ⟨pins, nonempty⟩ := predicateValues_ok located
    simp only [Reverses, operation]
    exact ⟨before, after, assignments, predicates, old, new, rfl, (orderedValues_ok restored).1, pins, nonempty⟩
  | delete =>
    simp only [resetRow, operation, resetDelete, bind_ok, orError_ok, refuse_ok, pure_ok] at ok
    obtain ⟨-, -, before, image, values, ordered, -, -, rfl⟩ := ok
    obtain ⟨pins, complete⟩ := orderedValues_ok ordered
    have every : recordedColumns change before = change.columns := List.filter_eq_self.mpr (complete rfl)
    rw [every] at pins
    simp only [Reverses, operation]
    exact ⟨before, values, image, rfl, pins⟩
  | ddl => simp [resetRow, operation] at ok

section Rewinding
variable {codec : ResetCodec}

@[simp]
theorem pushWarning_warnings_ne_nil (builder : ResetSqlBuilder) (warning : String) :
    (builder.pushWarning warning).warnings ≠ [] := by
  unfold ResetSqlBuilder.pushWarning
  split
  · simp
  next full =>
    have warned : builder.warnings ≠ [] := by
      intro empty
      simp [empty, maxResetWarnings] at full
    split
    · exact warned
    · simp

/-- A statement is added behind the others, or refused with a warning. -/
theorem pushStatement_cases (builder : ResetSqlBuilder) (statement : ResetStatement) :
    builder.pushStatement statement = (true, { builder with statements := builder.statements ++ [statement] }) ∨
      ∃ warned, builder.pushStatement statement = (false, warned) ∧ warned.warnings ≠ [] := by
  unfold ResetSqlBuilder.pushStatement
  split
  · exact Or.inr ⟨_, rfl, pushWarning_warnings_ne_nil _ _⟩
  · exact Or.inl rfl

/-- The mutations were rewound without a warning. -/
structure Rewound (codec : ResetCodec) (mutations : List (BinlogChange × BinlogRowChange))
    (before after : ResetSqlBuilder) : Prop where
  quiet : before.warnings = []
  statements : ∃ statements, after.statements = before.statements ++ statements ∧
    List.Forall₂ (Reverses codec) mutations statements

theorem Rewound.refl {builder : ResetSqlBuilder} (quiet : builder.warnings = []) : Rewound codec [] builder builder :=
  ⟨quiet, [], by simp, .nil⟩

theorem Rewound.trans {first rest : List (BinlogChange × BinlogRowChange)} {before middle after : ResetSqlBuilder}
    (early : Rewound codec first before middle) (late : Rewound codec rest middle after) :
    Rewound codec (first ++ rest) before after := by
  obtain ⟨quiet, statements, same, reversed⟩ := early
  obtain ⟨-, statements', same', reversed'⟩ := late
  exact ⟨quiet, statements ++ statements', by rw [same', same, List.append_assoc], List.rel_append reversed reversed'⟩

/-- The row loop warns whenever it leaves a row out, so a quiet run reversed them all. -/
theorem rewindRows_quiet {changeIndex : Nat} {change : BinlogChange} {rows : List (BinlogRowChange × Nat)}
    {builder : ResetSqlBuilder} (quiet : (rewindRows codec changeIndex change rows builder).2.warnings = []) :
    (rewindRows codec changeIndex change rows builder).1 = true ∧
      Rewound codec (rows.map fun row => (change, row.1)) builder (rewindRows codec changeIndex change rows builder).2 := by
  induction rows generalizing builder with
  | nil => exact ⟨rfl, Rewound.refl quiet⟩
  | cons row rows ih =>
    obtain ⟨row, rowIndex⟩ := row
    cases reset : resetRow codec change row with
    | error reason =>
      simp only [rewindRows, reset] at quiet
      exact absurd (ih quiet).2.quiet (pushWarning_warnings_ne_nil _ _)
    | ok statement =>
      rcases pushStatement_cases builder statement with pushed | ⟨warned, refused, warning⟩
      · simp only [rewindRows, reset, pushed, ↓reduceIte] at quiet ⊢
        obtain ⟨finished, later⟩ := ih quiet
        have here : Rewound codec [(change, row)] builder { builder with statements := builder.statements ++ [statement] } :=
          ⟨later.quiet, [statement], rfl, .cons (resetRow_reverses reset) .nil⟩
        exact ⟨finished, here.trans later⟩
      · simp only [rewindRows, reset, refused, Bool.false_eq_true, ↓reduceIte] at quiet
        exact absurd quiet warning

/-- The mutations of a list of changes, in the order they were made. -/
def mutations (changes : List BinlogChange) : List (BinlogChange × BinlogRowChange) :=
  changes.flatMap fun change => change.rows.map fun row => (change, row)

theorem mutations_reverse (changes : List BinlogChange) :
    (mutations changes).reverse = changes.reverse.flatMap fun change =>
      change.rows.reverse.map fun row => (change, row) := by
  simp [mutations, List.reverse_flatMap, Function.comp_def]

theorem rewindChanges_quiet {changes : List (BinlogChange × Nat)} {builder : ResetSqlBuilder}
    (quiet : (rewindChanges codec changes builder).warnings = []) :
    Rewound codec (changes.flatMap fun change => change.1.rows.reverse.map fun row => (change.1, row)) builder
      (rewindChanges codec changes builder) := by
  induction changes generalizing builder with
  | nil => exact Rewound.refl quiet
  | cons change changes ih =>
    obtain ⟨change, changeIndex⟩ := change
    simp only [rewindChanges] at quiet ⊢
    split at quiet
    · exact absurd (ih quiet).quiet (pushWarning_warnings_ne_nil _ _)
    split at quiet
    · exact absurd (ih quiet).quiet (pushWarning_warnings_ne_nil _ _)
    next notDdl notEmpty =>
      rw [if_neg notDdl, if_neg notEmpty]
      have rows : (change.rows.zipIdx.reverse.map fun row => (change, row.1)) =
          change.rows.reverse.map fun row => (change, row) := by
        conv_rhs => rw [← List.zipIdx_map_fst 0 change.rows, ← List.map_reverse, List.map_map]
        rfl
      split at quiet
      next finished =>
        rw [if_pos finished]
        have here := (rewindRows_quiet (ih quiet).quiet).2
        rw [rows] at here
        exact here.trans (ih quiet)
      next unfinished => exact absurd (rewindRows_quiet quiet).1 unfinished

/-- A complete output reverses every mutation of a committed transaction, last one first. -/
theorem rewind_complete {transaction : BinlogTransaction}
    (complete : (generateTransactionResetSql codec transaction).complete = true) :
    List.Forall₂ (Reverses codec) (mutations transaction.changes).reverse (rewind codec transaction).statements := by
  simp only [generateTransactionResetSql, finish, Bool.and_eq_true, decide_eq_true_eq, List.isEmpty_iff] at complete
  obtain ⟨-, quiet⟩ := complete
  simp only [rewind] at quiet ⊢
  split at quiet
  · exact absurd quiet (pushWarning_warnings_ne_nil _ _)
  split at quiet
  · exact absurd quiet (pushWarning_warnings_ne_nil _ _)
  split at quiet
  · exact absurd quiet (pushWarning_warnings_ne_nil _ _)
  next committed some nonempty =>
    rw [if_neg committed, if_neg some, if_neg nonempty]
    obtain ⟨-, statements, same, reversed⟩ := rewindChanges_quiet quiet
    rw [same, mutations_reverse]
    have order : (transaction.changes.zipIdx.reverse.flatMap fun change =>
        change.1.rows.reverse.map fun row => (change.1, row)) =
        transaction.changes.reverse.flatMap fun change => change.rows.reverse.map fun row => (change, row) := by
      conv_rhs => rw [← List.zipIdx_map_fst 0 transaction.changes, ← List.map_reverse, List.flatMap_map]
    rw [order] at reversed
    exact reversed

end Rewinding

end Pipa.ResetSql
