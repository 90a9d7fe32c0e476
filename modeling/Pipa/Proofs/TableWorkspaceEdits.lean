import Pipa.Library.Runs
import Pipa.TableWorkspace

/-! What becomes of staged edits while commits are in flight. A commit that lands
clears whole change sets; what it had not sent is lost with them. -/

namespace Pipa.TableEditing
open TableMutations

/-- The change sets that are cleared together. -/
inductive Part where
  | data | columns | comment
deriving DecidableEq, Repr

/-- One edit among those staged; equal new rows and equal drafts are numbered. -/
inductive StagedEdit where
  | cell (identity : RowIdentity) (columnName : String) (value : EditableCellValue)
  | deletion (identity : RowIdentity)
  | insertion (row : OrderedMap String EditableCellValue) (copy : Nat)
  | column (draft : TableColumnDefinition) (copy : Nat)
  | removal (columnName : String)
  | tableComment (comment : String)

namespace StagedEdit

def part : StagedEdit → Part
  | cell _ _ _ | deletion _ | insertion _ _ => .data
  | column _ _ | removal _ => .columns
  | tableComment _ => .comment

/-- The rendering shows the edit as staged. -/
def Staged (seen : Rendering) : StagedEdit → Prop
  | cell identity columnName value =>
    ∃ staged, seen.updatedRows.get identity = some staged ∧ staged.values.get columnName = some value
  | deletion identity => seen.deletedRows.has identity = true
  | insertion row copy => copy < seen.insertedRows.count row
  | column draft copy => draft ∉ seen.schema ∧ copy < seen.draftColumns.count draft
  | removal columnName =>
    columnName ∈ seen.schema.map (·.name) ∧ ∀ draft ∈ seen.draftColumns, draft.sourceName ≠ some columnName
  | tableComment comment => seen.draftTableComment = some comment ∧ seen.tableCommentDirty = true

end StagedEdit

/-- The change sets of a part are left as they are. A comment that is not dirty stages nothing. -/
def Kept (before after : Rendering) : Part → Prop
  | .data => after.updatedRows = before.updatedRows ∧ after.deletedRows = before.deletedRows ∧
      after.insertedRows = before.insertedRows
  | .columns => after.schema = before.schema ∧ after.draftColumns = before.draftColumns
  | .comment => before.tableCommentDirty = true →
      after.rawDdl = before.rawDdl ∧ after.draftTableComment = before.draftTableComment

theorem tableCommentDirty_congr {before after : Rendering} (rawDdl : after.rawDdl = before.rawDdl)
    (draft : after.draftTableComment = before.draftTableComment) : after.tableCommentDirty = before.tableCommentDirty := by
  unfold Rendering.tableCommentDirty Rendering.tableComment Rendering.serverTableComment
  rw [rawDdl, draft]

theorem Kept.staged {before after : Rendering} {edit : StagedEdit} (kept : Kept before after edit.part)
    (staged : edit.Staged before) : edit.Staged after := by
  cases edit with
  | cell identity columnName value =>
    obtain ⟨updated, -, -⟩ := kept
    simpa only [StagedEdit.Staged, updated] using staged
  | deletion identity =>
    obtain ⟨-, deleted, -⟩ := kept
    simpa only [StagedEdit.Staged, deleted] using staged
  | insertion row copy =>
    obtain ⟨-, -, inserted⟩ := kept
    simpa only [StagedEdit.Staged, inserted] using staged
  | column draft copy =>
    obtain ⟨schema, drafts⟩ := kept
    simpa only [StagedEdit.Staged, schema, drafts] using staged
  | removal columnName =>
    obtain ⟨schema, drafts⟩ := kept
    simpa only [StagedEdit.Staged, schema, drafts] using staged
  | tableComment comment =>
    obtain ⟨rawDdl, draft⟩ := kept staged.2
    exact ⟨draft.trans staged.1, (tableCommentDirty_congr rawDdl draft).trans staged.2⟩

/-- A rendering with the same change sets keeps every part. -/
theorem Kept.same {before after : Rendering} (schema : after.schema = before.schema)
    (draftColumns : after.draftColumns = before.draftColumns) (updatedRows : after.updatedRows = before.updatedRows)
    (deletedRows : after.deletedRows = before.deletedRows) (insertedRows : after.insertedRows = before.insertedRows)
    (rawDdl : after.rawDdl = before.rawDdl) (draftTableComment : after.draftTableComment = before.draftTableComment)
    (part : Part) : Kept before after part := by
  cases part with
  | data => exact ⟨updatedRows, deletedRows, insertedRows⟩
  | columns => exact ⟨schema, draftColumns⟩
  | comment => exact fun _ => ⟨rawDdl, draftTableComment⟩

theorem Kept.refl (seen : Rendering) (part : Part) : Kept seen seen part := Kept.same rfl rfl rfl rfl rfl rfl rfl part

theorem Kept.trans {before middle after : Rendering} {part : Part} (early : Kept before middle part)
    (late : Kept middle after part) : Kept before after part := by
  cases part with
  | data => exact ⟨late.1.trans early.1, late.2.1.trans early.2.1, late.2.2.trans early.2.2⟩
  | columns => exact ⟨late.1.trans early.1, late.2.trans early.2⟩
  | comment =>
    intro dirty
    obtain ⟨rawDdl, draft⟩ := early dirty
    obtain ⟨rawDdl', draft'⟩ := late ((tableCommentDirty_congr rawDdl draft).trans dirty)
    exact ⟨rawDdl'.trans rawDdl, draft'.trans draft⟩

namespace TableWorkspace
variable {props : TableWorkspaceProps} (ws : TableWorkspace)

/-- A page load is ignored, or empties the page. -/
theorem loadPage_cases (seen : Rendering) (orderingSchema : List TableColumnDefinition) (allowDirty : Bool) :
    ws.loadPage props seen orderingSchema allowDirty = ws ∨
      ws.loadPage props seen orderingSchema allowDirty = { ws with columns := [], rows := [], dataRunning := true } := by
  unfold loadPage
  split
  · exact Or.inl rfl
  split
  · exact Or.inl rfl
  · exact Or.inr rfl

theorem loadPage_kept (seen : Rendering) (orderingSchema : List TableColumnDefinition) (allowDirty : Bool) (part : Part) :
    Kept ws.toRendering (ws.loadPage props seen orderingSchema allowDirty).toRendering part := by
  rcases @loadPage_cases props ws seen orderingSchema allowDirty with same | emptied
  · rw [same]
    exact Kept.refl _ _
  · rw [emptied]
    exact Kept.same rfl rfl rfl rfl rfl rfl rfl part

/-- Another statement replaces the shown one and the draft of the comment. -/
theorem withRawDdl_cases (rawDdl : String) :
    (rawDdl = ws.rawDdl ∧ ws.withRawDdl rawDdl = ws) ∨
      (rawDdl ≠ ws.rawDdl ∧
        ∃ error, ws.withRawDdl rawDdl = { ws with rawDdl, draftTableComment := none, ddlBackendError := error }) := by
  unfold withRawDdl
  split
  next same => exact Or.inl ⟨same, rfl⟩
  next other =>
    unfold withTableComment
    dsimp only
    split
    · exact Or.inr ⟨other, _, rfl⟩
    · exact Or.inr ⟨other, _, rfl⟩

theorem withRawDdl_undrafted {rawDdl : String} (other : rawDdl ≠ ws.rawDdl) :
    (ws.withRawDdl rawDdl).draftTableComment = none := by
  rcases ws.withRawDdl_cases rawDdl with ⟨same, -⟩ | ⟨-, error, replaced⟩
  · exact absurd same other
  · rw [replaced]

theorem withRawDdl_kept (rawDdl : String) {part : Part} (apart : part = .comment → rawDdl = ws.rawDdl) :
    Kept ws.toRendering (ws.withRawDdl rawDdl).toRendering part := by
  rcases ws.withRawDdl_cases rawDdl with ⟨-, same⟩ | ⟨other, error, replaced⟩
  · rw [same]
    exact Kept.refl _ _
  · rw [replaced]
    cases part with
    | data => exact ⟨rfl, rfl, rfl⟩
    | columns => exact ⟨rfl, rfl⟩
    | comment => exact absurd (apart rfl) other

theorem loadDdl_kept (reload : Reload) {part : Part} (apart : part = .comment → ws.ddlLoad.isSome = true ∨ ws.rawDdl = "") :
    Kept ws.toRendering (ws.loadDdl reload).toRendering part := by
  unfold loadDdl
  split
  · exact Kept.refl _ _
  next idle => exact ws.withRawDdl_kept "" fun comment => ((apart comment).resolve_left idle).symm

/-- The part of the change sets that a reply clears, and what its load was started for. -/
def reset : Event → Option (Part × Reload)
  | .dmlSettled none => ws.dmlCommit.map fun sent => (.data, .committed sent)
  | .schemaSettled (some _) => ws.schemaLoad.map fun reload => (.columns, reload)
  | .ddlSettled none =>
    if ws.ddlLoad.isNone = true ∧ ws.rawDdl ≠ "" then ws.ddlRun.map fun sent => (.comment, .committed sent) else none
  | .createTable statement =>
    if ws.rawDdl = "" ∧ statement ≠ "" then ws.ddlLoad.map fun reload => (.comment, reload) else none
  | _ => none

theorem commit_rendering (kind : MutationKind) : (ws.commit props kind).toRendering = ws.toRendering := by
  unfold commit
  split
  · rfl
  · rfl
  · cases kind <;> rfl

theorem ddlBuilt_rendering (index : Nat) (answer : DdlAnswer) : (ws.ddlBuilt index answer).toRendering = ws.toRendering := by
  unfold ddlBuilt runDdl
  split
  · rfl
  · cases answer with
    | failed => rfl
    | planned errors statements comment =>
      dsimp only
      (repeat' split) <;> rfl

theorem loadTable_kept {part : Part} (clean : ws.tableCommentDirty = false) :
    Kept ws.toRendering (ws.loadTable props).toRendering part := by
  unfold loadTable
  split
  · exact Kept.refl _ _
  · cases part with
    | data => exact @loadDdl_kept (ws.loadSchema .asked) .asked .data (by simp)
    | columns => exact @loadDdl_kept (ws.loadSchema .asked) .asked .columns (by simp)
    | comment => exact fun dirty => absurd dirty (by simp [clean])

theorem tableCommentDirty_of_hasDirtyChanges (clean : ws.hasDirtyChanges props = false) : ws.tableCommentDirty = false := by
  by_contra dirty
  simp only [Bool.not_eq_false] at dirty
  simp [Rendering.hasDirtyChanges, Rendering.ddlStatements, dirty] at clean

theorem refresh_kept (part : Part) : Kept ws.toRendering (ws.refresh props).toRendering part := by
  unfold refresh
  split
  · exact Kept.refl _ _
  next clean =>
    simp only [not_or, Bool.not_eq_true] at clean
    exact ws.loadTable_kept (ws.tableCommentDirty_of_hasDirtyChanges clean.1)

theorem filterBuilt_kept (index : Nat) (accepted : Bool) (part : Part) :
    Kept ws.toRendering (ws.filterBuilt props index accepted).toRendering part := by
  unfold filterBuilt
  split
  · exact Kept.refl _ _
  next seen _ =>
    cases accepted with
    | false => exact Kept.refl _ _
    | true => exact loadPage_kept { ws with filterBuilds := ws.filterBuilds.eraseIdx index } seen seen.schema false part

/-- A step that is no edit leaves the parts alone that it does not reset. -/
theorem step_kept (event : Event) {part : Part} (reply : ∀ edit, event ≠ .edit edit)
    (unreset : ∀ reload, ws.reset event ≠ some (part, reload)) :
    Kept ws.toRendering (step props ws event).toRendering part := by
  cases event with
  | edit edit => exact absurd rfl (reply edit)
  | commit kind => exact ws.commit_rendering kind ▸ Kept.refl _ _
  | refresh => exact ws.refresh_kept part
  | loadPage => exact ws.loadPage_kept _ _ _ part
  | applyQuickFilter =>
    simp only [step, applyQuickFilter]
    split <;> exact Kept.refl _ _
  | filterBuilt index accepted => exact ws.filterBuilt_kept index accepted part
  | ddlBuilt index answer => exact ws.ddlBuilt_rendering index answer ▸ Kept.refl _ _
  | ddlSettled error =>
    simp only [step, ddlSettled]
    cases run : ws.ddlRun with
    | none => exact Kept.refl _ _
    | some sent =>
      cases error with
      | some error => exact Kept.refl _ _
      | none =>
        refine loadDdl_kept (loadSchema { ws with ddlRun := none, mutationError := none } (.committed sent)) _ ?_
        rintro rfl
        by_contra busy
        simp only [not_or, Bool.not_eq_true, Option.isSome_eq_false_iff] at busy
        have idle : ws.ddlLoad.isNone = true ∧ ws.rawDdl ≠ "" := busy
        refine unreset (.committed sent) ?_
        rw [reset, if_pos idle, run]
        rfl
  | dmlSettled error =>
    simp only [step, dmlSettled]
    cases commit : ws.dmlCommit with
    | none => exact Kept.refl _ _
    | some sent =>
      cases error with
      | some error => exact Kept.refl _ _
      | none =>
        have cleared : Kept ws.toRendering
            { ws with dmlCommit := none, updatedRows := .empty, deletedRows := .empty, insertedRows := [] }.toRendering part := by
          cases part with
          | data => exact absurd (by rw [reset, commit]; rfl) (unreset (.committed sent))
          | columns => exact ⟨rfl, rfl⟩
          | comment => exact fun _ => ⟨rfl, rfl⟩
        exact cleared.trans (loadPage_kept _ sent sent.schema true part)
  | schemaSettled answer =>
    simp only [step, schemaSettled]
    cases load : ws.schemaLoad with
    | none => exact Kept.refl _ _
    | some reload =>
      cases answer with
      | none => exact Kept.refl _ _
      | some rows =>
        have replaced : Kept ws.toRendering
            { withDraftColumns { ws with schemaLoad := none } (parseSchemaRows props rows) with
              schema := parseSchemaRows props rows }.toRendering part := by
          cases part with
          | data => exact ⟨rfl, rfl, rfl⟩
          | columns => exact absurd (by rw [reset, load]; rfl) (unreset reload)
          | comment => exact fun _ => ⟨rfl, rfl⟩
        exact replaced.trans (loadPage_kept _ _ _ false part)
  | createTable statement =>
    simp only [step]
    split
    next loading =>
      refine ws.withRawDdl_kept statement ?_
      rintro rfl
      by_contra other
      obtain ⟨reload, load⟩ := Option.isSome_iff_exists.mp loading.1
      have first : ws.rawDdl = "" ∧ statement ≠ "" := ⟨loading.2, fun empty => other (empty.trans loading.2.symm)⟩
      refine unreset reload ?_
      rw [reset, if_pos first, load]
      rfl
    · exact Kept.refl _ _
  | createTableSettled => exact Kept.refl _ _
  | pageColumns columns | pageRows rows =>
    simp only [step]
    split <;> exact Kept.same rfl rfl rfl rfl rfl rfl rfl part
  | pageSettled | charsetsLoaded catalog => exact Kept.same rfl rfl rfl rfl rfl rfl rfl part

theorem parseSchemaRows_sourceName {rows : List (List CellValue)} {column : TableColumnDefinition}
    (member : column ∈ parseSchemaRows props rows) : column.sourceName = some column.name := by
  obtain ⟨row, -, rfl⟩ := List.mem_map.mp member
  rfl

/-- Nothing is staged in cleared rows, in drafts equal to the structure, or without a draft of the comment. -/
theorem not_staged_data {seen : Rendering} {edit : StagedEdit} (part : edit.part = .data)
    (updated : seen.updatedRows = .empty) (deleted : seen.deletedRows = .empty) (inserted : seen.insertedRows = []) :
    ¬ edit.Staged seen := by
  intro staged
  cases edit with
  | cell identity columnName value =>
    obtain ⟨row, found, -⟩ := staged
    rw [updated] at found
    cases found
  | deletion identity =>
    rw [StagedEdit.Staged, deleted] at staged
    cases staged
  | insertion row copy => simp [StagedEdit.Staged, inserted] at staged
  | column | removal | tableComment => cases part

theorem not_staged_columns {seen : Rendering} {edit : StagedEdit} (part : edit.part = .columns)
    (same : seen.draftColumns = seen.schema) (sources : ∀ column ∈ seen.schema, column.sourceName = some column.name) :
    ¬ edit.Staged seen := by
  intro staged
  cases edit with
  | column draft copy =>
    obtain ⟨other, counted⟩ := staged
    rw [same] at counted
    exact other (List.count_pos_iff.mp (Nat.zero_lt_of_lt counted))
  | removal columnName =>
    obtain ⟨listed, removed⟩ := staged
    obtain ⟨column, member, rfl⟩ := List.mem_map.mp listed
    exact removed column (same ▸ member) (sources column member)
  | cell | deletion | insertion | tableComment => cases part

theorem not_staged_comment {seen : Rendering} {edit : StagedEdit} (part : edit.part = .comment)
    (undrafted : seen.draftTableComment = none) : ¬ edit.Staged seen := by
  intro staged
  cases edit with
  | tableComment comment =>
    rw [StagedEdit.Staged, undrafted] at staged
    cases staged.1
  | cell | deletion | insertion | column | removal => cases part

/-- A reset unstages the whole part. -/
theorem reset_unstages {event : Event} {part : Part} {reload : Reload} (resets : ws.reset event = some (part, reload))
    {edit : StagedEdit} (inside : edit.part = part) : ¬ edit.Staged (step props ws event).toRendering := by
  unfold reset at resets
  split at resets
  · obtain ⟨sent, commit, shape⟩ := Option.map_eq_some_iff.mp resets
    cases shape
    obtain ⟨updated, deleted, inserted⟩ := @loadPage_kept props
      { ws with dmlCommit := none, updatedRows := .empty, deletedRows := .empty, insertedRows := [] } sent sent.schema true .data
    simp only [step, dmlSettled, commit]
    exact not_staged_data inside updated deleted inserted
  next rows =>
    obtain ⟨reload, load, shape⟩ := Option.map_eq_some_iff.mp resets
    cases shape
    let replaced := { withDraftColumns { ws with schemaLoad := none } (parseSchemaRows props rows) with
      schema := parseSchemaRows props rows }
    obtain ⟨schema, drafts⟩ := @loadPage_kept props replaced ws.toRendering (parseSchemaRows props rows) false .columns
    simp only [step, schemaSettled, load, Option.isNone_some, Bool.false_eq_true, ↓reduceIte]
    refine not_staged_columns inside (drafts.trans schema.symm) ?_
    intro column member
    exact parseSchemaRows_sourceName (schema ▸ member)
  · split at resets
    next idle =>
      obtain ⟨sent, run, shape⟩ := Option.map_eq_some_iff.mp resets
      cases shape
      let loading := loadSchema { ws with ddlRun := none, mutationError := none } (.committed sent)
      have started : loading.ddlLoad.isSome = false := Option.isSome_eq_false_iff.mpr idle.1
      have dropped := @withRawDdl_undrafted loading "" (Ne.symm idle.2)
      simp only [step, ddlSettled, run, Option.isSome_none, Bool.false_eq_true, ↓reduceIte]
      refine not_staged_comment inside ?_
      show (loading.loadDdl (.committed sent)).draftTableComment = none
      rw [loadDdl, started]
      exact dropped
    next => cases resets
  next statement =>
    split at resets
    next first =>
      obtain ⟨reload', load, shape⟩ := Option.map_eq_some_iff.mp resets
      cases shape
      have loading : ws.ddlLoad.isSome = true ∧ ws.rawDdl = "" := ⟨Option.isSome_iff_exists.mpr ⟨reload, load⟩, first.1⟩
      simp only [step]
      rw [if_pos loading]
      exact not_staged_comment inside (ws.withRawDdl_undrafted fun same => first.2 (same.trans first.1))
    next => cases resets
  · cases resets

/-- What may unstage an edit: the user, a refresh, and the landing of a commit that had sent it. -/
def Excused (event : Event) (edit : StagedEdit) : Prop :=
  (∃ change, event = .edit change) ∨ ws.reset event = some (edit.part, .asked) ∨
    ∃ sent, ws.reset event = some (edit.part, .committed sent) ∧ edit.Staged sent

variable (props) in
/-- The edit stays staged through a run, until a step unstages it that may. -/
def StaysStaged (edit : StagedEdit) : List Event → TableWorkspace → Prop
  | [], _ => True
  | event :: events, ws =>
    (edit.Staged (step props ws event).toRendering ∧ StaysStaged edit events (step props ws event)) ∨
      (¬ edit.Staged (step props ws event).toRendering ∧ ws.Excused event edit)

/-- A commit that lands clears nothing that was staged only after it was sent. -/
def LandsClean (event : Event) : Prop :=
  ∀ part sent, ws.reset event = some (part, .committed sent) →
    ∀ edit : StagedEdit, edit.part = part → edit.Staged ws.toRendering → edit.Staged sent

theorem staysStaged_step {event : Event} (clean : ws.LandsClean event) {edit : StagedEdit} (staged : edit.Staged ws.toRendering) :
    edit.Staged (step props ws event).toRendering ∨ ws.Excused event edit := by
  by_cases user : ∃ change, event = .edit change
  · exact Or.inr (Or.inl user)
  by_cases resets : ∃ reload, ws.reset event = some (edit.part, reload)
  · obtain ⟨reload, resets⟩ := resets
    cases reload with
    | asked => exact Or.inr (Or.inr (Or.inl resets))
    | committed sent => exact Or.inr (Or.inr (Or.inr ⟨sent, resets, clean edit.part sent resets edit rfl staged⟩))
  · have kept := @step_kept props ws event edit.part (fun change same => user ⟨change, same⟩)
      fun reload same => resets ⟨reload, same⟩
    exact Or.inl (kept.staged staged)

theorem staysStaged_run {events : List Event} (clean : Runs.Permitted (step props) LandsClean ws events) {edit : StagedEdit}
    (staged : edit.Staged ws.toRendering) : StaysStaged props edit events ws := by
  induction events generalizing ws with
  | nil => trivial
  | cons event events ih =>
    obtain ⟨first, later⟩ := (Runs.permitted_cons _).mp clean
    by_cases next : edit.Staged (step props ws event).toRendering
    · exact Or.inl ⟨next, ih _ later next⟩
    · exact Or.inr ⟨next, (ws.staysStaged_step first staged).resolve_left next⟩

/-- In a run, every staged edit stays staged until the user, a refresh or the landing of
a commit that had sent it unstages it, exactly if no commit lands on edits that were
staged after it was sent. -/
theorem run_staysStaged_iff (props : TableWorkspaceProps) (events : List Event) :
    (∀ early late, events = early ++ late → ∀ edit : StagedEdit,
        edit.Staged (Runs.run (step props) (initial props) early).toRendering →
        StaysStaged props edit late (Runs.run (step props) (initial props) early)) ↔
      Runs.Permitted (step props) LandsClean (initial props) events := by
  constructor
  · intro stays before event after split part sent resets edit inside staged
    rcases stays before (event :: after) split edit staged with ⟨next, -⟩ | ⟨-, excused⟩
    · exact absurd next (reset_unstages _ resets inside)
    · rcases excused with ⟨change, rfl⟩ | asked | ⟨sent', same, known⟩
      · cases resets
      · rw [inside, resets] at asked
        cases asked
      · rw [inside, resets] at same
        cases same
        exact known
  · rintro clean early late rfl edit staged
    exact staysStaged_run _ (Runs.permitted_rest _ clean) staged

/-- A table of one column, on a connection that is not production. -/
def ordersTable : TableWorkspaceProps where
  database := "shop"
  tableName := "orders"
  production := false
  rules := { numberText := fun _ => "0", editableValueToMutationValue := fun value _ => .ok (value.elim .null .text) }
  toLowerCase := id

/-- A row is added and committed, and another one is added before the commit lands. -/
def rowAddedInFlight : List Event :=
  [.schemaSettled (some [[.text "id", .text "int", .text "NO", .null, .text "PRI", .text "", .text "", .null, .null, .text ""]]),
    .pageColumns [{ name := "id", databaseType := "INT", nullable := some false }], .pageSettled, .edit .addInsertedRow, .commit .dml,
    .edit .addInsertedRow]

theorem landing_drops_row :
    (StagedEdit.insertion .empty 1).Staged
        (Runs.run (step ordersTable) (initial ordersTable) rowAddedInFlight).toRendering ∧
      ¬ StaysStaged ordersTable (.insertion .empty 1) [.dmlSettled none]
        (Runs.run (step ordersTable) (initial ordersTable) rowAddedInFlight) := by
  generalize state : Runs.run (step ordersTable) (initial ordersTable) rowAddedInFlight = ws
  have added : ws.insertedRows = [.empty, .empty] := by
    rw [← state]
    decide
  have committed : ws.dmlCommit.map (·.insertedRows) = some [.empty] := by
    rw [← state]
    decide
  obtain ⟨sent, commit, inserted⟩ := Option.map_eq_some_iff.mp committed
  have resets : ws.reset (.dmlSettled none) = some (.data, .committed sent) := by
    rw [reset, commit]
    rfl
  constructor
  · rw [StagedEdit.Staged, added]
    decide
  · rintro (⟨staged, -⟩ | ⟨-, excused⟩)
    · exact ws.reset_unstages resets rfl staged
    · rcases excused with ⟨change, same⟩ | asked | ⟨sent', same, staged⟩
      · cases same
      · rw [resets] at asked
        cases asked
      · rw [resets] at same
        cases same
        rw [StagedEdit.Staged, inserted] at staged
        exact absurd staged (by decide)

end TableWorkspace
end Pipa.TableEditing
