import Pipa.Proofs.TableWorkspaceEdits

/-! What a production confirmation covers. Editing withdraws it; a reply that changes
the statements does not. -/

namespace Pipa.TableEditing.TableWorkspace
open TableMutations TableSql Runs

variable {props : TableWorkspaceProps} (ws : TableWorkspace)

/-- Replies arrive by themselves; every other event is a gesture of the user. -/
def Event.isReply : Event → Bool
  | .filterBuilt _ _ | .ddlBuilt _ _ | .ddlSettled _ | .dmlSettled _ | .schemaSettled _ | .createTable _
  | .createTableSettled | .pageColumns _ | .pageRows _ | .pageSettled | .charsetsLoaded _ => true
  | .edit _ | .commit _ | .refresh | .loadPage | .applyQuickFilter => false

/-- An edit withdraws the confirmation, or does nothing. -/
theorem edit_withdraws (edit : Edit) : (ws.edit props edit).pendingProductionAction = none ∨ ws.edit props edit = ws := by
  cases edit with
  | deleteSelectedRows selectedRows =>
    simp only [TableWorkspace.edit, deleteSelectedRows]
    split
    · exact Or.inr rfl
    · exact Or.inl rfl
  | _ => exact Or.inl rfl

theorem loadPage_pending (seen : Rendering) (orderingSchema : List TableColumnDefinition) (allowDirty : Bool) :
    (ws.loadPage props seen orderingSchema allowDirty).pendingProductionAction = ws.pendingProductionAction := by
  rcases @loadPage_cases props ws seen orderingSchema allowDirty with same | emptied
  · rw [same]
  · rw [emptied]

theorem withRawDdl_pending (rawDdl : String) : (ws.withRawDdl rawDdl).pendingProductionAction = ws.pendingProductionAction := by
  rcases ws.withRawDdl_cases rawDdl with ⟨-, same⟩ | ⟨-, error, replaced⟩
  · rw [same]
  · rw [replaced]

theorem loadDdl_pending (reload : Reload) : (ws.loadDdl reload).pendingProductionAction = ws.pendingProductionAction := by
  unfold loadDdl
  split
  · rfl
  · exact ws.withRawDdl_pending ""

theorem loadTable_pending : (ws.loadTable props).pendingProductionAction = ws.pendingProductionAction := by
  unfold loadTable
  split
  · rfl
  · exact loadDdl_pending (ws.loadSchema .asked) .asked

/-- No reply and no load touches the confirmation. -/
theorem step_pending (event : Event) (other : ∀ edit, event ≠ .edit edit) (uncommitted : ∀ kind, event ≠ .commit kind) :
    (step props ws event).pendingProductionAction = ws.pendingProductionAction := by
  cases event with
  | edit edit => exact absurd rfl (other edit)
  | commit kind => exact absurd rfl (uncommitted kind)
  | refresh =>
    simp only [step, refresh]
    split
    · rfl
    · exact ws.loadTable_pending
  | loadPage => exact ws.loadPage_pending _ _ _
  | applyQuickFilter =>
    simp only [step, applyQuickFilter]
    split <;> rfl
  | filterBuilt index accepted =>
    simp only [step, filterBuilt]
    split
    · rfl
    next seen _ =>
      cases accepted with
      | false => rfl
      | true => exact loadPage_pending { ws with filterBuilds := ws.filterBuilds.eraseIdx index } seen seen.schema false
  | ddlBuilt index answer =>
    simp only [step, ddlBuilt, runDdl]
    split
    · rfl
    · cases answer with
      | failed => rfl
      | planned errors statements comment =>
        dsimp only
        (repeat' split) <;> rfl
  | ddlSettled error =>
    simp only [step, ddlSettled]
    split
    · rfl
    · cases error with
      | some error => rfl
      | none => exact loadDdl_pending (loadSchema { ws with ddlRun := none, mutationError := none } (.committed _)) _
  | dmlSettled error =>
    simp only [step, dmlSettled]
    split
    · rfl
    next sent _ =>
      cases error with
      | some error => rfl
      | none =>
        exact loadPage_pending
          { ws with dmlCommit := none, updatedRows := .empty, deletedRows := .empty, insertedRows := [] } sent sent.schema true
  | schemaSettled answer =>
    simp only [step, schemaSettled]
    split
    · rfl
    · cases answer with
      | none => rfl
      | some rows =>
        exact loadPage_pending { withDraftColumns { ws with schemaLoad := none } (parseSchemaRows props rows) with
          schema := parseSchemaRows props rows } _ _ false
  | createTable statement =>
    simp only [step]
    split
    · exact ws.withRawDdl_pending statement
    · rfl
  | createTableSettled | pageSettled | charsetsLoaded catalog => rfl
  | pageColumns columns | pageRows rows =>
    simp only [step]
    split <;> rfl

/-- Nothing staged in the rows makes no statement. -/
theorem dmlStatements_of_clean {seen : Rendering} (clean : seen.hasDmlChanges = false) : seen.dmlStatements props = [] := by
  simp only [Rendering.hasDmlChanges, decide_eq_false_iff_not, not_or, not_not] at clean
  obtain ⟨updated, deleted, inserted⟩ := clean
  simp [Rendering.dmlStatements, Rendering.dmlPlan, buildTableMutationPlan, updated, deleted, inserted]

theorem ddlStatements_of_clean {seen : Rendering} (clean : seen.tableCommentDirty = false) :
    seen.ddlStatements props = buildDdlStatements props.database props.tableName seen.schema seen.draftColumns := by
  simp [Rendering.ddlStatements, clean]

/-- The user's own loads leave both lists as they are: they are refused while anything is staged. -/
theorem loadPage_statements (kind : MutationKind) :
    (step props ws .loadPage).statements props kind = ws.statements props kind := by
  by_cases clean : ws.hasDmlChanges = true
  · simp only [step, loadPage]
    rw [if_pos (by simp [clean])]
  · rw [Bool.not_eq_true] at clean
    rcases @loadPage_cases props ws ws.toRendering ws.schema false with same | emptied
    · rw [step, same]
    · rw [step, emptied]
      cases kind with
      | ddl => rfl
      | dml =>
        have still : Rendering.hasDmlChanges { ws.toRendering with columns := [], rows := [], dataRunning := true } = false :=
          clean
        exact (dmlStatements_of_clean still).trans (dmlStatements_of_clean clean).symm

theorem loadTable_statements (clean : ws.tableCommentDirty = false) (kind : MutationKind) :
    (ws.loadTable props).statements props kind = ws.statements props kind := by
  unfold loadTable
  split
  · rfl
  unfold loadDdl
  split
  · rfl
  rcases (ws.loadSchema .asked).withRawDdl_cases "" with ⟨-, same⟩ | ⟨-, error, replaced⟩
  · rw [same]
    rfl
  · rw [replaced]
    cases kind with
    | dml => rfl
    | ddl =>
      have undrafted : Rendering.tableCommentDirty { ws.toRendering with rawDdl := "", draftTableComment := none } = false := by
        simp [Rendering.tableCommentDirty, Rendering.tableComment, Rendering.serverTableComment]
      exact (ddlStatements_of_clean undrafted).trans (@ddlStatements_of_clean props ws.toRendering clean).symm

theorem refresh_statements (kind : MutationKind) :
    (step props ws .refresh).statements props kind = ws.statements props kind := by
  simp only [step, refresh]
  split
  · rfl
  next clean =>
    simp only [not_or, Bool.not_eq_true] at clean
    exact ws.loadTable_statements (ws.tableCommentDirty_of_hasDirtyChanges clean.1) kind

/-- A reply that arrives while a confirmation is armed leaves the armed statements as they are. -/
def Steady (props : TableWorkspaceProps) (event : Event) : Prop :=
  event.isReply = true → ∀ kind, ws.pendingProductionAction = some kind →
    (step props ws event).statements props kind = ws.statements props kind

/-- The event is a commit that passes its checks. -/
def Sends (props : TableWorkspaceProps) (event : Event) : Prop := ∃ kind, event = .commit kind ∧ ws.attempt props kind = .sent

/-- The statements were shown when a commit of this kind armed the confirmation, and
nothing was sent since. -/
def ArmedWith (props : TableWorkspaceProps) (history : List Event) (kind : MutationKind) (shown : List String) : Prop :=
  ∃ early late, history = early ++ .commit kind :: late ∧
    (run (step props) (initial props) early).attempt props kind = .armed ∧
    (run (step props) (initial props) early).statements props kind = shown ∧
    Permitted (step props) (fun ws event => ¬ ws.Sends props event)
      (run (step props) (initial props) (early ++ [.commit kind])) late

theorem not_sends {event : Event} (uncommitted : ∀ kind, event ≠ .commit kind) : ¬ ws.Sends props event := by
  rintro ⟨kind, same, -⟩
  exact uncommitted kind same

/-- A gesture that is neither an edit nor a commit leaves both lists as they are. -/
theorem gesture_statements {event : Event} (gesture : event.isReply = false) (other : ∀ edit, event ≠ .edit edit)
    (uncommitted : ∀ kind, event ≠ .commit kind) (kind : MutationKind) :
    (step props ws event).statements props kind = ws.statements props kind := by
  cases event with
  | edit edit => exact absurd rfl (other edit)
  | commit kind => exact absurd rfl (uncommitted kind)
  | refresh => exact ws.refresh_statements kind
  | loadPage => exact ws.loadPage_statements kind
  | applyQuickFilter =>
    simp only [step, applyQuickFilter]
    split <;> rfl
  | _ => cases gesture

/-- A commit that leaves a confirmation armed has armed it, or was ignored. -/
theorem commit_armed {kind other : MutationKind} (armed : (ws.commit props other).pendingProductionAction = some kind) :
    (other = kind ∧ ws.attempt props kind = .armed) ∨
      (ws.pendingProductionAction = some kind ∧ ws.attempt props other = .ignored) := by
  cases outcome : ws.attempt props other with
  | ignored =>
    have same : ws.commit props other = ws := by simp [commit, outcome]
    exact Or.inr ⟨same ▸ armed, rfl⟩
  | armed =>
    simp only [commit, outcome, Option.some.injEq] at armed
    subst armed
    exact Or.inl ⟨rfl, outcome⟩
  | sent => cases other <;> simp [commit, outcome] at armed

/-- A confirmation that is armed after a step was armed by it, or was armed before, and
then the step sent nothing and left the statements as they are. -/
theorem step_armed {event : Event} (steady : ws.Steady props event) {kind : MutationKind}
    (armed : (step props ws event).pendingProductionAction = some kind) :
    (step props ws event).statements props kind = ws.statements props kind ∧
      ((event = .commit kind ∧ ws.attempt props kind = .armed) ∨
        (ws.pendingProductionAction = some kind ∧ ¬ ws.Sends props event)) := by
  by_cases edits : ∃ edit, event = .edit edit
  · obtain ⟨edit, rfl⟩ := edits
    rcases @edit_withdraws props ws edit with withdrawn | same
    · rw [step, withdrawn] at armed
      cases armed
    · rw [step, same] at armed ⊢
      exact ⟨rfl, Or.inr ⟨armed, ws.not_sends (by simp)⟩⟩
  by_cases commits : ∃ other, event = .commit other
  · obtain ⟨other, rfl⟩ := commits
    refine ⟨congrArg (Rendering.statements props · kind) (ws.commit_rendering other), ?_⟩
    rcases ws.commit_armed armed with ⟨rfl, arms⟩ | ⟨before, ignored⟩
    · exact Or.inl ⟨rfl, arms⟩
    · refine Or.inr ⟨before, ?_⟩
      rintro ⟨kind', same, sent⟩
      cases same
      rw [ignored] at sent
      cases sent
  have other := not_exists.mp edits
  have uncommitted := not_exists.mp commits
  have before : ws.pendingProductionAction = some kind := (ws.step_pending event other uncommitted).symm.trans armed
  refine ⟨?_, Or.inr ⟨before, ws.not_sends uncommitted⟩⟩
  cases reply : event.isReply with
  | true => exact steady reply kind before
  | false => exact ws.gesture_statements reply other uncommitted kind

/-- While a confirmation is armed, its statements are those shown when it was armed. -/
theorem run_armed {events : List Event} (steady : Permitted (step props) (fun ws event => ws.Steady props event) (initial props) events)
    {kind : MutationKind} (armed : (run (step props) (initial props) events).pendingProductionAction = some kind) :
    ArmedWith props events kind ((run (step props) (initial props) events).statements props kind) := by
  revert kind
  refine @permitted_history _ _ (step props) (fun ws => ws.Steady props) (initial props)
    (fun history ws => ∀ {kind}, ws.pendingProductionAction = some kind → ArmedWith props history kind (ws.statements props kind))
    ?_ ?_ events steady
  · intro kind armed
    rw [initial, loadTable_pending] at armed
    cases armed
  · intro history event steady held kind armed
    obtain ⟨same, here | ⟨before, silent⟩⟩ := step_armed _ steady armed
    · obtain ⟨rfl, arms⟩ := here
      exact ⟨history, [], rfl, arms, same.symm, permitted_nil _ _ _⟩
    · obtain ⟨early, late, rfl, arms, shown, quiet⟩ := held before
      refine ⟨early, late ++ [event], by simp, arms, shown.trans same.symm, permitted_concat _ quiet ?_⟩
      rw [← run_append, List.append_assoc]
      exact silent

theorem sent_pending {kind : MutationKind} (production : props.production = true) (sent : ws.attempt props kind = .sent) :
    ws.pendingProductionAction = some kind := by
  by_contra other
  unfold attempt at sent
  split at sent
  · cases sent
  split at sent
  · cases sent
  rw [if_pos ⟨production, other⟩] at sent
  cases sent

/-- In a run whose replies leave armed statements as they are, whatever passes the
confirmation was shown when the confirmation was armed, and nothing else has passed since. -/
theorem run_confirmed (production : props.production = true) {events before after : List Event} {kind : MutationKind}
    (steady : Permitted (step props) (fun ws => ws.Steady props) (initial props) events)
    (split : events = before ++ .commit kind :: after)
    (sent : (run (step props) (initial props) before).attempt props kind = .sent) :
    ArmedWith props before kind ((run (step props) (initial props) before).statements props kind) := by
  subst split
  exact run_armed (permitted_initial _ steady) (sent_pending _ production sent)

def productionTable : TableWorkspaceProps := { ordersTable with production := true }

theorem run_confirmed_newRow :
    ArmedWith productionTable [.edit .addInsertedRow, .commit .dml] .dml
      ((run (step productionTable) (initial productionTable) [.edit .addInsertedRow, .commit .dml]).statements
        productionTable .dml) := by
  have steady : Permitted (step productionTable) (fun ws => ws.Steady productionTable) (initial productionTable)
      ([.edit .addInsertedRow, .commit .dml] ++ [.commit .dml]) := by
    intro before event after split reply
    have member : event ∈ ([.edit .addInsertedRow, .commit .dml] ++ [.commit .dml] : List Event) := by simp [split]
    simp only [List.cons_append, List.nil_append, List.mem_cons, List.not_mem_nil, or_false] at member
    rcases member with rfl | rfl | rfl <;> cases reply
  exact run_confirmed rfl steady rfl (by decide)

/-- A new column and a comment are staged and shown while the structure is still loading. -/
def armedWhileLoading : List Event := [.edit .addDraftColumn, .edit (.changeComment "orders"), .commit .ddl]

def loadedSchema : Event :=
  .schemaSettled (some [[.text "id", .text "int", .text "NO", .null, .text "PRI", .text "", .text "", .null, .null, .text ""]])

/-- The structure arrives and drops the new column; the confirmation still passes. -/
theorem reload_changes_confirmed :
    (run (step productionTable) (initial productionTable) (armedWhileLoading ++ [loadedSchema])).attempt
        productionTable .ddl = .sent ∧
      ¬ ArmedWith productionTable (armedWhileLoading ++ [loadedSchema]) .ddl
        ((run (step productionTable) (initial productionTable) (armedWhileLoading ++ [loadedSchema])).statements
          productionTable .ddl) := by
  have passes : (run (step productionTable) (initial productionTable) (armedWhileLoading ++ [loadedSchema])).attempt
      productionTable .ddl = .sent := by decide +kernel
  have shown : ((run (step productionTable) (initial productionTable)
      [.edit .addDraftColumn, .edit (.changeComment "orders")]).statements productionTable .ddl).length = 2 := by
    decide +kernel
  have sent : ((run (step productionTable) (initial productionTable) (armedWhileLoading ++ [loadedSchema])).statements
      productionTable .ddl).length = 1 := by decide +kernel
  refine ⟨passes, ?_⟩
  rintro ⟨early, late, split, -, same, -⟩
  obtain rfl : early = [.edit .addDraftColumn, .edit (.changeComment "orders")] := by
    rcases early with _ | ⟨first, _ | ⟨second, _ | ⟨third, _ | ⟨fourth, rest⟩⟩⟩⟩ <;>
      simp_all [armedWhileLoading, loadedSchema]
  rw [← same, shown] at sent
  cases sent

end Pipa.TableEditing.TableWorkspace
