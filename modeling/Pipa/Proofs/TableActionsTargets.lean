import Pipa.TableActions

/-! Which table an action acts on. The target of a request is carried to the end, but
the statements are built with the default schema of the connection. -/

namespace Pipa.TableActions
open Runs

/-- The statement reads or changes this table, and writes to its schema only. -/
def TableStatement.Names (statement : TableStatement) (target : TableTarget) : Prop :=
  match statement with
  | .truncate table | .drop table => table = ⟨target.database, target.tableName⟩
  | .rename source destination | .createLike destination source | .copyRows destination source =>
    source = ⟨target.database, target.tableName⟩ ∧ destination.database = target.database

theorem destructive_names_iff (action : TableDestructiveAction) (database : String) (target : TableTarget) :
    (buildDestructiveTableStatement action database target.tableName).Names target ↔ database = target.database := by
  cases action <;> simp [buildDestructiveTableStatement, TableStatement.Names]

theorem primary_names_iff (action : TableNameAction) (database nextTableName : String) (copyData : Bool) (target : TableTarget) :
    (buildTableNameActionStatements action database target.tableName nextTableName copyData).primary.Names target ↔
      database = target.database := by
  cases action <;> simp [buildTableNameActionStatements, TableStatement.Names]

theorem copyRows_names {action : TableNameAction} {database nextTableName : String} {copyData : Bool} {target : TableTarget}
    (same : database = target.database) {statement : TableStatement}
    (copies : (buildTableNameActionStatements action database target.tableName nextTableName copyData).copyRows = some statement) :
    statement.Names target := by
  cases action with
  | rename => cases copies
  | duplicate =>
    cases copyData with
    | false => cases copies
    | true =>
      cases copies
      exact ⟨by rw [same], same⟩

namespace App

/-- An action on the table is pending or in flight. -/
def ActsOn (app : App) (target : TableTarget) : Prop :=
  (∃ pending, app.pendingTableAction = some pending ∧ pending.target = target) ∨
  (∃ executing, app.executingTableAction = some executing ∧ executing.pending.target = target) ∨
  (∃ pending, app.pendingTableNameAction = some pending ∧ pending.target = target) ∨
  ∃ executing, app.executingTableNameAction = some executing ∧ executing.pending.target = target

variable {app : App}

/-- A state in which no further action is pending or in flight acts on no further table. -/
theorem ActsOn.narrow {next : App} {target : TableTarget} (acts : next.ActsOn target)
    (pendingAction : ∀ pending, next.pendingTableAction = some pending → app.pendingTableAction = some pending)
    (executingAction : ∀ executing, next.executingTableAction = some executing → app.executingTableAction = some executing)
    (pendingName : ∀ pending, next.pendingTableNameAction = some pending → app.pendingTableNameAction = some pending)
    (executingName : ∀ executing, next.executingTableNameAction = some executing →
      app.executingTableNameAction = some executing) : app.ActsOn target := by
  rcases acts with ⟨pending, held, same⟩ | ⟨executing, held, same⟩ | ⟨pending, held, same⟩ | ⟨executing, held, same⟩
  · exact Or.inl ⟨pending, pendingAction pending held, same⟩
  · exact Or.inr (Or.inl ⟨executing, executingAction executing held, same⟩)
  · exact Or.inr (Or.inr (Or.inl ⟨pending, pendingName pending held, same⟩))
  · exact Or.inr (Or.inr (Or.inr ⟨executing, executingName executing held, same⟩))

theorem ActsOn.same {next : App} {target : TableTarget} (acts : next.ActsOn target)
    (pendingAction : next.pendingTableAction = app.pendingTableAction)
    (executingAction : next.executingTableAction = app.executingTableAction)
    (pendingName : next.pendingTableNameAction = app.pendingTableNameAction)
    (executingName : next.executingTableNameAction = app.executingTableNameAction) : app.ActsOn target :=
  acts.narrow (fun _ held => pendingAction ▸ held) (fun _ held => executingAction ▸ held) (fun _ held => pendingName ▸ held)
    (fun _ held => executingName ▸ held)

/-- The event requests an action on the table, and the request is accepted. -/
def Requests (app : App) (target : TableTarget) (event : Event) : Prop :=
  ∃ action, event = .requestTableAction target action ∧ (app.mySqlProfile target).isSome = true

theorem closeTables_actsOn (tabs : List OpenTableTab) {target : TableTarget}
    (acts : (tabs.foldl (fun app tab => app.closeTableImmediately tab.id) app).ActsOn target) : app.ActsOn target := by
  induction tabs generalizing app with
  | nil => exact acts
  | cons tab tabs ih => exact (ih acts).same rfl rfl rfl rfl

theorem request_actsOn {asked target : TableTarget} {action : TableQuickAction}
    (acts : (app.handleRequestTableAction asked action).ActsOn target) :
    app.ActsOn target ∨ app.Requests target (.requestTableAction asked action) := by
  unfold handleRequestTableAction at acts
  split at acts
  · exact Or.inl acts
  next profile accepted =>
    have requested : app.Requests asked (.requestTableAction asked action) := ⟨action, rfl, by simp [accepted]⟩
    cases action with
    | truncate | drop =>
      rcases acts with ⟨pending, waiting, rfl⟩ | other
      · cases waiting
        exact Or.inr requested
      · exact Or.inl (Or.inr other)
    | rename | duplicate =>
      rcases acts with destructive | executing | ⟨pending, waiting, rfl⟩ | other
      · exact Or.inl (Or.inl destructive)
      · exact Or.inl (Or.inr (Or.inl executing))
      · cases waiting
        exact Or.inr requested
      · exact Or.inl (Or.inr (Or.inr (Or.inr other)))
    | _ => exact Or.inl (acts.same rfl rfl rfl rfl)

/-- An action in flight was pending. -/
theorem confirmed_pending {request : TableNameActionRequest} {executing : ExecutingTableNameAction}
    (confirmed : app.confirmedTableNameAction request = some (.ok executing)) :
    app.pendingTableNameAction = some executing.pending ∧
      ∃ profile database, app.profile executing.pending.target.connectionId = some profile ∧
        profile.database = some database ∧
        executing.statements = buildTableNameActionStatements executing.pending.action database
          executing.pending.target.tableName executing.nextTableName request.copyData := by
  simp only [confirmedTableNameAction, Option.bind_eq_bind, Option.bind_eq_some_iff] at confirmed
  obtain ⟨pending, waiting, profile, found, database, default_, passes⟩ := confirmed
  split at passes
  · cases passes
  split at passes
  · cases passes
  · cases passes
    exact ⟨waiting, profile, database, found, default_, rfl⟩

theorem tableActionSettled_actsOn (error : Option String) {target : TableTarget}
    (acts : (app.tableActionSettled error).ActsOn target) : app.ActsOn target := by
  unfold tableActionSettled at acts
  split at acts
  · exact acts
  next executing _ =>
    cases error with
    | some message => exact acts.narrow (fun _ => id) nofun (fun _ => id) fun _ => id
    | none =>
      dsimp only at acts
      split at acts <;> exact acts.narrow nofun nofun (fun _ => id) fun _ => id

/-- Once a rename or a copy has ended, nothing of it is in flight. -/
theorem ActsOn.settled {next : App} {target : TableTarget} (acts : next.ActsOn target)
    (pendingAction : next.pendingTableAction = app.pendingTableAction)
    (executingAction : next.executingTableAction = app.executingTableAction)
    (ended : next.executingTableNameAction = none)
    (pendingName : ∀ pending, next.pendingTableNameAction = some pending → app.pendingTableNameAction = some pending) :
    app.ActsOn target := by
  refine acts.narrow (fun _ held => pendingAction ▸ held) (fun _ held => executingAction ▸ held) pendingName ?_
  intro executing running
  rw [ended] at running
  cases running

theorem tableNameActionSettled_actsOn (error : Option String) {target : TableTarget}
    (acts : (app.tableNameActionSettled error).ActsOn target) : app.ActsOn target := by
  unfold tableNameActionSettled at acts
  split at acts
  · exact acts
  next executing running =>
    cases error with
    | some message =>
      dsimp only at acts
      split at acts
      · exact acts.settled rfl rfl rfl nofun
      · exact acts.settled rfl rfl rfl fun _ => id
    | none =>
      dsimp only at acts
      split at acts
      · exact acts.settled rfl rfl rfl nofun
      split at acts
      · exact acts.settled rfl rfl rfl nofun
      split at acts
      · rcases acts with held | held | held | ⟨copying, same, rfl⟩
        · exact Or.inl held
        · exact Or.inr (Or.inl held)
        · exact Or.inr (Or.inr (Or.inl held))
        · cases same
          exact Or.inr (Or.inr (Or.inr ⟨executing, running, rfl⟩))
      · exact acts.settled rfl rfl rfl nofun

/-- A step acts on what was acted on before, or on what it requests. -/
theorem step_actsOn {event : Event} {target : TableTarget} (acts : (step app event).ActsOn target) :
    app.ActsOn target ∨ app.Requests target event := by
  cases event with
  | profilesChanged | connectionDeleted | catalogLoaded | closeTable => exact Or.inl (acts.same rfl rfl rfl rfl)
  | databaseDropped connectionId database => exact Or.inl (closeTables_actsOn _ (acts.same rfl rfl rfl rfl))
  | openTable opened =>
    simp only [step, handleOpenTable] at acts
    split at acts
    · exact Or.inl acts
    split at acts
    · exact Or.inl acts
    · exact Or.inl (acts.same rfl rfl rfl rfl)
  | workspaceChanges tabId dirty =>
    simp only [step, workspaceChanges] at acts
    split at acts
    · exact Or.inl (acts.same rfl rfl rfl rfl)
    · exact Or.inl acts
  | requestTableAction asked action => exact request_actsOn acts
  | cancelTableAction =>
    simp only [step, handleCancelTableAction] at acts
    split at acts
    · exact Or.inl acts
    · exact Or.inl (acts.narrow nofun (fun _ => id) (fun _ => id) fun _ => id)
  | confirmTableAction =>
    simp only [step, handleConfirmTableAction] at acts
    split at acts
    next pending _ waiting _ =>
      rcases acts with held | ⟨executing, started, rfl⟩ | other
      · exact Or.inl (Or.inl held)
      · cases started
        exact Or.inl (Or.inl ⟨pending, waiting, rfl⟩)
      · exact Or.inl (Or.inr (Or.inr other))
    · exact Or.inl acts
  | tableActionSettled error => exact Or.inl (tableActionSettled_actsOn error acts)
  | cancelTableNameAction =>
    simp only [step, handleCancelTableNameAction] at acts
    split at acts
    · exact Or.inl acts
    · exact Or.inl (acts.narrow (fun _ => id) (fun _ => id) nofun fun _ => id)
  | confirmTableNameAction request =>
    simp only [step, handleConfirmTableNameAction] at acts
    split at acts
    · exact Or.inl acts
    · exact Or.inl (acts.same rfl rfl rfl rfl)
    next executing confirmed =>
      rcases acts with held | held | held | ⟨started, same, rfl⟩
      · exact Or.inl (Or.inl held)
      · exact Or.inl (Or.inr (Or.inl held))
      · exact Or.inl (Or.inr (Or.inr (Or.inl held)))
      · cases same
        exact Or.inl (Or.inr (Or.inr (Or.inl ⟨_, (confirmed_pending confirmed).1, rfl⟩)))
  | tableNameActionSettled error => exact Or.inl (tableNameActionSettled_actsOn error acts)

/-- Tabs, catalog entries and pins differ only where they belong to one of two tables of one schema. -/
structure Touches (app next : App) (target destination : TableTarget) : Prop where
  tabs : ∀ tab : OpenTableTab, tab.id ≠ tableTabId target → tab.id ≠ tableTabId destination →
    (tab ∈ next.openTableTabs ↔ tab ∈ app.openTableTabs)
  schemas : ∀ key, key ≠ (target.connectionId, target.database) → next.tableCatalog key = app.tableCatalog key
  names : ∀ name, name ≠ target.tableName → name ≠ destination.tableName →
    (name ∈ (next.tableCatalog (target.connectionId, target.database)).getD [] ↔
      name ∈ (app.tableCatalog (target.connectionId, target.database)).getD [])
  pins : ∀ key, key ≠ tableTargetKey target → key ≠ tableTargetKey destination →
    (key ∈ next.pinnedTableKeys ↔ key ∈ app.pinnedTableKeys)

theorem Touches.same {next : App} {target destination : TableTarget} (tabs : next.openTableTabs = app.openTableTabs)
    (catalog : next.tableCatalog = app.tableCatalog) (pins : next.pinnedTableKeys = app.pinnedTableKeys) :
    Touches app next target destination := by
  refine ⟨?_, ?_, ?_, ?_⟩ <;> intros <;> simp only [tabs, catalog, pins]

/-- The table that an event carries an action on, and the name it is copied or renamed to. -/
def acting (app : App) : Event → Option (TableTarget × String)
  | .confirmTableAction => app.pendingTableAction.map fun pending => (pending.target, pending.target.tableName)
  | .confirmTableNameAction _ => app.pendingTableNameAction.map fun pending => (pending.target, pending.target.tableName)
  | .tableActionSettled _ =>
    app.executingTableAction.map fun executing => (executing.pending.target, executing.pending.target.tableName)
  | .tableNameActionSettled _ =>
    app.executingTableNameAction.map fun executing => (executing.pending.target, executing.nextTableName)
  | _ => none

/-- What the event executes names the table of its action, and what it updates belongs to it. -/
def Follows (app : App) (event : Event) : Prop :=
  ∀ target destination, app.acting event = some (target, destination) →
    (∀ connectionId statement, app.executes event = some (connectionId, statement) →
      connectionId = target.connectionId ∧ statement.Names target) ∧
    Touches app (step app event) target { target with tableName := destination }

/-- The schema that a connection is saved with. -/
def defaultSchema (app : App) (connectionId : Uuid) : Option String := (app.profile connectionId).bind (·.database)

/-- A handler that edits pins started from the pins of the other tables as they are now. -/
def SamePins (captured current : Finset String) (target destination : TableTarget) : Prop :=
  tableTargetKey target ∈ captured → ∀ key, key ≠ tableTargetKey target → key ≠ tableTargetKey destination →
    (key ∈ captured ↔ key ∈ current)

/-- A confirmation that passes is about the default schema; pins that are written back are up to date. -/
def Agrees (app : App) : Event → Prop
  | .confirmTableAction => ∀ pending, app.pendingTableAction = some pending → app.confirmedTableAction.isSome = true →
      app.defaultSchema pending.target.connectionId = some pending.target.database
  | .confirmTableNameAction request => ∀ executing, app.confirmedTableNameAction request = some (.ok executing) →
      app.defaultSchema executing.pending.target.connectionId = some executing.pending.target.database
  | .tableActionSettled none => ∀ executing, app.executingTableAction = some executing → executing.pending.action = .drop →
      SamePins executing.pinnedTableKeys app.pinnedTableKeys executing.pending.target executing.pending.target
  | .tableNameActionSettled none => ∀ executing, app.executingTableNameAction = some executing →
      executing.pending.action = .rename →
      SamePins executing.pinnedTableKeys app.pinnedTableKeys executing.pending.target
        { executing.pending.target with tableName := executing.nextTableName }
  | _ => True

theorem confirmedTableAction_some {connectionId : Uuid} {statement : TableStatement}
    (confirmed : app.confirmedTableAction = some (connectionId, statement)) :
    ∃ pending database, app.pendingTableAction = some pending ∧ connectionId = pending.target.connectionId ∧
      app.defaultSchema pending.target.connectionId = some database ∧
      statement = buildDestructiveTableStatement pending.action database pending.target.tableName := by
  simp only [confirmedTableAction, Option.bind_eq_bind, Option.bind_eq_some_iff] at confirmed
  obtain ⟨pending, waiting, profile, found, database, default_, passes⟩ := confirmed
  split at passes
  · cases passes
  · cases passes
    exact ⟨pending, database, waiting, rfl, Option.bind_eq_some_iff.mpr ⟨profile, found, default_⟩, rfl⟩

theorem confirmTableAction_follows_iff : app.Follows .confirmTableAction ↔ app.Agrees .confirmTableAction := by
  have touches (target destination : TableTarget) : Touches app (step app .confirmTableAction) target destination := by
    simp only [step, handleConfirmTableAction]
    split <;> exact Touches.same rfl rfl rfl
  constructor
  · intro follows pending waiting passes
    obtain ⟨⟨connectionId, statement⟩, confirmed⟩ := Option.isSome_iff_exists.mp passes
    obtain ⟨pending', database, waiting', -, default_, rfl⟩ := confirmedTableAction_some confirmed
    obtain rfl := Option.some.inj (waiting.symm.trans waiting')
    have names := ((follows pending.target _ (by rw [acting, waiting]; rfl)).1 _ _ confirmed).2
    rw [default_, (destructive_names_iff _ _ _).mp names]
  · intro agrees target destination carried
    refine ⟨?_, touches _ _⟩
    intro connectionId statement confirmed
    obtain ⟨pending, database, waiting, rfl, default_, rfl⟩ := confirmedTableAction_some confirmed
    rw [acting, waiting] at carried
    cases carried
    have same := agrees pending waiting (Option.isSome_iff_exists.mpr ⟨_, confirmed⟩)
    exact ⟨rfl, (destructive_names_iff _ _ _).mpr (Option.some.inj (default_.symm.trans same))⟩


theorem confirmTableNameAction_follows_iff (request : TableNameActionRequest) :
    app.Follows (.confirmTableNameAction request) ↔ app.Agrees (.confirmTableNameAction request) := by
  have touches (target destination : TableTarget) :
      Touches app (step app (.confirmTableNameAction request)) target destination := by
    simp only [step, handleConfirmTableNameAction]
    split <;> exact Touches.same rfl rfl rfl
  constructor
  · intro follows executing confirmed
    obtain ⟨waiting, profile, database, found, default_, built⟩ := confirmed_pending confirmed
    have carried : app.acting (.confirmTableNameAction request) =
        some (executing.pending.target, executing.pending.target.tableName) := by rw [acting, waiting]; rfl
    have sent : app.executes (.confirmTableNameAction request) =
        some (executing.pending.target.connectionId, executing.statements.primary) := by rw [executes, confirmed]
    have names := ((follows _ _ carried).1 _ _ sent).2
    rw [built, primary_names_iff] at names
    exact Option.bind_eq_some_iff.mpr ⟨profile, found, names ▸ default_⟩
  · intro agrees target destination carried
    refine ⟨?_, touches _ _⟩
    intro connectionId statement sent
    rw [executes] at sent
    split at sent
    next executing confirmed =>
      obtain ⟨waiting, profile, database, found, default_, built⟩ := confirmed_pending confirmed
      have same : (app.profile executing.pending.target.connectionId).bind (·.database) =
          some executing.pending.target.database := agrees executing confirmed
      rw [found, Option.bind_some, default_] at same
      rw [acting, waiting] at carried
      cases carried
      cases sent
      exact ⟨rfl, by rw [built, primary_names_iff]; exact Option.some.inj same⟩
    · cases sent

/-! ### What a settled action updates -/

theorem removeTableFromCatalog_other (catalog : TableCatalog) (target : TableTarget) {key : Uuid × String}
    (other : key ≠ (target.connectionId, target.database)) : removeTableFromCatalog catalog target key = catalog key := by
  cases found : catalog (target.connectionId, target.database) with
  | none => simp only [removeTableFromCatalog, found]
  | some cached =>
    simp only [removeTableFromCatalog, found]
    exact Function.update_of_ne other _ _

theorem mem_removeTableFromCatalog (catalog : TableCatalog) (target : TableTarget) {name : String}
    (other : name ≠ target.tableName) :
    name ∈ (removeTableFromCatalog catalog target (target.connectionId, target.database)).getD [] ↔
      name ∈ (catalog (target.connectionId, target.database)).getD [] := by
  cases found : catalog (target.connectionId, target.database) with
  | none => simp only [removeTableFromCatalog, found]
  | some cached => simp [removeTableFromCatalog, found, other]

theorem renameTableInCatalog_other (catalog : TableCatalog) (target : TableTarget) (nextTableName : String)
    {key : Uuid × String} (other : key ≠ (target.connectionId, target.database)) :
    renameTableInCatalog catalog target nextTableName key = catalog key := by
  cases found : catalog (target.connectionId, target.database) with
  | none => simp only [renameTableInCatalog, found]
  | some cached =>
    simp only [renameTableInCatalog, found]
    exact Function.update_of_ne other _ _

theorem mem_renameTableInCatalog (catalog : TableCatalog) (target : TableTarget) {nextTableName name : String}
    (source : name ≠ target.tableName) (destination : name ≠ nextTableName) :
    name ∈ (renameTableInCatalog catalog target nextTableName (target.connectionId, target.database)).getD [] ↔
      name ∈ (catalog (target.connectionId, target.database)).getD [] := by
  cases found : catalog (target.connectionId, target.database) with
  | none => simp only [renameTableInCatalog, found]
  | some cached =>
    simp only [renameTableInCatalog, found, Function.update_self, Option.getD_some, List.mem_map]
    constructor
    · rintro ⟨listed, member, rfl⟩
      split at destination
      · exact absurd rfl destination
      · rwa [if_neg ‹_›]
    · intro member
      exact ⟨name, member, if_neg source⟩

theorem addTableToCatalog_other (catalog : TableCatalog) (target : TableTarget) (nextTableName : String)
    {key : Uuid × String} (other : key ≠ (target.connectionId, target.database)) :
    addTableToCatalog catalog target nextTableName key = catalog key := by
  unfold addTableToCatalog
  split
  · rfl
  · exact Function.update_of_ne other _ _

theorem mem_addTableToCatalog (catalog : TableCatalog) (target : TableTarget) {nextTableName name : String}
    (other : name ≠ nextTableName) :
    name ∈ (addTableToCatalog catalog target nextTableName (target.connectionId, target.database)).getD [] ↔
      name ∈ (catalog (target.connectionId, target.database)).getD [] := by
  unfold addTableToCatalog
  split
  · rfl
  · simp [other]

theorem removePinned_iff (captured current : Finset String) (target : TableTarget) :
    (∀ key, key ≠ tableTargetKey target → key ≠ tableTargetKey target →
      (key ∈ (removePinnedTableKey captured (tableTargetKey target)).getD current ↔ key ∈ current)) ↔
      SamePins captured current target target := by
  unfold removePinnedTableKey SamePins
  split
  next pinned => simp +contextual [pinned]
  next unpinned => simp [unpinned]

theorem renamePinned_iff (captured current : Finset String) (target destination : TableTarget) :
    (∀ key, key ≠ tableTargetKey target → key ≠ tableTargetKey destination →
      (key ∈ (renamePinnedTableKey captured (tableTargetKey target) (tableTargetKey destination)).getD current ↔
        key ∈ current)) ↔ SamePins captured current target destination := by
  unfold renamePinnedTableKey SamePins
  split
  next pinned => simp +contextual [pinned]
  next unpinned => simp [unpinned]


theorem tableActionSettled_follows_iff (error : Option String) :
    app.Follows (.tableActionSettled error) ↔ app.Agrees (.tableActionSettled error) := by
  cases error with
  | some message =>
    refine iff_of_true ?_ trivial
    intro target destination carried
    refine ⟨nofun, ?_⟩
    simp only [step, tableActionSettled]
    split <;> exact Touches.same rfl rfl rfl
  | none =>
    cases running : app.executingTableAction with
    | none =>
      refine iff_of_true ?_ ?_
      · intro target destination carried
        simp [acting, running] at carried
      · intro executing running'
        simp [running] at running'
    | some executing =>
      have carried : app.acting (.tableActionSettled none) =
          some (executing.pending.target, executing.pending.target.tableName) := by rw [acting, running]; rfl
      have tabs (tab : OpenTableTab) (other : tab.id ≠ tableTabId executing.pending.target) :
          tab ∈ (app.closeTableImmediately (tableTabId executing.pending.target)).openTableTabs ↔ tab ∈ app.openTableTabs := by
        simp [closeTableImmediately, other]
      cases act : executing.pending.action with
      | truncate =>
        have settled : step app (.tableActionSettled none) =
            { app.closeTableImmediately (tableTabId executing.pending.target) with
              pendingTableAction := none, executingTableAction := none } := by
          simp only [step, App.tableActionSettled, running, act]
        refine iff_of_true ?_ ?_
        · intro target destination same
          cases carried.symm.trans same
          exact ⟨nofun, settled ▸ ⟨fun tab other _ => tabs tab other, fun _ _ => rfl, fun _ _ _ => Iff.rfl, fun _ _ _ => Iff.rfl⟩⟩
        · intro executing' running' dropped
          cases running.symm.trans running'
          cases act.symm.trans dropped
      | drop =>
        have settled : step app (.tableActionSettled none) =
            { app.closeTableImmediately (tableTabId executing.pending.target) with
              tableCatalog := removeTableFromCatalog app.tableCatalog executing.pending.target
              pinnedTableKeys := (removePinnedTableKey executing.pinnedTableKeys
                (tableTargetKey executing.pending.target)).getD app.pinnedTableKeys
              pendingTableAction := none, executingTableAction := none } := by
          simp only [step, App.tableActionSettled, running, act]
          rfl
        constructor
        · intro follows executing' running' _
          cases running.symm.trans running'
          have pins := (follows _ _ carried).2.pins
          rw [settled] at pins
          exact (removePinned_iff _ _ _).mp pins
        · intro agrees target destination same
          cases carried.symm.trans same
          refine ⟨nofun, ?_⟩
          rw [settled]
          exact ⟨fun tab other _ => tabs tab other, fun key other => removeTableFromCatalog_other _ _ other,
            fun name other _ => mem_removeTableFromCatalog _ _ other, (removePinned_iff _ _ _).mpr (agrees executing running act)⟩

/-- The rows that a copy in flight still copies are those of its table. -/
def Sound (app : App) : Prop :=
  ∀ executing, app.executingTableNameAction = some executing →
    ∀ statement, executing.statements.copyRows = some statement → statement.Names executing.pending.target

theorem renamed_touches_iff (executing : ExecutingTableNameAction) :
    Touches app { app.renamed executing with pendingTableNameAction := none, executingTableNameAction := none }
        executing.pending.target { executing.pending.target with tableName := executing.nextTableName } ↔
      SamePins executing.pinnedTableKeys app.pinnedTableKeys executing.pending.target
        { executing.pending.target with tableName := executing.nextTableName } := by
  constructor
  · intro touches
    exact (renamePinned_iff _ _ _ _).mp touches.pins
  · intro same
    refine ⟨?_, fun key other => renameTableInCatalog_other _ _ _ other,
      fun name source destination => mem_renameTableInCatalog _ _ source destination, (renamePinned_iff _ _ _ _).mpr same⟩
    intro tab source destination
    simp only [App.renamed, List.mem_map]
    constructor
    · rintro ⟨old, listed, rfl⟩
      split at destination
      · exact absurd rfl destination
      · rwa [if_neg ‹_›]
    · intro listed
      exact ⟨tab, listed, if_neg source⟩

theorem tableNameActionSettled_follows_iff (sound : app.Sound) (error : Option String) :
    app.Follows (.tableNameActionSettled error) ↔ app.Agrees (.tableNameActionSettled error) := by
  cases error with
  | some message =>
    refine iff_of_true ?_ trivial
    intro target destination carried
    refine ⟨nofun, ?_⟩
    simp only [step, tableNameActionSettled]
    split
    · exact Touches.same rfl rfl rfl
    · split <;> exact Touches.same rfl rfl rfl
  | none =>
    cases running : app.executingTableNameAction with
    | none =>
      refine iff_of_true ?_ ?_
      · intro target destination carried
        simp [acting, running] at carried
      · intro executing running'
        simp [running] at running'
    | some executing =>
      have carried : app.acting (.tableNameActionSettled none) =
          some (executing.pending.target, executing.nextTableName) := by rw [acting, running]; rfl
      have sends : ∀ connectionId statement, app.executes (.tableNameActionSettled none) = some (connectionId, statement) →
          connectionId = executing.pending.target.connectionId ∧ statement.Names executing.pending.target := by
        intro connectionId statement sent
        simp only [executes, running] at sent
        split at sent
        · cases sent
        · obtain ⟨copied, copies, same⟩ := Option.map_eq_some_iff.mp sent
          cases same
          exact ⟨rfl, sound executing running _ copies⟩
      cases act : executing.pending.action with
      | rename =>
        have settled : step app (.tableNameActionSettled none) =
            { app.renamed executing with pendingTableNameAction := none, executingTableNameAction := none } := by
          simp only [step, App.tableNameActionSettled, running, act]
        constructor
        · intro follows executing' running' _
          cases running.symm.trans running'
          exact (renamed_touches_iff executing).mp (settled ▸ (follows _ _ carried).2)
        · intro agrees target destination same
          cases carried.symm.trans same
          exact ⟨sends, settled ▸ (renamed_touches_iff executing).mpr (agrees executing running act)⟩
      | duplicate =>
        refine iff_of_true ?_ ?_
        · intro target destination same
          cases carried.symm.trans same
          refine ⟨sends, ?_⟩
          have created (next : App) (tabs : next.openTableTabs = app.openTableTabs)
              (catalog : next.tableCatalog = addTableToCatalog app.tableCatalog executing.pending.target executing.nextTableName)
              (pins : next.pinnedTableKeys = app.pinnedTableKeys) :
              Touches app next executing.pending.target
                { executing.pending.target with tableName := executing.nextTableName } := by
            refine ⟨fun _ _ _ => by rw [tabs], ?_, ?_, fun _ _ _ => by rw [pins]⟩
            · intro key other
              rw [catalog, addTableToCatalog_other _ _ _ other]
            · intro name _ other
              rw [catalog, mem_addTableToCatalog _ _ other]
          simp only [step, App.tableNameActionSettled, running, act]
          split
          · exact Touches.same rfl rfl rfl
          split
          · exact created _ rfl rfl rfl
          · exact created _ rfl rfl rfl
        · intro executing' running' renames
          cases running.symm.trans running'
          cases act.symm.trans renames

theorem step_follows_iff (sound : app.Sound) (event : Event) : app.Follows event ↔ app.Agrees event := by
  cases event with
  | confirmTableAction => exact confirmTableAction_follows_iff
  | confirmTableNameAction request => exact confirmTableNameAction_follows_iff request
  | tableActionSettled error => exact tableActionSettled_follows_iff error
  | tableNameActionSettled error => exact tableNameActionSettled_follows_iff sound error
  | _ => exact iff_of_true nofun trivial

theorem Sound.same (sound : app.Sound) {next : App} (kept : next.executingTableNameAction = app.executingTableNameAction) :
    next.Sound := by
  rw [Sound, kept]
  exact sound

/-- A step that agrees starts only copies of the table it was asked for. -/
theorem step_sound (app : App) (event : Event) (agrees : app.Agrees event) (sound : app.Sound) : (step app event).Sound := by
  cases event with
  | profilesChanged | connectionDeleted | catalogLoaded | closeTable => exact sound.same rfl
  | databaseDropped connectionId database =>
    have closes (tabs : List OpenTableTab) (app : App) :
        (tabs.foldl (fun app tab => app.closeTableImmediately tab.id) app).executingTableNameAction =
          app.executingTableNameAction := by
      induction tabs generalizing app with
      | nil => rfl
      | cons tab tabs ih => exact ih _
    exact sound.same (closes _ app)
  | openTable opened =>
    simp only [step, handleOpenTable]
    split
    · exact sound
    · split <;> exact sound.same rfl
  | workspaceChanges tabId dirty =>
    simp only [step, workspaceChanges]
    split <;> exact sound.same rfl
  | requestTableAction asked action =>
    simp only [step, handleRequestTableAction]
    split
    · exact sound
    · cases action <;> exact sound.same rfl
  | cancelTableAction =>
    simp only [step, handleCancelTableAction]
    split <;> exact sound.same rfl
  | confirmTableAction =>
    simp only [step, handleConfirmTableAction]
    split <;> exact sound.same rfl
  | tableActionSettled error =>
    simp only [step, App.tableActionSettled]
    split
    · exact sound
    · cases error with
      | some message => exact sound.same rfl
      | none =>
        dsimp only
        split <;> exact sound.same rfl
  | cancelTableNameAction =>
    simp only [step, handleCancelTableNameAction]
    split <;> exact sound.same rfl
  | confirmTableNameAction request =>
    simp only [step, handleConfirmTableNameAction]
    split
    · exact sound
    · exact sound.same rfl
    next executing confirmed =>
      intro started same statement copies
      cases same
      obtain ⟨-, profile, database, found, default_, built⟩ := confirmed_pending confirmed
      have schema : (app.profile executing.pending.target.connectionId).bind (·.database) =
          some executing.pending.target.database := agrees executing confirmed
      rw [found, Option.bind_some, default_] at schema
      rw [built] at copies
      exact copyRows_names (Option.some.inj schema) copies
  | tableNameActionSettled error =>
    have idle (next : App) (settled : next.executingTableNameAction = none) : next.Sound := by
      intro executing running
      rw [settled] at running
      cases running
    simp only [step, App.tableNameActionSettled]
    split
    · exact sound
    next executing running =>
      cases error with
      | some message =>
        dsimp only
        split <;> exact idle _ rfl
      | none =>
        dsimp only
        split
        · exact idle _ rfl
        split
        · exact idle _ rfl
        split
        · intro copying same
          cases same
          exact sound executing running
        · exact idle _ rfl

theorem initial_sound (profiles : List ConnectionProfile) (pinnedTableKeys : Finset String)
    (detachedTableTab : Option (TableTarget × String)) : (initial profiles pinnedTableKeys detachedTableTab).Sound := by
  intro executing running
  cases running

theorem initial_actsOn (profiles : List ConnectionProfile) (pinnedTableKeys : Finset String)
    (detachedTableTab : Option (TableTarget × String)) (target : TableTarget) :
    ¬ (initial profiles pinnedTableKeys detachedTableTab).ActsOn target := by
  simp [ActsOn, initial]

theorem executes_acting {event : Event} {sent : Uuid × TableStatement} (executed : app.executes event = some sent) :
    (app.acting event).isSome = true := by
  cases event with
  | confirmTableAction =>
    obtain ⟨pending, -, waiting, -⟩ := @confirmedTableAction_some app sent.1 sent.2 executed
    simp [acting, waiting]
  | confirmTableNameAction request =>
    rw [executes] at executed
    split at executed
    next executing confirmed => simp [acting, (confirmed_pending confirmed).1]
    · cases executed
  | tableNameActionSettled error =>
    cases error with
    | some message => cases executed
    | none =>
      cases running : app.executingTableNameAction with
      | none => simp [executes, running] at executed
      | some executing => simp [acting, running]
  | _ => cases executed

/-- An accepted request among these events asked for an action on the table. -/
def Requested (start : App) (events : List Event) (target : TableTarget) : Prop :=
  ∃ before event after, events = before ++ event :: after ∧ (run step start before).Requests target event

theorem run_actsOn (profiles : List ConnectionProfile) (pinnedTableKeys : Finset String)
    (detachedTableTab : Option (TableTarget × String)) (events : List Event) (target : TableTarget)
    (acts : (run step (initial profiles pinnedTableKeys detachedTableTab) events).ActsOn target) :
    Requested (initial profiles pinnedTableKeys detachedTableTab) events target := by
  induction events using List.reverseRecOn with
  | nil => exact absurd acts (initial_actsOn _ _ _ target)
  | append_singleton events event ih =>
    rw [run_concat] at acts
    rcases step_actsOn acts with held | requests
    · obtain ⟨before, asking, after, rfl, requests⟩ := ih held
      exact ⟨before, asking, after ++ [event], by simp, requests⟩
    · exact ⟨events, event, [], rfl, requests⟩

theorem acting_actsOn {event : Event} {target : TableTarget} {destination : String}
    (carried : app.acting event = some (target, destination)) : app.ActsOn target := by
  cases event with
  | confirmTableAction =>
    obtain ⟨pending, waiting, same⟩ := Option.map_eq_some_iff.mp carried
    exact Or.inl ⟨pending, waiting, congrArg Prod.fst same⟩
  | tableActionSettled error =>
    obtain ⟨executing, running, same⟩ := Option.map_eq_some_iff.mp carried
    exact Or.inr (Or.inl ⟨executing, running, congrArg Prod.fst same⟩)
  | confirmTableNameAction request =>
    obtain ⟨pending, waiting, same⟩ := Option.map_eq_some_iff.mp carried
    exact Or.inr (Or.inr (Or.inl ⟨pending, waiting, congrArg Prod.fst same⟩))
  | tableNameActionSettled error =>
    obtain ⟨executing, running, same⟩ := Option.map_eq_some_iff.mp carried
    exact Or.inr (Or.inr (Or.inr ⟨executing, running, congrArg Prod.fst same⟩))
  | _ => cases carried

/-- Whatever is executed and updated on the way belongs to a table that was asked for. -/
def ActsAsRequested (start : App) (events : List Event) : Prop :=
  ∀ before event after, events = before ++ event :: after →
    ((run step start before).executes event ≠ none → (run step start before).acting event ≠ none) ∧
    (∀ target destination, (run step start before).acting event = some (target, destination) →
      Requested start before target) ∧
    (run step start before).Follows event

/-- Actions act on the requested tables exactly if the confirmed ones lie in the default
schemas, and no pin changes while a pinned table is dropped or renamed. -/
theorem run_actsAsRequested_iff (profiles : List ConnectionProfile) (pinnedTableKeys : Finset String)
    (detachedTableTab : Option (TableTarget × String)) (events : List Event) :
    ActsAsRequested (initial profiles pinnedTableKeys detachedTableTab) events ↔
      Permitted step Agrees (initial profiles pinnedTableKeys detachedTableTab) events := by
  constructor
  · intro requested
    -- the copies in flight are sound because every step so far agreed
    induction events using List.reverseRecOn with
    | nil => exact permitted_nil step Agrees _
    | append_singleton events event ih =>
      have agreed := ih fun before asked after same => requested before asked (after ++ [event]) (by simp [same])
      have sound := @permitted_preserves _ _ step Agrees _ Sound (initial_sound _ _ _) step_sound events agreed
      exact permitted_concat step agreed ((step_follows_iff sound event).mp (requested events event [] rfl).2.2)
  · rintro agrees before event after rfl
    have sound := @permitted_preserves _ _ step Agrees _ Sound (initial_sound profiles pinnedTableKeys detachedTableTab)
      step_sound before (permitted_initial step agrees)
    refine ⟨?_, ?_, (step_follows_iff sound event).mpr (agrees before event after rfl)⟩
    · intro executed unacted
      obtain ⟨sent, sends⟩ := Option.ne_none_iff_exists'.mp executed
      have acts := executes_acting sends
      rw [unacted] at acts
      cases acts
    · intro target destination carried
      exact run_actsOn _ _ _ before target (acting_actsOn carried)

/-- A connection with a default schema, on which another schema is browsed. -/
def browsedConnection : ConnectionProfile where
  id := ⟨"3f0c"⟩
  name := "shop"
  engine := .mySql
  database := some "shop"

def archivedOrders : TableTarget := ⟨browsedConnection.id, "archive", "orders"⟩

/-- Dropping a table outside of the default schema drops the table of that name inside of it. -/
theorem archivedOrders_dropsDefault :
    (run step (initial [browsedConnection] ∅ none) [.requestTableAction archivedOrders .drop]).executes .confirmTableAction =
        some (browsedConnection.id, .drop ⟨"shop", "orders"⟩) ∧
      ¬ ActsAsRequested (initial [browsedConnection] ∅ none)
        [.requestTableAction archivedOrders .drop, .confirmTableAction] := by
  have executed : (run step (initial [browsedConnection] ∅ none)
      [.requestTableAction archivedOrders .drop]).executes .confirmTableAction =
      some (browsedConnection.id, .drop ⟨"shop", "orders"⟩) := by decide +kernel
  refine ⟨executed, fun requested => ?_⟩
  have follows := (requested [.requestTableAction archivedOrders .drop] .confirmTableAction [] rfl).2.2
  have names := (follows archivedOrders "orders" (by decide +kernel)).1 _ _ executed
  exact absurd names.2 (by simp [TableStatement.Names, archivedOrders])

end App
end Pipa.TableActions
