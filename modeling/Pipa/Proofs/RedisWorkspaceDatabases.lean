import Pipa.RedisWorkspace

/-! Where mutations run. A command runs in the database of the rendering that started its
mutation, and nothing ties that one to the database that the details were read from. -/

namespace Pipa.RedisBrowsing
open Runs

/-- The key that is read again once the commands have run. -/
def RunningMutation.keyToLoad (running : RunningMutation) : Option String :=
  if running.planned.plan.nextKey = some none then none
  else (running.planned.plan.nextKey.join.or running.selectedKey).filter (· ≠ "")

/-- The mutation will read details again, in the database that it started in. -/
def RunningMutation.Rereads (running : RunningMutation) : Prop :=
  (∀ requestId, running.stage ≠ .details requestId) ∧ running.keyToLoad.isSome = true

/-- The mutation runs where the details of its plan were read. -/
def RunningMutation.Faithful (running : RunningMutation) : Prop :=
  ∀ source, running.planned.readFrom = some source → source = running.database

namespace Workspace

/-- What holds of reads and mutations in flight, whatever the database is now. -/
structure Issued (workspace : Workspace) : Prop where
  loads : ∀ load ∈ workspace.loads, load.requestId ≤ workspace.detailRequestId
  running : ∀ running, workspace.runningMutation = some running → running.Faithful

/-- The shown details are those of the database, and so are the ones to come. -/
structure Reads (workspace : Workspace) (database : String) : Prop where
  shown : ∀ details, workspace.shownDetails = some details → details.database = database
  latest : ∀ load ∈ workspace.loads, load.requestId = workspace.detailRequestId → load.database = database

/-- Plans that wait were built from details of the database, and mutations read details from it again. -/
structure Plans (workspace : Workspace) (database : String) : Prop where
  pending : ∀ planned, workspace.pendingMutation = some planned → ∀ source, planned.readFrom = some source → source = database
  rereads : ∀ running, workspace.runningMutation = some running → running.Rereads → running.database = database

structure Within (workspace : Workspace) (database : String) : Prop where
  issued : workspace.Issued
  reads : workspace.Reads database
  plans : workspace.Plans database

variable {workspace : Workspace} {database : String}

theorem Issued.loadDetails (issued : workspace.Issued) (database key : String) : (workspace.loadDetails database key).Issued := by
  refine ⟨?_, issued.running⟩
  intro load member
  rcases List.mem_append.mp member with old | new
  · exact (issued.loads load old).trans (Nat.le_succ _)
  · obtain rfl := List.mem_singleton.mp new
    exact Nat.le_refl _

/-- A new read supersedes all others. -/
theorem Issued.loadDetails_reads (issued : workspace.Issued) (database key : String) :
    (workspace.loadDetails database key).Reads database := by
  refine ⟨(by rintro _ ⟨⟩), ?_⟩
  intro load member latest
  rcases List.mem_append.mp member with old | new
  · have bounded := issued.loads load old
    change load.requestId = workspace.detailRequestId + 1 at latest
    omega
  · obtain rfl := List.mem_singleton.mp new
    rfl

theorem Issued.clearDetails (issued : workspace.Issued) : workspace.clearDetails.Issued :=
  ⟨fun load member => (issued.loads load member).trans (Nat.le_succ _), issued.running⟩

theorem Issued.clearDetails_reads (issued : workspace.Issued) (database : String) : workspace.clearDetails.Reads database := by
  constructor
  · intro details shown
    unfold shownDetails at shown
    split at shown <;> cases shown
  · intro load member latest
    have bounded := issued.loads load member
    change load.requestId = workspace.detailRequestId + 1 at latest
    omega

theorem Within.loadDetails (within : workspace.Within database) (key : String) :
    (workspace.loadDetails database key).Within database :=
  ⟨within.issued.loadDetails database key, within.issued.loadDetails_reads database key,
    within.plans.pending, within.plans.rereads⟩

/-- Nothing of a mutation in flight matters to what is read and to the plans that wait. -/
theorem Within.running (within : workspace.Within database) (next : Option RunningMutation)
    (faithful : ∀ running, next = some running → running.Faithful)
    (rereads : ∀ running, next = some running → running.Rereads → running.database = database) :
    { workspace with runningMutation := next }.Within database :=
  ⟨⟨within.issued.loads, faithful⟩, ⟨within.reads.shown, within.reads.latest⟩, ⟨within.plans.pending, rereads⟩⟩

theorem Within.idle (within : workspace.Within database) : { workspace with runningMutation := none }.Within database :=
  within.running none (by rintro _ ⟨⟩) (by rintro _ ⟨⟩)

theorem Within.received (js : Builtins) (within : workspace.Within database) {load : DetailLoad}
    (read : load.database = database) (replies : DetailReplies) : (workspace.received js load replies).Within database := by
  unfold Workspace.received
  split
  · refine ⟨⟨within.issued.loads, within.issued.running⟩, ⟨(by rintro _ ⟨⟩), within.reads.latest⟩, within.plans.pending, within.plans.rereads⟩
  · refine ⟨⟨within.issued.loads, within.issued.running⟩, ⟨?_, within.reads.latest⟩, within.plans.pending, within.plans.rereads⟩
    intro details shown
    cases shown
    exact read

theorem Within.readEnds (within : workspace.Within database) (requestId : Nat) : (workspace.readEnds requestId).Within database := by
  unfold Workspace.readEnds
  split
  · exact within.idle
  · exact within

theorem Within.detailsReplied (js : Builtins) (within : workspace.Within database) (requestId : Nat) (replies : DetailReplies) :
    (workspace.detailsReplied js requestId replies).Within database := by
  unfold Workspace.detailsReplied
  split
  · exact within
  next load found =>
    have known : load.requestId = requestId := by simpa using List.find?_some found
    have answered : { workspace with loads := workspace.loads.filter (·.requestId ≠ requestId) }.Within database :=
      ⟨⟨fun load member => within.issued.loads load (List.mem_of_mem_filter member), within.issued.running⟩,
        ⟨within.reads.shown, fun load member => within.reads.latest load (List.mem_of_mem_filter member)⟩,
        within.plans.pending, within.plans.rereads⟩
    split
    next latest =>
      have read := within.reads.latest load (List.mem_of_find?_eq_some found) (known.trans latest.symm)
      exact (answered.received js read replies).readEnds requestId
    · exact answered.readEnds requestId

theorem Within.commandsDone (within : workspace.Within database) {running : RunningMutation} (faithful : running.Faithful)
    (rereads : running.keyToLoad.isSome = true → running.database = database) :
    (workspace.commandsDone running).Within database := by
  have done := within.idle
  unfold Workspace.commandsDone
  split
  · exact ⟨done.issued.clearDetails, done.issued.clearDetails_reads database, done.plans.pending, (by rintro _ ⟨⟩)⟩
  next nextKey other =>
    split
    · exact done
    next key chosen =>
      split
      · exact done
      next named =>
        have same : running.database = database := by
          apply rereads
          rw [RunningMutation.keyToLoad, if_neg other, chosen]
          simp [named]
        have loading := done.loadDetails key
        rw [← same] at loading ⊢
        refine loading.running _ ?_ ?_
        · intro waiting started
          cases started
          exact faithful
        · intro waiting started again
          cases started
          exact absurd rfl (again.1 _)

theorem Within.nextCommand (within : workspace.Within database) {running : RunningMutation} (faithful : running.Faithful)
    (rereads : running.keyToLoad.isSome = true → running.database = database) :
    (workspace.nextCommand running).Within database := by
  have goesOn (next : RunningMutation) (planned : next.planned = running.planned) (selected : next.selectedKey = running.selectedKey)
      (same : next.database = running.database) : { workspace with runningMutation := some next }.Within database := by
    refine within.running _ ?_ ?_
    · intro waiting started
      cases started
      rw [RunningMutation.Faithful, planned, same]
      exact faithful
    · intro waiting started again
      cases started
      have key := again.2
      rw [RunningMutation.keyToLoad, planned, selected] at key
      exact same.trans (rereads key)
  unfold Workspace.nextCommand
  split
  · exact goesOn _ rfl rfl rfl
  · have succeeded : { workspace with feedback := some (running.planned.plan.title ++ "成功") }.Within database :=
      ⟨⟨within.issued.loads, within.issued.running⟩, ⟨within.reads.shown, within.reads.latest⟩, within.plans.pending,
        within.plans.rereads⟩
    dsimp only
    split
    · have listed := goesOn { running with stage := .keys } rfl rfl rfl
      exact ⟨⟨listed.issued.loads, listed.issued.running⟩, ⟨listed.reads.shown, listed.reads.latest⟩, listed.plans.pending,
        listed.plans.rereads⟩
    · exact succeeded.commandsDone faithful rereads

theorem Within.executeMutation (within : workspace.Within database) {planned : PlannedMutation}
    (same : ∀ source, planned.readFrom = some source → source = database) :
    (workspace.executeMutation database planned).Within database := by
  unfold Workspace.executeMutation
  split
  · exact within
  · have started : { workspace with pendingMutation := none, error := none, feedback := none }.Within database :=
      ⟨⟨within.issued.loads, within.issued.running⟩, ⟨within.reads.shown, within.reads.latest⟩, (by rintro _ ⟨⟩), within.plans.rereads⟩
    exact started.nextCommand same fun _ => rfl

theorem Within.commandReplied (within : workspace.Within database) (failure : Option AppError) :
    (workspace.commandReplied failure).Within database := by
  unfold Workspace.commandReplied
  split
  · exact within
  next running inFlight =>
    split
    · exact within
    next command =>
      cases failure with
      | some error =>
        have done := within.idle
        exact ⟨⟨done.issued.loads, done.issued.running⟩, ⟨done.reads.shown, done.reads.latest⟩, done.plans.pending, (by rintro _ ⟨⟩)⟩
      | none =>
        refine within.nextCommand (within.issued.running running inFlight) fun key => ?_
        refine within.plans.rereads running inFlight ⟨?_, key⟩
        simp [not_not.mp command]

theorem Within.keysReplied (within : workspace.Within database) : workspace.keysReplied.Within database := by
  unfold Workspace.keysReplied
  split
  · exact within
  next running inFlight =>
    split
    next keys =>
      refine within.commandsDone (within.issued.running running inFlight) fun key => ?_
      exact within.plans.rereads running inFlight ⟨by simp [keys], key⟩
    · exact within

/-- A workspace without details, with none to come. -/
def Blank (workspace : Workspace) : Prop :=
  workspace.details = none ∧ ∀ load ∈ workspace.loads, load.requestId ≠ workspace.detailRequestId

/-- No plan built from details waits, and no mutation in flight reads details again. -/
def Planless (workspace : Workspace) : Prop :=
  (∀ planned, workspace.pendingMutation = some planned → planned.readFrom = none) ∧
    ∀ running, workspace.runningMutation = some running → ¬ running.Rereads

theorem Blank.reads (blank : workspace.Blank) (database : String) : workspace.Reads database := by
  constructor
  · intro details shown
    simp [shownDetails, blank.1] at shown
  · intro load member latest
    exact absurd latest (blank.2 load member)

theorem Planless.plans (planless : workspace.Planless) (database : String) : workspace.Plans database := by
  constructor
  · intro planned waiting source read
    rw [planless.1 planned waiting] at read
    cases read
  · intro running inFlight again
    exact absurd again (planless.2 running inFlight)

theorem fresh_within (unread : workspace.details = none) (unsent : workspace.loads = [])
    (still : workspace.runningMutation = none) (unplanned : workspace.pendingMutation = none) : workspace.Within database := by
  refine ⟨⟨by simp [unsent], by simp [still]⟩, ⟨?_, by simp [unsent]⟩, ⟨by simp [unplanned], by simp [still]⟩⟩
  intro details shown
  simp [shownDetails, unread] at shown

end Workspace

namespace App
variable (js : Builtins)

/-- The tab was opened on a key, which is read anew with every database. -/
def Keyed (app : App) : Prop := ∃ key, app.tab.initialKey = some key ∧ key ≠ ""

/-- Where the event changes the database, nothing is planned from details, and the details
are cleared, read anew, or there are none. -/
def SwitchesClean (app : App) (event : Event) : Prop :=
  (step js app event).database ≠ app.database →
    app.workspace.Planless ∧ (event = .commitDatabaseDraft ∨ app.Keyed ∨ app.workspace.Blank)

/-- A command of a plan built from details runs where these were read. -/
def InPlace (app : App) (event : Event) : Prop :=
  ∀ execution, app.executes js event = some execution → ∀ source, execution.readFrom = some source →
    execution.database = source

def Settled (app : App) : Prop := app.workspace.Within app.database

variable {js} {app : App}

theorem rendered_database (app : App) (previous : String) : (app.rendered previous).database = app.database := by
  unfold rendered
  split <;> rfl

/-- A key that the tab was opened on is read, which supersedes all that was read before. -/
theorem effects_settled (issued : app.workspace.Issued) (plans : app.workspace.Plans app.database)
    (reads : ¬ app.Keyed → app.workspace.Reads app.database) : app.effects.Settled := by
  have redrafted (reads : app.workspace.Reads app.database) :
      { app.workspace with databaseDraft := app.database }.Within app.database :=
    ⟨⟨issued.loads, issued.running⟩, ⟨reads.shown, reads.latest⟩, plans.pending, plans.rereads⟩
  have unchanged : app.effects.database = app.database := rfl
  rw [Settled, unchanged]
  unfold effects
  dsimp only
  split
  next unkeyed =>
    apply redrafted
    apply reads
    rintro ⟨key, keyed, -⟩
    rw [unkeyed] at keyed
    cases keyed
  next key keyed =>
    split
    next empty =>
      apply redrafted
      apply reads
      rintro ⟨other, named, nonempty⟩
      rw [keyed] at named
      cases named
      exact nonempty empty
    · have drafted : { app.workspace with databaseDraft := app.database }.Issued := ⟨issued.loads, issued.running⟩
      exact ⟨drafted.loadDetails _ key, drafted.loadDetails_reads _ key, plans.pending, plans.rereads⟩

theorem rendered_settled {previous : String} (issued : app.workspace.Issued) (plans : app.workspace.Plans app.database)
    (reads : ¬ (app.database ≠ previous ∧ app.Keyed) → app.workspace.Reads app.database) : (app.rendered previous).Settled := by
  unfold rendered
  split
  next same => exact ⟨issued, reads fun switched => switched.1 same, plans⟩
  next switched => exact effects_settled issued plans fun unkeyed => reads fun both => unkeyed both.2

/-- A handler outside of the workspace leaves it as it is, but may change the database. -/
theorem switched_settled (settled : app.Settled) {next : App} (workspace : next.workspace = app.workspace)
    (tab : next.tab.initialKey = app.tab.initialKey)
    (clean : next.database ≠ app.database → app.workspace.Planless ∧ (app.Keyed ∨ app.workspace.Blank)) :
    (next.rendered app.database).Settled := by
  by_cases same : next.database = app.database
  · apply rendered_settled
    · rw [workspace]
      exact settled.issued
    · rw [workspace, same]
      exact settled.plans
    · intro _
      rw [workspace, same]
      exact settled.reads
  · obtain ⟨planless, details⟩ := clean same
    apply rendered_settled
    · rw [workspace]
      exact settled.issued
    · rw [workspace]
      exact planless.plans _
    · intro uncleared
      rw [workspace]
      rcases details with ⟨key, keyed, named⟩ | blank
      · exact absurd ⟨same, key, tab.trans keyed, named⟩ uncleared
      · exact blank.reads _

theorem select_keeps (app : App) (connectionId : Uuid) (database : String) :
    (app.handleSelectRedisDatabase connectionId database).workspace = app.workspace ∧
      (app.handleSelectRedisDatabase connectionId database).tab = app.tab := by
  unfold handleSelectRedisDatabase
  split <;> exact ⟨rfl, rfl⟩

/-- The workspace's own field clears the details before it changes the database. -/
theorem commitDatabaseDraft_settled (settled : app.Settled)
    (clean : (app.commitDatabaseDraft js).database ≠ app.database → app.workspace.Planless) :
    ((app.commitDatabaseDraft js).rendered app.database).Settled := by
  unfold commitDatabaseDraft at clean ⊢
  split
  · exact switched_settled settled rfl rfl fun changed => absurd rfl changed
  next enabled =>
    rw [if_neg enabled] at clean
    have redrafted (databaseDraft : String) (error : Option String) :
        { app.workspace with databaseDraft, error }.Within app.database :=
      ⟨⟨settled.issued.loads, settled.issued.running⟩, ⟨settled.reads.shown, settled.reads.latest⟩, settled.plans.pending,
        settled.plans.rereads⟩
    split
    · have refused := redrafted app.database (some "Redis 数据库编号必须是非负整数。")
      exact rendered_settled refused.issued refused.plans fun _ => refused.reads
    next normalizedDatabase natural =>
      have normalized := redrafted normalizedDatabase app.workspace.error
      dsimp only
      split
      · exact rendered_settled normalized.issued normalized.plans fun _ => normalized.reads
      next other =>
        simp only [natural, if_neg other] at clean
        have kept := (select_keeps { app with
          workspace := { app.workspace with databaseDraft := normalizedDatabase }.clearDetails }
          app.tab.connectionId normalizedDatabase).1
        generalize App.handleSelectRedisDatabase _ app.tab.connectionId normalizedDatabase = next at clean kept ⊢
        apply rendered_settled
        · rw [kept]
          exact normalized.issued.clearDetails
        · rw [kept]
          by_cases same : next.database = app.database
          · rw [same]
            exact ⟨settled.plans.pending, settled.plans.rereads⟩
          · have plans := (clean same).plans next.database
            exact ⟨plans.pending, plans.rereads⟩
        · intro _
          rw [kept]
          exact normalized.issued.clearDetails_reads _

theorem requestPlanned_settled (settled : app.Settled) {planned : PlannedMutation}
    (same : ∀ source, planned.readFrom = some source → source = app.database) : (app.requestPlanned planned).Settled := by
  unfold requestPlanned
  change Workspace.Within _ app.database
  dsimp only
  split
  · refine ⟨⟨settled.issued.loads, settled.issued.running⟩, ⟨settled.reads.shown, settled.reads.latest⟩, ?_, settled.plans.rereads⟩
    intro waiting held
    cases held
    exact same
  · exact settled.executeMutation same

/-- What is planned from the shown details is planned for their database. -/
theorem planned_readFrom {control : Control} {planned : PlannedMutation} (plans : app.planned js control = some (.ok planned)) :
    ∃ details, app.workspace.shownDetails = some details ∧ planned.readFrom = some details.database := by
  simp only [App.planned, Option.bind_eq_bind, Option.bind_eq_some_iff] at plans
  obtain ⟨details, shown, plan, -, passes⟩ := plans
  refine ⟨details, shown, ?_⟩
  split at passes
  · cases passes
  · cases plan with
    | error message => cases passes
    | ok plan =>
      cases passes
      rfl

theorem Settled.plans_readFrom (settled : app.Settled) {control : Control} {planned : PlannedMutation}
    (plans : app.planned js control = some (.ok planned)) :
    ∀ source, planned.readFrom = some source → source = app.database := by
  intro source read
  obtain ⟨details, shown, same⟩ := planned_readFrom plans
  rw [read] at same
  cases same
  exact settled.reads.shown details shown

/-- A clean step keeps all that is read and planned with the database. -/
theorem step_settled (app : App) (event : Event) (clean : app.SwitchesClean js event) (settled : app.Settled) :
    (step js app event).Settled := by
  have outside {next : App} (stepped : step js app event = next.rendered app.database)
      (uncommitted : event ≠ .commitDatabaseDraft) (changed : next.database ≠ app.database) :
      app.workspace.Planless ∧ (app.Keyed ∨ app.workspace.Blank) := by
    have ⟨planless, details⟩ := clean (by rwa [stepped, rendered_database])
    exact ⟨planless, details.resolve_left uncommitted⟩
  have within : app.workspace.Within app.database := settled
  cases event with
  | connectionsSaved connections title =>
    refine switched_settled settled ?_ ?_ (outside rfl (by rintro ⟨⟩))
    · unfold App.connectionsSaved
      dsimp only
      split <;> rfl
    · unfold App.connectionsSaved
      dsimp only
      split <;> rfl
  | selectRedisDatabase connectionId database =>
    have kept := select_keeps app connectionId database
    exact switched_settled settled kept.1 (congrArg OpenTab.initialKey kept.2) (outside rfl (by rintro ⟨⟩))
  | openRedisKey connectionId database =>
    have kept := select_keeps app connectionId database
    exact switched_settled settled kept.1 (congrArg OpenTab.initialKey kept.2) (outside rfl (by rintro ⟨⟩))
  | selectQueryTab connectionId title =>
    refine switched_settled settled ?_ ?_ (outside rfl (by rintro ⟨⟩))
    · unfold handleSelectQueryTab
      split
      · rfl
      · split <;> rfl
    · unfold handleSelectQueryTab
      split
      · rfl
      · split <;> rfl
  | commitDatabaseDraft =>
    apply commitDatabaseDraft_settled settled
    intro changed
    exact (clean (by rwa [step, rendered_database])).1
  | editDatabaseDraft text =>
    exact ⟨⟨within.issued.loads, within.issued.running⟩, ⟨within.reads.shown, within.reads.latest⟩, within.plans.pending,
      within.plans.rereads⟩
  | cliRunningChange running =>
    exact ⟨⟨within.issued.loads, within.issued.running⟩, ⟨within.reads.shown, within.reads.latest⟩, within.plans.pending,
      within.plans.rereads⟩
  | editDrafts drafts =>
    exact ⟨⟨within.issued.loads, within.issued.running⟩, ⟨within.reads.shown, within.reads.latest⟩, within.plans.pending,
      within.plans.rereads⟩
  | loadDetails key => exact within.loadDetails key
  | detailsReplied requestId replies => exact within.detailsReplied js requestId replies
  | requestMutation control =>
    simp only [step, App.requestMutation]
    split
    · exact settled
    · exact ⟨⟨within.issued.loads, within.issued.running⟩, ⟨within.reads.shown, within.reads.latest⟩, within.plans.pending,
        within.plans.rereads⟩
    next planned plans => exact requestPlanned_settled settled (settled.plans_readFrom plans)
  | createKey form =>
    simp only [step, App.createKey]
    split
    · exact settled
    · split
      · exact ⟨⟨within.issued.loads, within.issued.running⟩, ⟨within.reads.shown, within.reads.latest⟩, within.plans.pending,
          within.plans.rereads⟩
      · exact requestPlanned_settled settled (by rintro _ ⟨⟩)
  | cancelMutation =>
    simp only [step, App.cancelMutation]
    split
    · exact settled
    · exact ⟨⟨within.issued.loads, within.issued.running⟩, ⟨within.reads.shown, within.reads.latest⟩, (by rintro _ ⟨⟩), within.plans.rereads⟩
  | confirmMutation =>
    simp only [step, App.confirmMutation]
    split
    · exact settled
    next planned waiting => exact within.executeMutation (within.plans.pending planned waiting)
  | commandReplied failure => exact within.commandReplied failure
  | keysReplied => exact within.keysReplied

theorem initial_settled (connections : List SavedConnection) (selectedRedisDatabases : Uuid → Option String)
    (connectionId : Uuid) (title sqlText : String) :
    (initial connections selectedRedisDatabases connectionId title sqlText).Settled := by
  have fresh (database : String) :
      (mounted connections selectedRedisDatabases connectionId title sqlText).workspace.Within database :=
    Workspace.fresh_within rfl rfl rfl rfl
  exact effects_settled (fresh "").issued (fresh _).plans fun _ => (fresh _).reads

theorem starts_inPlace {planned : PlannedMutation} {execution : Execution} (starts : app.starts planned = some execution)
    (same : ∀ source, planned.readFrom = some source → source = app.database) :
    ∀ source, execution.readFrom = some source → execution.database = source := by
  unfold App.starts at starts
  split at starts
  · cases starts
  · obtain ⟨command, -, rfl⟩ := Option.map_eq_some_iff.mp starts
    intro source read
    exact (same source read).symm

theorem Settled.inPlace (settled : app.Settled) (event : Event) : app.InPlace js event := by
  have unconfirmed {planned : PlannedMutation} {execution : Execution}
      (starts : app.startsUnconfirmed planned = some execution)
      (same : ∀ source, planned.readFrom = some source → source = app.database) :
      ∀ source, execution.readFrom = some source → execution.database = source := by
    unfold App.startsUnconfirmed at starts
    split at starts
    · cases starts
    · exact starts_inPlace starts same
  intro execution executed
  cases event with
  | requestMutation control =>
    simp only [executes] at executed
    split at executed
    next planned plans => exact unconfirmed executed (settled.plans_readFrom plans)
    · cases executed
  | createKey form =>
    simp only [executes] at executed
    split at executed
    · exact unconfirmed executed (by rintro _ ⟨⟩)
    · cases executed
  | confirmMutation =>
    obtain ⟨planned, waiting, starts⟩ := Option.bind_eq_some_iff.mp executed
    exact starts_inPlace starts (settled.plans.pending planned waiting)
  | commandReplied failure =>
    cases failure with
    | some error => cases executed
    | none =>
      obtain ⟨running, inFlight, sends⟩ := Option.bind_eq_some_iff.mp executed
      split at sends
      · obtain ⟨command, -, rfl⟩ := Option.map_eq_some_iff.mp sends
        intro source read
        exact (settled.issued.running running inFlight source read).symm
      · cases sends
  | _ => cases executed

/-- As long as the database only changes where nothing of the old one is left, the commands
of mutations run in the database that their details were read from. -/
theorem run_inPlace (connections : List SavedConnection) (selectedRedisDatabases : Uuid → Option String)
    (connectionId : Uuid) (title sqlText : String) (events : List Event)
    (clean : Permitted (step js) (SwitchesClean js) (initial connections selectedRedisDatabases connectionId title sqlText)
      events) :
    Permitted (step js) (InPlace js) (initial connections selectedRedisDatabases connectionId title sqlText) events := by
  rintro before event after rfl
  have settled := @permitted_preserves _ _ (step js) (SwitchesClean js) _ Settled (initial_settled _ _ _ _ _) step_settled before
    (permitted_initial (step js) clean)
  exact settled.inPlace event

/-- ECMAScript's functions on the texts of the runs below: digits and names of types. -/
def plainTexts : Builtins where
  toLowerCase := fun text => String.ofList (text.toList.map Char.toLower)
  floatText := fun bits => toString bits.toNat
  finiteNumber := fun text => if text.toList.all Char.isDigit then some text else none
  naturalNumber := fun text => if text.toList.all Char.isDigit then some text else none
  positiveInteger := fun text => if text.toList.all Char.isDigit then some text else none
  isJson := fun text => text.toList.all Char.isDigit

def cacheConnection : SavedConnection where
  profile := { id := ⟨"7b1e"⟩, name := "cache", engine := .redis, database := some "0" }
  environment := .development

def cellReply (text : String) : Except AppError QueryExecutionResult :=
  .ok { columns := [], rows := [[.text text]], affectedRows := 0 }

def stringReplies (value : String) : DetailReplies where
  type := cellReply "string"
  ttl := cellReply "-1"
  memory := cellReply "64"
  value := cellReply value

/-- The database is switched in the workspace, and a key of the new one is deleted. -/
def switchedInField : List Event :=
  [.loadDetails "user:1", .detailsReplied 1 (stringReplies "ada"), .editDatabaseDraft "1", .commitDatabaseDraft,
    .loadDetails "user:1", .detailsReplied 3 (stringReplies "eve"), .requestMutation .delete, .confirmMutation]

theorem run_inPlace_switchedInField :
    Permitted (step plainTexts) (InPlace plainTexts)
      (initial [cacheConnection] (fun _ => none) cacheConnection.profile.id "cache · 查询 1" "PING") switchedInField := by
  apply run_inPlace
  simp only [switchedInField, permitted_cons]
  refine ⟨?_, ?_, ?_, ?_, ?_, ?_, ?_, ?_, permitted_nil _ _ _⟩
  case refine_4 =>
    intro _
    refine ⟨⟨?_, ?_⟩, Or.inl rfl⟩
    · intro planned waiting
      cases waiting
    · intro running inFlight
      cases inFlight
  all_goals exact fun changed => absurd (by decide) changed

/-- The navigator switches the database while details are shown, and their key is deleted. -/
def switchedInNavigator : List Event :=
  [.loadDetails "user:1", .detailsReplied 1 (stringReplies "ada"), .selectRedisDatabase cacheConnection.profile.id "1",
    .requestMutation .delete]

/-- The key of that name in the other database is the one that is deleted. -/
theorem switchedInNavigator_misplaced :
    (run (step plainTexts) (initial [cacheConnection] (fun _ => none) cacheConnection.profile.id "cache · 查询 1" "PING")
        switchedInNavigator).executes plainTexts .confirmMutation = some ⟨"DEL \"user:1\"", "1", some "0"⟩ ∧
      ¬ Permitted (step plainTexts) (InPlace plainTexts)
        (initial [cacheConnection] (fun _ => none) cacheConnection.profile.id "cache · 查询 1" "PING")
        (switchedInNavigator ++ [.confirmMutation]) := by
  have executed : (run (step plainTexts)
      (initial [cacheConnection] (fun _ => none) cacheConnection.profile.id "cache · 查询 1" "PING")
      switchedInNavigator).executes plainTexts .confirmMutation = some ⟨"DEL \"user:1\"", "1", some "0"⟩ := by decide +kernel
  refine ⟨executed, fun inPlace => ?_⟩
  have same := permitted_last _ inPlace _ executed "0" rfl
  exact absurd same (by decide +kernel)

end App
end Pipa.RedisBrowsing
