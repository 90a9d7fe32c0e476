import Pipa.QuerySession

/-! The buffer against the reducer alone. What a flush would show is what the reducer shows,
until a batch takes the place of rows that wait for the active query. -/

namespace Pipa.QuerySession

variable {Row : Type} {session : Session Row}

/-- The state once the rows that wait have been flushed. -/
def settled (session : Session Row) : QuerySessionState Row := session.flushPendingRows.state

/-- Batches take the place only of rows that wait for nothing the reducer shows. -/
def KeepsRows (session : Session Row) (event : Event Row) : Prop :=
  ∀ queryId rows pending, event = .message (.batch queryId rows) → session.pendingRows = some pending →
    pending.queryId ≠ queryId → some pending.queryId = session.state.queryId → pending.rows = []

section Reducer
variable {state : QuerySessionState Row}

theorem reducer_batch_queryId (queryId : Uuid) (rows : List Row) :
    (querySessionReducer state (.event (.batch queryId rows))).queryId = state.queryId := by
  rw [querySessionReducer]
  split <;> rfl

theorem reducer_batch_stale {queryId : Uuid} {rows : List Row} (stale : some queryId ≠ state.queryId) :
    querySessionReducer state (.event (.batch queryId rows)) = state :=
  if_pos stale

theorem reducer_batch_active {queryId : Uuid} {rows : List Row} (active : some queryId = state.queryId) :
    querySessionReducer state (.event (.batch queryId rows)) = { state with rows := state.rows ++ rows } :=
  if_neg (not_not.mpr active)

theorem reducer_batch_nil (queryId : Uuid) : querySessionReducer state (.event (.batch queryId [])) = state := by
  by_cases active : some queryId = state.queryId
  · rw [reducer_batch_active active, List.append_nil]
  · exact reducer_batch_stale active

/-- Two batches of one query are one batch of their rows. -/
theorem reducer_batch_append (queryId : Uuid) (first second : List Row) :
    querySessionReducer (querySessionReducer state (.event (.batch queryId first))) (.event (.batch queryId second)) =
      querySessionReducer state (.event (.batch queryId (first ++ second))) := by
  by_cases active : some queryId = state.queryId
  · rw [reducer_batch_active active, reducer_batch_active active, reducer_batch_active, List.append_assoc]
    exact active
  · rw [reducer_batch_stale active, reducer_batch_stale active, reducer_batch_stale active]

/-- A batch and a rejected start change different fields. -/
theorem reducer_startFailed_batch (failed queryId : Uuid) (error : AppError) (rows : List Row) :
    querySessionReducer (querySessionReducer state (.startFailed failed error)) (.event (.batch queryId rows)) =
      querySessionReducer (querySessionReducer state (.event (.batch queryId rows))) (.startFailed failed error) := by
  have kept : (querySessionReducer state (.startFailed failed error)).queryId = state.queryId := by
    rw [querySessionReducer]
    split <;> rfl
  by_cases active : some queryId = state.queryId
  · rw [reducer_batch_active (active.trans kept.symm), reducer_batch_active active, querySessionReducer, querySessionReducer]
    dsimp only
    split <;> rfl
  · rw [reducer_batch_stale (kept ▸ active), reducer_batch_stale active]

end Reducer

theorem settled_none (none : session.pendingRows = none) : settled session = session.state := by
  rw [settled, Session.flushPendingRows, none]

theorem settled_some {pending : PendingRows Row} (waits : session.pendingRows = some pending) :
    settled session = querySessionReducer session.state (.event (.batch pending.queryId pending.rows)) := by
  rw [settled, Session.flushPendingRows, waits]
  dsimp only
  split
  case isTrue empty => rw [empty, reducer_batch_nil]
  case isFalse => rfl

theorem settled_queryId : (settled session).queryId = session.state.queryId := by
  cases waits : session.pendingRows with
  | none => rw [settled_none waits]
  | some pending => rw [settled_some waits, reducer_batch_queryId]

theorem flushPendingRows_pendingRows : session.flushPendingRows.pendingRows = none := by
  rw [Session.flushPendingRows]
  split
  · rfl
  · split <;> rfl

/-- An action that comes behind a flush. -/
theorem settled_flush_dispatch (action : QuerySessionAction Row) :
    settled (session.flushPendingRows.dispatch action) = querySessionReducer (settled session) action :=
  settled_none flushPendingRows_pendingRows

theorem buffer_pendingRows {queryId : Uuid} {rows : List Row} :
    (session.buffer queryId rows).pendingRows = some (match session.pendingRows with
      | some pending => if pending.queryId = queryId then { pending with rows := pending.rows ++ rows } else { queryId, rows }
      | none => { queryId, rows }) := rfl

/-- A batch in the buffer is shown as the reducer shows it, unless it drops rows of the active query. -/
theorem settled_buffer_iff {queryId : Uuid} {rows : List Row} :
    settled (session.buffer queryId rows) = querySessionReducer (settled session) (.event (.batch queryId rows)) ↔
      ∀ pending, session.pendingRows = some pending → pending.queryId ≠ queryId →
        some pending.queryId = session.state.queryId → pending.rows = [] := by
  rw [settled_some buffer_pendingRows]
  have unchanged : (session.buffer queryId rows).state = session.state := rfl
  rw [unchanged]
  cases waits : session.pendingRows with
  | none =>
    rw [settled_none waits]
    exact iff_of_true rfl fun pending absent => absurd absent (Option.some_ne_none pending).symm
  | some pending =>
    rw [settled_some waits]
    dsimp only
    by_cases same : pending.queryId = queryId
    · rw [if_pos same, same, reducer_batch_append]
      exact iff_of_true rfl fun other present differ => absurd (Option.some.inj present ▸ same) differ
    rw [if_neg same]
    by_cases active : some pending.queryId = session.state.queryId
    · have stale : some queryId ≠ session.state.queryId := fun other => same (Option.some.inj (active.trans other.symm))
      have later : querySessionReducer { session.state with rows := session.state.rows ++ pending.rows }
          (.event (.batch queryId rows)) = { session.state with rows := session.state.rows ++ pending.rows } :=
        reducer_batch_stale stale
      rw [reducer_batch_stale stale, reducer_batch_active active, later]
      constructor
      · intro kept other present _ _
        obtain rfl := Option.some.inj present
        have rowsKept := congrArg QuerySessionState.rows kept
        exact List.append_right_eq_self.mp rowsKept.symm
      · intro empty
        rw [empty pending rfl same active, List.append_nil]
    · rw [reducer_batch_stale active]
      exact iff_of_true rfl fun other present _ here => absurd (Option.some.inj present ▸ here) active

/-- The reducer as an event drives it. -/
def reduce (state : QuerySessionState Row) (event : Event Row) : QuerySessionState Row :=
  event.action.elim state (querySessionReducer state)

/-- One event of a session is shown as the reducer shows it exactly when it keeps the rows. -/
theorem settled_step_iff (session : Session Row) (event : Event Row) :
    settled (step session event) = reduce (settled session) event ↔ KeepsRows session event := by
  have harmless {shown : Prop} (holds : shown) (other : ∀ queryId rows, event ≠ .message (.batch queryId rows)) :
      shown ↔ KeepsRows session event :=
    iff_of_true holds fun queryId rows pending same => absurd same (other queryId rows)
  cases event with
  | begin queryId connectionId sql => exact harmless rfl (by rintro _ _ ⟨⟩)
  | frame =>
    refine harmless ?_ (by rintro _ _ ⟨⟩)
    rw [step]
    split
    · exact settled_none flushPendingRows_pendingRows
    · rfl
  | cancel queryId => exact harmless (settled_flush_dispatch _) (by rintro _ _ ⟨⟩)
  | startFailed queryId error =>
    refine harmless ?_ (by rintro _ _ ⟨⟩)
    show settled (session.dispatch (.startFailed queryId error)) = querySessionReducer (settled session) (.startFailed queryId error)
    cases waits : session.pendingRows with
    | none => rw [settled_none waits, settled_none (show (session.dispatch _).pendingRows = none from waits)]; rfl
    | some pending =>
      rw [settled_some waits, settled_some (show (session.dispatch _).pendingRows = some pending from waits)]
      exact reducer_startFailed_batch ..
  | message event =>
    cases event with
    | batch queryId rows =>
      refine settled_buffer_iff.trans ⟨fun kept query others pending same => ?_, fun kept pending => kept queryId rows pending rfl⟩
      obtain ⟨rfl, rfl⟩ := QueryEvent.batch.inj (Event.message.inj same)
      exact kept pending
    | started queryId => exact harmless (settled_flush_dispatch _) (by rintro _ _ ⟨⟩)
    | schema queryId columns => exact harmless (settled_flush_dispatch _) (by rintro _ _ ⟨⟩)
    | completed queryId affectedRows => exact harmless (settled_flush_dispatch _) (by rintro _ _ ⟨⟩)
    | canceled queryId => exact harmless (settled_flush_dispatch _) (by rintro _ _ ⟨⟩)
    | failed queryId error => exact harmless (settled_flush_dispatch _) (by rintro _ _ ⟨⟩)

theorem unbuffered_concat (events : List (Event Row)) (event : Event Row) :
    unbuffered (events ++ [event]) = reduce (unbuffered events) event := by
  rw [unbuffered, unbuffered, List.filterMap_append, List.foldl_append, reduce]
  cases action : event.action with
  | none => rw [List.filterMap_cons_none action]; rfl
  | some action => rw [List.filterMap_cons_some action]; rfl

/-- A final flush shows what the reducer alone shows after every part of a run exactly when no
batch of the run takes the place of rows that wait for the active query. -/
theorem run_settled_iff (events : List (Event Row)) :
    (∀ first rest, events = first ++ rest → settled (Runs.run step initial first) = unbuffered first) ↔
      Runs.Permitted step KeepsRows initial events := by
  constructor
  · intro shown before event after same
    have here := shown before (event :: after) same
    have next := shown (before ++ [event]) after (by simp [same])
    rw [Runs.run_concat, unbuffered_concat, ← here] at next
    exact (settled_step_iff _ event).mp next
  · rintro permitted first rest rfl
    refine @Runs.permitted_history _ _ step KeepsRows initial (fun history session => settled session = unbuffered history) rfl
      ?_ first (Runs.permitted_initial step permitted)
    intro history event keeps shown
    rw [unbuffered_concat, ← shown]
    exact (settled_step_iff _ event).mpr keeps

/-- The session of the hook is the session over the events that reach it. -/
theorem hook_session (connectionId : Uuid) (events : List (HookEvent Row)) :
    (Runs.run (hookStep connectionId) .initial events).session =
      Runs.run step initial (Runs.outputs (hookStep connectionId) (reaches connectionId) .initial events) := by
  refine @Runs.run_history _ _ (hookStep connectionId) .initial (fun history hook => hook.session =
    Runs.run step initial (Runs.outputs (hookStep connectionId) (reaches connectionId) .initial history)) rfl ?_ events
  intro history event held
  rw [Runs.outputs_concat, Runs.run_append, ← held, hookStep]
  cases reaches connectionId (Runs.run (hookStep connectionId) .initial history) event with
  | none => rfl
  | some reached =>
    cases reached with
    | message event =>
      dsimp only
      split <;> rfl
    | begin | frame | cancel | startFailed => rfl

def firstId : Uuid := ⟨"1b9d6bcd-bbfd-4b2d-9b5d-ab8dfbbd4bed"⟩
def secondId : Uuid := ⟨"9b1deb4d-3b7d-4bad-9bdd-2b0d7b3dcb6d"⟩
def savedId : Uuid := ⟨"6f1d8f0e-4a53-4c0a-9d7e-0c5f6a1b2c3d"⟩

/-- A start that is rejected, a second query, and a batch of the first that comes late. -/
def lateBatch : List (HookEvent (List CellValue)) :=
  [.run firstId "SELECT 1", .rejected firstId { code := .internal, message := "", technicalDetails := none, retryable := true },
    .run secondId "SELECT 2", .message (.started secondId), .message (.batch secondId [[.integer "2"]]),
    .message (.batch firstId [[.integer "1"]]), .frame]

theorem lateBatch_drops :
    (settled (Runs.run (hookStep savedId) .initial lateBatch).session).rows = [] ∧
      (unbuffered (Runs.outputs (hookStep savedId) (reaches savedId) .initial lateBatch)).rows = [[.integer "2"]] := by
  constructor
  · rfl
  · rfl

end Pipa.QuerySession
