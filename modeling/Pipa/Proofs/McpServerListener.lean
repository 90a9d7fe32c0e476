import Pipa.McpServer

/-! The handle against the listeners. Sections start a listener, stop the one that the
handle holds, or leave both alone; only the cleanup of an ended task can take the handle
away from a listener that still serves. -/

namespace Pipa.McpServer
open State

/-- A listener that serves and has not been cancelled. -/
def Live (state : State) (number : Nat) (task : ServerTask) : Prop :=
  state.tasks number = some task ∧ task.phase = .serving ∧ task.cancelled = false

/-- The handle holds the token, the port and the bearer token of this listener. -/
def Holds (handle : Handle) (number : Nat) (task : ServerTask) : Prop :=
  handle.cancellation = some number ∧ handle.port = some task.port ∧ handle.token = some task.token

/-- Every live listener is the one the handle holds, and a stop cancels it. -/
structure Tracked (state : State) : Prop where
  running : ∀ number task, Live state number task → state.handle.running = true
  held : ∀ number task, Live state number task → Holds state.handle number task
  stoppable : ∀ number task, Live state number task →
    (state.stopMcpServer.tasks number).map ServerTask.cancelled = some true
  single : ∀ first task second task', Live state first task → Live state second task' → first = second

/-- The part of a state that a listener depends on. -/
def SameListener (before after : State) : Prop :=
  after.tasks = before.tasks ∧ after.handle.cancellation = before.handle.cancellation ∧
    after.handle.port = before.handle.port ∧ after.handle.token = before.handle.token

inductive Effect (before after : State) : Prop where
  | keeps (same : SameListener before after)
  | starts (task : ServerTask) (idle : before.handle.cancellation = none)
      (added : after.tasks = Function.update before.tasks before.spawned (some task))
      (holds : Holds after.handle before.spawned task)
  | stops (empty : after.handle.cancellation = none)
      (cancels : ∀ number task, Live after number task →
        Live before number task ∧ before.handle.cancellation ≠ some number)

theorem stopMcpServer_handle (state : State) : state.stopMcpServer.handle.cancellation = none := by
  rw [stopMcpServer]
  split <;> rfl

theorem stopMcpServer_tasks (state : State) (number : Nat) :
    state.stopMcpServer.tasks number =
      if state.handle.cancellation = some number then
        (state.tasks number).map fun task => { task with cancelled := true }
      else state.tasks number := by
  rw [stopMcpServer]
  cases holds : state.handle.cancellation with
  | none => simp
  | some held =>
    by_cases same : number = held
    · subst number
      simp [setTask]
    · simp [setTask, Function.update_of_ne same, Ne.symm same]

theorem stopMcpServer_effect (state : State) : Effect state state.stopMcpServer := by
  refine .stops (stopMcpServer_handle state) ?_
  rintro number task ⟨present, serving, uncancelled⟩
  rw [stopMcpServer_tasks] at present
  split at present
  next held =>
    obtain ⟨original, -, rfl⟩ := Option.map_eq_some_iff.mp present
    cases uncancelled
  next other => exact ⟨⟨present, serving, uncancelled⟩, other⟩

theorem startMcpServer_effect (state : State) (world : World) (port : Nat) :
    Effect state (state.startMcpServer world port).2 := by
  rw [startMcpServer]
  split
  · exact .keeps ⟨rfl, rfl, rfl, rfl⟩
  next idle =>
    split
    · exact .keeps ⟨rfl, rfl, rfl, rfl⟩
    · split
      · exact .keeps ⟨rfl, rfl, rfl, rfl⟩
      · exact .starts _ (by simpa [Handle.running] using idle) rfl ⟨rfl, rfl, rfl⟩

theorem perform_effect (state : State) (world : World) (due : Section) (rest : List Section) :
    Effect state (state.perform world due rest).2 := by
  cases due with
  | listen port previous =>
    have effect := startMcpServer_effect state world port
    simp only [perform]
    generalize state.startMcpServer world port = started at effect ⊢
    obtain ⟨result, after⟩ := started
    cases result <;> cases previous <;> exact effect
  | relisten port =>
    have effect := startMcpServer_effect state world port
    simp only [perform]
    generalize state.startMcpServer world port = started at effect ⊢
    obtain ⟨result, after⟩ := started
    cases result <;> exact effect
  | stop => exact stopMcpServer_effect state
  | wait task =>
    rw [perform]
    split <;> exact .keeps ⟨rfl, rfl, rfl, rfl⟩
  | _ => exact .keeps ⟨rfl, rfl, rfl, rfl⟩

/-- Changing one task without restarting it makes nothing live. -/
theorem live_setTask {state : State} {changed : Nat} {change : ServerTask → ServerTask} {number : Nat} {task : ServerTask}
    (ends : ∀ task, (change task).phase ≠ .serving) (live : Live (state.setTask changed change) number task) :
    Live state number task := by
  obtain ⟨present, serving, uncancelled⟩ := live
  by_cases same : number = changed
  · subst number
    simp only [setTask, Function.update_self] at present
    obtain ⟨original, -, rfl⟩ := Option.map_eq_some_iff.mp present
    exact absurd serving (ends original)
  · simp only [setTask, Function.update_of_ne same] at present
    exact ⟨present, serving, uncancelled⟩

theorem tracked_of_held {state : State} (held : ∀ number task, Live state number task → Holds state.handle number task) :
    Tracked state := by
  refine ⟨?_, held, ?_, ?_⟩
  · intro number task live
    simp [Handle.running, (held number task live).1]
  · intro number task live
    rw [stopMcpServer_tasks, if_pos (held number task live).1, live.1]
    rfl
  · intro first task second task' live live'
    have same := (held first task live).1.symm.trans (held second task' live').1
    exact Option.some.inj same

theorem tracked_effect {before after : State} (tracked : Tracked before) (effect : Effect before after) : Tracked after := by
  refine tracked_of_held ?_
  intro number task live
  cases effect with
  | keeps same =>
    obtain ⟨tasks, cancellation, port, token⟩ := same
    have holds := tracked.held number task ⟨tasks ▸ live.1, live.2⟩
    exact ⟨cancellation.trans holds.1, port.trans holds.2.1, token.trans holds.2.2⟩
  | starts started idle added holds =>
    obtain ⟨present, alive⟩ := live
    rw [added] at present
    by_cases new : number = before.spawned
    · subst number
      rw [Function.update_self] at present
      exact Option.some.inj present ▸ holds
    · rw [Function.update_of_ne new] at present
      have held := (tracked.held number task ⟨present, alive⟩).1
      rw [idle] at held
      cases held
  | stops empty cancels =>
    obtain ⟨was, other⟩ := cancels number task live
    exact absurd (tracked.held number task was).1 other

/-- A cleanup is timely unless another listener is live: it clears the handle whoever holds it. -/
def Timely (state : State) : Event → Prop
  | .cleanup number =>
    (∃ error, (state.tasks number).map ServerTask.phase = some (.ending error)) → ∀ other task, ¬Live state other task
  | _ => True

theorem step_tracked {state : State} {event : Event} (timely : Timely state event) (tracked : Tracked state) :
    Tracked (state.step event) := by
  cases event with
  | invoke command invoked =>
    rw [step]
    split
    · exact tracked_effect tracked (.keeps ⟨rfl, rfl, rfl, rfl⟩)
    · exact tracked
  | advance command world =>
    rw [step]
    split
    · exact tracked
    next due rest _ =>
      have performed := tracked_effect tracked (perform_effect state world due rest)
      exact tracked_effect performed (.keeps ⟨rfl, rfl, rfl, rfl⟩)
  | serveEnds number error =>
    rw [step]
    split
    · split
      · refine tracked_of_held fun other task live => ?_
        exact tracked.held other task (live_setTask (by simp) live)
      · exact tracked
    · exact tracked
  | cleanup number =>
    rw [step]
    split
    next error ends =>
      refine tracked_of_held fun other task live => ?_
      have was : Live (state.setTask number fun found => { found with phase := .finished }) other task := live
      exact absurd (live_setTask (by simp) was) (timely ⟨error, ends⟩ other task)
    · exact tracked
  | panics number =>
    rw [step]
    split
    · refine tracked_of_held fun other task live => ?_
      exact tracked.held other task (live_setTask (by simp) live)
    · exact tracked

/-- An untimely cleanup leaves a live listener that the handle does not hold. -/
theorem untimely_untracked {state : State} {event : Event} (untimely : ¬Timely state event) :
    ¬Tracked (state.step event) := by
  intro tracked
  cases event with
  | cleanup number =>
    simp only [Timely, not_forall, not_not, exists_prop] at untimely
    obtain ⟨⟨error, ends⟩, other, task, live⟩ := untimely
    have different : other ≠ number := by
      rintro rfl
      rw [live.1, Option.map_some, live.2.1] at ends
      cases ends
    have kept : Live (state.step (.cleanup number)) other task := by
      refine ⟨?_, live.2⟩
      simp only [step, ends, setTask, Function.update_of_ne different, live.1]
    have held := (tracked.held other task kept).1
    simp only [step, ends] at held
    cases error <;> cases held
  | _ => exact untimely (by simp [Timely])

theorem initial_tracked (settings : McpSettings) : Tracked (initial settings) := by
  refine tracked_of_held ?_
  rintro number task ⟨present, -⟩
  cases present

/-- In every run, the handle tracks the live listener in every state reached exactly when
no ended task cleans the handle up while another listener is live. -/
theorem handle_tracks_listener_iff (settings : McpSettings) (events : List Event) :
    (∀ before after, events = before ++ after → Tracked (Runs.run step (initial settings) before)) ↔
      Runs.Permitted step Timely (initial settings) events := by
  constructor
  · intro tracked before event after split
    by_contra untimely
    have reached := tracked (before ++ [event]) after (by simp [split])
    rw [Runs.run_concat] at reached
    exact untimely_untracked untimely reached
  · rintro permitted before after rfl
    exact Runs.permitted_preserves step (initial_tracked settings) (fun _ _ timely tracked => step_tracked timely tracked)
      before (Runs.permitted_initial step permitted)

/-- A world in which every start binds the port it asks for. -/
def calmWorld : World := { known := fun _ => true, generateToken := .ok "token", bind := .ok, saveFails := none }

/-- A start while the stopped listener still drains its connections. -/
def restartWhileDraining : List Event :=
  [.invoke 0 .start, .advance 0 calmWorld, .advance 0 calmWorld, .advance 0 calmWorld,
    .invoke 1 .stop, .advance 1 calmWorld, .serveEnds 0 none,
    .invoke 2 .start, .advance 2 calmWorld, .advance 2 calmWorld, .advance 2 calmWorld, .cleanup 0]

/-- The cleanup of the stopped listener takes the handle away from the new one. -/
theorem stale_cleanup_orphans :
    ¬ ∀ (settings : McpSettings) (events before after : List Event), events = before ++ after →
      Tracked (Runs.run step (initial settings) before) := by
  intro tracked
  have reached := tracked ⟨false, 3847, false, []⟩ restartWhileDraining restartWhileDraining [] (by simp)
  have live : Live (Runs.run step (initial ⟨false, 3847, false, []⟩) restartWhileDraining) 1
      ⟨3847, "token", false, .serving⟩ := ⟨rfl, rfl, rfl⟩
  cases (reached.held 1 _ live).1

end Pipa.McpServer
