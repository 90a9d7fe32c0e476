import Pipa.McpServer

/-! The connection scope in its three places: the one that authorises requests, the one
the panel shows and the one in the store. Only the sections of a scope change and the
restored settings of a port change write any of them. -/

namespace Pipa.McpServer
open State

/-- Some command is about to authorise the scope that the panel shows. -/
def Enforcing (state : State) : Prop :=
  ∃ command rest, state.commands command = .enforce state.handle.scope :: rest

/-- Every scope change is followed by the authorisation of its scope. -/
def Followed : List Section → Prop
  | [] => True
  | .setScope scope :: rest => rest.head? = some (.enforce scope) ∧ Followed rest
  | _ :: rest => Followed rest

/-- The store agrees with the panel, and the authorised scope does so unless a command is
about to bring it up to date. -/
structure Agreed (state : State) : Prop where
  followed : ∀ command, Followed (state.commands command)
  stored : McpConnectionScope.fromSettings state.stored = state.handle.scope
  enforced : state.connectionScope = state.handle.scope ∨ Enforcing state

/-- No command is in progress. -/
def Quiet (state : State) : Prop := ∀ command, state.commands command = []

/-- The scope that authorises requests, the one shown and the persisted one are the same. -/
def Consistent (state : State) : Prop :=
  state.connectionScope = state.handle.scope ∧ McpConnectionScope.fromSettings state.stored = state.handle.scope

theorem Agreed.consistent {state : State} (agreed : Agreed state) (quiet : Quiet state) : Consistent state := by
  refine ⟨agreed.enforced.resolve_right ?_, agreed.stored⟩
  rintro ⟨command, rest, due⟩
  rw [quiet command] at due
  cases due

/-! ### What a section does to the scopes -/

theorem startMcpServer_scope (state : State) (world : World) (port : Nat) :
    (state.startMcpServer world port).2.handle.scope = state.handle.scope ∧
      (state.startMcpServer world port).2.connectionScope = state.connectionScope ∧
      (state.startMcpServer world port).2.stored = state.stored := by
  rw [startMcpServer]
  split
  · exact ⟨rfl, rfl, rfl⟩
  · split
    · exact ⟨rfl, rfl, rfl⟩
    · split <;> exact ⟨rfl, rfl, rfl⟩

theorem stopMcpServer_scope (state : State) :
    state.stopMcpServer.handle.scope = state.handle.scope ∧
      state.stopMcpServer.connectionScope = state.connectionScope ∧ state.stopMcpServer.stored = state.stored := by
  rw [stopMcpServer]
  split <;> exact ⟨rfl, rfl, rfl⟩

theorem scope_setConnectionScope (handle : Handle) (scope : McpConnectionScope) :
    (handle.setConnectionScope scope).scope = scope := rfl

/-- A save of settings with the stored scope keeps it, wherever it fails. -/
theorem save_same {saveFails : Option Nat} {settings stored : McpSettings}
    (same : McpConnectionScope.fromSettings stored = .fromSettings settings) :
    McpConnectionScope.fromSettings (saveMcpSettings saveFails settings stored) = .fromSettings settings := by
  have each : ∀ writes ⊆ settingsWrites settings, McpConnectionScope.fromSettings
      (writes.foldl (fun stored write => write stored) stored) = .fromSettings settings := by
    intro writes listed
    refine List.foldlRecOn (motive := fun current => McpConnectionScope.fromSettings current = .fromSettings settings)
      writes _ same ?_
    intro current kept write member
    obtain ⟨restrict, ids⟩ := McpConnectionScope.mk.inj kept
    have written := listed member
    simp only [settingsWrites, List.mem_cons, List.not_mem_nil, or_false] at written
    rcases written with rfl | rfl | rfl | rfl
    · exact kept
    · exact kept
    · exact congrArg (McpConnectionScope.mk _) ids
    · exact congrArg (fun restricted => McpConnectionScope.mk restricted _) restrict
  cases saveFails with
  | none => exact each _ (List.Subset.refl _)
  | some count => exact each _ (List.take_subset count _)

theorem save_succeeds (settings stored : McpSettings) : saveMcpSettings none settings stored = settings := rfl

/-! ### The invariant -/

/-- The steps that keep the scopes together: a scope change saves its scope unless it
changes nothing, a command authorises the scope shown or leaves that to another one, and
restored settings are not outdated. -/
def Orderly (state : State) : Event → Prop
  | .advance command world =>
    match state.commands command with
    | .setScope scope :: _ => world.saveFails = none ∨ scope = state.handle.scope
    | .enforce scope :: _ =>
      scope = state.handle.scope ∨
        ∃ other rest, other ≠ command ∧ state.commands other = .enforce state.handle.scope :: rest
    | .configure settings :: _ => McpConnectionScope.fromSettings settings = state.handle.scope
    | _ => True
  | _ => True

theorem perform_commands (state : State) (world : World) (due : Section) (rest : List Section) :
    (state.perform world due rest).2.commands = state.commands := by
  have started : ∀ port, (state.startMcpServer world port).2.commands = state.commands := by
    intro port
    rw [startMcpServer]
    split
    · rfl
    · split
      · rfl
      · split <;> rfl
  cases due with
  | listen port previous =>
    have same := started port
    simp only [perform]
    generalize state.startMcpServer world port = result at same ⊢
    obtain ⟨answer, after⟩ := result
    cases answer <;> cases previous <;> exact same
  | relisten port =>
    have same := started port
    simp only [perform]
    generalize state.startMcpServer world port = result at same ⊢
    obtain ⟨answer, after⟩ := result
    cases answer <;> exact same
  | stop =>
    simp only [perform, stopMcpServer]
    split <;> rfl
  | wait task =>
    rw [perform]
    split <;> rfl
  | _ => rfl

/-- Sections that leave the scopes alone, up to a save of the scope already stored. -/
def KeepsScopes (before after : State) : Prop :=
  after.handle.scope = before.handle.scope ∧ after.connectionScope = before.connectionScope ∧
    (McpConnectionScope.fromSettings before.stored = before.handle.scope →
      McpConnectionScope.fromSettings after.stored = before.handle.scope)

theorem keepsScopes_of_same {before after : State} (same : after.handle.scope = before.handle.scope ∧
    after.connectionScope = before.connectionScope ∧ after.stored = before.stored) : KeepsScopes before after :=
  ⟨same.1, same.2.1, fun stored => same.2.2 ▸ stored⟩

theorem perform_keepsScopes {state : State} {world : World} {due : Section} (rest : List Section)
    (quiet : ∀ scope, due ≠ .setScope scope ∧ due ≠ .enforce scope)
    (current : ∀ settings, due = .configure settings → McpConnectionScope.fromSettings settings = state.handle.scope) :
    KeepsScopes state (state.perform world due rest).2 := by
  cases due with
  | listen port previous =>
    have same := startMcpServer_scope state world port
    simp only [perform]
    generalize state.startMcpServer world port = result at same ⊢
    obtain ⟨answer, after⟩ := result
    cases answer <;> cases previous <;> exact keepsScopes_of_same same
  | relisten port =>
    have same := startMcpServer_scope state world port
    simp only [perform]
    generalize state.startMcpServer world port = result at same ⊢
    obtain ⟨answer, after⟩ := result
    cases answer <;> exact keepsScopes_of_same same
  | stop => exact keepsScopes_of_same (stopMcpServer_scope state)
  | wait task =>
    rw [perform]
    split <;> exact keepsScopes_of_same ⟨rfl, rfl, rfl⟩
  | configure settings => exact keepsScopes_of_same ⟨current settings rfl, rfl, rfl⟩
  | setScope scope => exact absurd rfl (quiet scope).1
  | enforce scope => exact absurd rfl (quiet scope).2
  | save => exact ⟨rfl, rfl, fun stored => save_same stored⟩
  | _ => exact keepsScopes_of_same ⟨rfl, rfl, rfl⟩

theorem sections_followed (command : Command) : Followed command.sections := by
  cases command with
  | setPort port =>
    simp only [Command.sections]
    split <;> simp [Followed]
  | _ => simp [Command.sections, Followed]

theorem followed_rest {due : Section} {rest : List Section} (followed : Followed (due :: rest)) : Followed rest := by
  cases due with
  | setScope scope => exact followed.2
  | _ => exact followed

theorem perform_followed (state : State) (world : World) {due : Section} {rest : List Section}
    (followed : Followed (due :: rest)) : Followed (state.perform world due rest).1 := by
  have later := followed_rest followed
  cases due with
  | listen port previous =>
    simp only [perform]
    generalize state.startMcpServer world port = result
    obtain ⟨answer, after⟩ := result
    cases answer <;> cases previous <;> simp [Followed, later]
  | relisten port =>
    simp only [perform]
    generalize state.startMcpServer world port = result
    obtain ⟨answer, after⟩ := result
    cases answer <;> simp [Followed]
  | stop =>
    simp only [perform]
    split <;> exact later
  | wait task =>
    rw [perform]
    split <;> first | exact later | simp [Followed]
  | validateCurrent | validate | requireRunning | snapshotPort | setScope | save =>
    simp only [perform]
    split <;> first | exact later | simp [Followed]
  | report => simp [perform, Followed]
  | _ => exact later

theorem update_followed {commands : Nat → List Section} (followed : ∀ command, Followed (commands command)) (changed : Nat)
    {next : List Section} (follows : Followed next) : ∀ command, Followed (Function.update commands changed next command) := by
  intro command
  by_cases same : command = changed
  · subst command
    simpa using follows
  · simpa [Function.update_of_ne same] using followed command

/-- A section that leaves the scopes alone leaves what other commands are about to authorise. -/
theorem agreed_kept {state after : State} {command : Nat} {first : Section} {rest : List Section} (agreed : Agreed state)
    (due : state.commands command = first :: rest) (other : ∀ scope, first ≠ .enforce scope)
    (kept : KeepsScopes state after) (commands : after.commands = state.commands) {next : List Section}
    (follows : Followed next) : Agreed { after with commands := Function.update after.commands command next } := by
  obtain ⟨shown, authorised, stored⟩ := kept
  refine ⟨update_followed (commands ▸ agreed.followed) command follows, (stored agreed.stored).trans shown.symm, ?_⟩
  rcases agreed.enforced with enforced | ⟨pending, later, enforces⟩
  · exact Or.inl (authorised.trans (enforced.trans shown.symm))
  · refine Or.inr ⟨pending, later, ?_⟩
    have different : pending ≠ command := by
      rintro rfl
      exact other _ (List.cons.inj (due.symm.trans enforces)).1
    change Function.update after.commands command next pending = .enforce after.handle.scope :: later
    rw [Function.update_of_ne different, commands, enforces, shown]

theorem advance_agreed {state : State} {command : Nat} {world : World}
    (orderly : Orderly state (.advance command world)) (agreed : Agreed state) :
    Agreed (state.step (.advance command world)) := by
  cases due : state.commands command with
  | nil => simpa [step, due] using agreed
  | cons first rest =>
    have here := due ▸ agreed.followed command
    have follows := perform_followed state world here
    have stepped : state.step (.advance command world) = { (state.perform world first rest).2 with
        commands := Function.update (state.perform world first rest).2.commands command (state.perform world first rest).1 } := by
      simp only [step, due, perform_commands]
    rw [stepped]
    have commands := perform_commands state world first rest
    cases first with
    | setScope scope =>
      have orderly : world.saveFails = none ∨ scope = state.handle.scope := by simpa [Orderly, due] using orderly
      by_cases saved : world.saveFails = none
      · obtain ⟨later, rfl⟩ : ∃ later, rest = .enforce scope :: later := List.head?_eq_some_iff.mp here.1
        refine ⟨update_followed (commands ▸ agreed.followed) command follows, ?_, Or.inr ⟨command, later, ?_⟩⟩
        · simp only [perform, saved, save_succeeds]
          rfl
        · simp [perform, saved, scope_setConnectionScope]
      · have unchanged : scope = state.handle.scope := orderly.resolve_left saved
        have kept : KeepsScopes state (state.perform world (.setScope scope) rest).2 := by
          refine ⟨unchanged, rfl, fun stored => (save_same ?_).trans unchanged⟩
          exact stored.trans unchanged.symm
        exact agreed_kept agreed due (by simp) kept commands follows
    | enforce scope =>
      have orderly : scope = state.handle.scope ∨ ∃ other rest, other ≠ command ∧
          state.commands other = .enforce state.handle.scope :: rest := by simpa [Orderly, due] using orderly
      refine ⟨update_followed (commands ▸ agreed.followed) command follows, agreed.stored, ?_⟩
      rcases orderly with current | ⟨other, later, different, enforces⟩
      · exact Or.inl current
      · exact Or.inr ⟨other, later, (Function.update_of_ne different _ _).trans enforces⟩
    | configure settings =>
      have orderly : McpConnectionScope.fromSettings settings = state.handle.scope := by simpa [Orderly, due] using orderly
      refine agreed_kept agreed due (by simp) (perform_keepsScopes rest (by simp) ?_) commands follows
      rintro _ ⟨rfl⟩
      exact orderly
    | _ => exact agreed_kept agreed due (by simp) (perform_keepsScopes rest (by simp) (by simp)) commands follows

theorem step_agreed {state : State} {event : Event} (orderly : Orderly state event) (agreed : Agreed state) :
    Agreed (state.step event) := by
  have frame : ∀ {after : State}, after.handle.scope = state.handle.scope →
      after.connectionScope = state.connectionScope → after.stored = state.stored → after.commands = state.commands →
      Agreed after := by
    intro after shown authorised stored commands
    refine ⟨commands ▸ agreed.followed, by rw [stored, shown, agreed.stored], ?_⟩
    rw [authorised, shown, Enforcing, shown, commands]
    exact agreed.enforced
  cases event with
  | advance command world => exact advance_agreed orderly agreed
  | invoke command invoked =>
    rw [step]
    split
    next idle =>
      refine ⟨update_followed agreed.followed command (sections_followed invoked), agreed.stored,
        agreed.enforced.imp_right ?_⟩
      rintro ⟨pending, later, enforces⟩
      have different : pending ≠ command := by
        rintro rfl
        rw [idle] at enforces
        cases enforces
      exact ⟨pending, later, (Function.update_of_ne different _ _).trans enforces⟩
    · exact agreed
  | serveEnds number error =>
    rw [step]
    split
    · split
      · exact frame rfl rfl rfl rfl
      · exact agreed
    · exact agreed
  | cleanup number =>
    rw [step]
    split
    next error ends => cases error <;> exact frame rfl rfl rfl rfl
    · exact agreed
  | panics number =>
    rw [step]
    split
    · exact frame rfl rfl rfl rfl
    · exact agreed

theorem initial_agreed (settings : McpSettings) : Agreed (initial settings) :=
  ⟨fun _ => trivial, rfl, Or.inl rfl⟩

/-- In every run of orderly steps, whenever no command is in progress the scope that
authorises requests, the one shown and the persisted one are the same. -/
theorem scopes_consistent (settings : McpSettings) (events : List Event)
    (orderly : Runs.Permitted step Orderly (initial settings) events) :
    ∀ before after, events = before ++ after → Quiet (Runs.run step (initial settings) before) →
      Consistent (Runs.run step (initial settings) before) := by
  rintro before after rfl quiet
  have agreed := Runs.permitted_preserves step (initial_agreed settings) (fun _ _ orderly agreed => step_agreed orderly agreed)
    before (Runs.permitted_initial step orderly)
  exact agreed.consistent quiet

/-- A world that knows every connection, where a save may fail before its first write. -/
def savingWorld (saveFails : Option Nat) : World :=
  { known := fun _ => true, generateToken := .ok "token", bind := .ok, saveFails }

def restrictScope (saveFails : Option Nat) : List Event :=
  [.invoke 0 (.setConnectionScope true [⟨"c"⟩]), .advance 0 (savingWorld none), .advance 0 (savingWorld saveFails),
    .advance 0 (savingWorld none)]

theorem scopes_consistent_restricted :
    Consistent (Runs.run step (initial ⟨false, 3847, false, []⟩) (restrictScope none)) := by
  refine scopes_consistent ⟨false, 3847, false, []⟩ (restrictScope none) ?_ _ [] (List.append_nil _).symm ?_
  · simp only [restrictScope, Runs.permitted_cons]
    exact ⟨trivial, trivial, Or.inl rfl, Or.inl rfl, Runs.permitted_nil step _ _⟩
  · intro command
    cases command <;> rfl

/-- When the save fails, the panel shows a restriction that requests do not obey. -/
theorem failed_save_splits_scopes :
    ¬ ∀ (settings : McpSettings) (events before after : List Event), events = before ++ after →
      Quiet (Runs.run step (initial settings) before) → Consistent (Runs.run step (initial settings) before) := by
  intro consistent
  have split := consistent ⟨false, 3847, false, []⟩ (restrictScope (some 0)) _ [] (List.append_nil _).symm
    (fun command => by cases command <;> rfl)
  exact absurd split.1 (by decide)

end Pipa.McpServer
