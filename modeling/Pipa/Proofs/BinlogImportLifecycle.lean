import Pipa.Proofs.BinlogImportEffects

/-! The lifecycle of binlog analysis sessions over all interleavings. A session shows
what its task last wrote, a closed one never comes back, and each import reports its
end at most once, after its output was stored. -/

namespace Pipa.BinlogImport
open BinlogParser

namespace State

/-- The session of an import holds what the phase of its task says, storing an output
had one of its two outcomes, and there is one report once the task concluded. -/
structure Fine (state : State) (id : Uuid) : Prop where
  held : ∀ session, state.sessions id = some session → ∃ task, state.tasks id = some task ∧ session = task.session id
  stamped : ∀ task output, state.tasks id = some task → task.phase.output = some output → output.summary.analysisId = id
  outcomes : ∀ task, state.tasks id = some task → ∀ output outcome,
    task.phase.published = some (output, outcome) → outcome = .ok () ∨ outcome = .error .notFound
  counted : state.reports.count id = if (state.tasks id).any (·.phase.reported) then 1 else 0

/-- Every import is fine, no unknown one has a task, and closed sessions are gone. -/
structure Sound (state : State) : Prop where
  fine : ∀ id, Fine state id
  tasksKnown : ∀ id, id ∉ state.known → state.tasks id = none
  closingKnown : ∀ id ∈ state.closing, id ∈ state.known
  closedKnown : ∀ id ∈ state.closed, id ∈ state.known
  gone : ∀ id ∈ state.closed, state.sessions id = none

theorem Sound.initial : Sound new := by
  refine ⟨fun id => ⟨?_, ?_, ?_, ?_⟩, ?_, ?_, ?_, ?_⟩ <;> simp [new, reports]

section Steps
variable {before after : State} {event : Step} {id : Uuid}

theorem Fine.keep (fine : Fine before id) (sessions : after.sessions id = before.sessions id)
    (tasks : after.tasks id = before.tasks id) (reports : after.reports.count id = before.reports.count id) : Fine after id :=
  ⟨fun session present => tasks ▸ fine.held session (sessions ▸ present), fun task output here => fine.stamped task output (tasks ▸ here),
    fun task here => fine.outcomes task (tasks ▸ here), by rw [reports, tasks]; exact fine.counted⟩

theorem replace_other {sessions : InMemoryAnalysisRepository} {summary : BinlogSummary} {transactions : List BinlogTransaction}
    (other : id ≠ summary.analysisId) : (BinlogRepository.replace sessions summary transactions).2 id = sessions id := by
  unfold BinlogRepository.replace
  split
  · exact Function.update_of_ne other _ _
  · rfl

/-- Replacing reports success exactly when it replaced a session. -/
theorem replace_same (sessions : InMemoryAnalysisRepository) (summary : BinlogSummary) (transactions : List BinlogTransaction) :
    ((BinlogRepository.replace sessions summary transactions).1 = .error .notFound ∧
      (BinlogRepository.replace sessions summary transactions).2 summary.analysisId = none) ∨
    ((BinlogRepository.replace sessions summary transactions).1 = .ok () ∧
      (BinlogRepository.replace sessions summary transactions).2 summary.analysisId = some ⟨summary, transactions⟩) := by
  unfold BinlogRepository.replace
  cases present : sessions summary.analysisId with
  | none => exact Or.inl ⟨rfl, present⟩
  | some session => exact Or.inr ⟨rfl, Function.update_self ..⟩

/-- What a step does to an import that a new one does not displace. -/
theorem Effect.fine (effect : Effect before after event) (fine : ∀ id, Fine before id)
    (undrawn : ∀ fresh, drawn event = some fresh → before.tasks fresh = none) : Fine after id := by
  have kept := fine id
  cases effect with
  | quiet sessions tasks reports => exact kept.keep (by rw [sessions]) (by rw [tasks]) (by rw [reports])
  | starts analysisId task fresh phase sessions tasks reports =>
    by_cases same : id = analysisId
    · subst same
      have unreported := kept.counted
      rw [undrawn id fresh] at unreported
      constructor
      · intro session present
        rw [sessions, Function.update_self] at present
        exact ⟨task, by rw [tasks, Function.update_self], (Option.some.inj present).symm⟩
      · intro other output here produced
        rw [tasks, Function.update_self] at here
        obtain rfl := Option.some.inj here
        rw [phase] at produced
        cases produced
      · intro other here output outcome published
        rw [tasks, Function.update_self] at here
        obtain rfl := Option.some.inj here
        rw [phase] at published
        cases published
      · rw [reports, unreported, tasks, Function.update_self]
        simp [phase, Phase.reported]
    · exact kept.keep (by rw [sessions, Function.update_of_ne same]) (by rw [tasks, Function.update_of_ne same]) (by rw [reports])
  | advances analysisId task phase here tasks sessions reports published reported output =>
    by_cases same : id = analysisId
    · subst same
      have now : after.tasks id = some { task with phase } := by rw [tasks, Function.update_self]
      constructor
      · intro session present
        obtain ⟨old, there, rfl⟩ := kept.held session (sessions ▸ present)
        obtain rfl := Option.some.inj (here.symm.trans there)
        exact ⟨_, now, by simp only [Task.session, published]⟩
      · intro other produced there shown
        obtain rfl := Option.some.inj (now.symm.trans there)
        rcases output produced shown with earlier | stamped
        · exact kept.stamped task produced here earlier
        · exact stamped
      · intro other there produced outcome stored
        obtain rfl := Option.some.inj (now.symm.trans there)
        exact kept.outcomes task here produced outcome (published ▸ stored)
      · rw [reports, kept.counted, now, here]
        simp only [Option.any_some, reported]
    · exact kept.keep (by rw [sessions]) (by rw [tasks, Function.update_of_ne same]) (by rw [reports])
  | stores analysisId task output here parsed unpublished tasks sessions reports =>
    have stamped := (fine analysisId).stamped task output here parsed
    by_cases same : id = analysisId
    · subst same
      have now := (congrFun tasks id).trans (Function.update_self ..)
      have unreported : task.phase.reported = false := by
        cases phase : task.phase with
        | done result =>
          rw [phase] at unpublished
          cases result with
          | none => rfl
          | some _ => cases unpublished
        | created | registered | aborting | parsing | parsed _ | unregistered _ | stored _ _ | settled _ _ => rfl
      rcases replace_same before.sessions output.summary output.transactions with ⟨missed, gone⟩ | ⟨succeeded, there⟩
      · constructor
        · intro session present
          rw [sessions, ← stamped, gone] at present
          cases present
        · intro other produced here' shown
          obtain rfl := Option.some.inj (now.symm.trans here')
          obtain rfl := Option.some.inj shown
          exact stamped
        · intro other here' produced outcome stored
          obtain rfl := Option.some.inj (now.symm.trans here')
          obtain ⟨rfl, rfl⟩ := Prod.mk.inj (Option.some.inj stored)
          exact Or.inr missed
        · rw [reports, kept.counted, now, here]
          simp only [Option.any_some, unreported]
          rfl
      · constructor
        · intro session present
          rw [sessions, ← stamped, there] at present
          exact ⟨_, now, (Option.some.inj present).symm⟩
        · intro other produced here' shown
          obtain rfl := Option.some.inj (now.symm.trans here')
          obtain rfl := Option.some.inj shown
          exact stamped
        · intro other here' produced outcome stored
          obtain rfl := Option.some.inj (now.symm.trans here')
          obtain ⟨rfl, rfl⟩ := Prod.mk.inj (Option.some.inj stored)
          exact Or.inl succeeded
        · rw [reports, kept.counted, now, here]
          simp only [Option.any_some, unreported]
          rfl
    · exact kept.keep (by rw [sessions, replace_other (stamped ▸ same)]) (by rw [tasks, Function.update_of_ne same]) (by rw [reports])
  | concludes analysisId task output here stored unreported tasks sessions reports =>
    by_cases same : id = analysisId
    · subst same
      have now := (congrFun tasks id).trans (Function.update_self ..)
      constructor
      · intro session present
        obtain ⟨old, there, rfl⟩ := kept.held session (sessions ▸ present)
        obtain rfl := Option.some.inj (here.symm.trans there)
        exact ⟨_, now, by rw [Task.session_published stored, Task.session_published rfl]⟩
      · intro other produced here' shown
        obtain rfl := Option.some.inj (now.symm.trans here')
        obtain rfl := Option.some.inj shown
        exact kept.stamped task output here (Phase.output_of_published stored)
      · intro other here' produced outcome published
        obtain rfl := Option.some.inj (now.symm.trans here')
        obtain ⟨rfl, rfl⟩ := Prod.mk.inj (Option.some.inj published)
        exact Or.inl rfl
      · rw [reports.count_eq, List.count_cons_self, kept.counted, now, here]
        simp only [Option.any_some, unreported]
        rfl
    · exact kept.keep (by rw [sessions]) (by rw [tasks, Function.update_of_ne same])
        (by rw [reports.count_eq, List.count_cons_of_ne (Ne.symm same)])
  | closes analysisId tasks sessions reports =>
    by_cases same : id = analysisId
    · subst same
      refine ⟨fun session present => ?_, fun task output here => kept.stamped task output (tasks ▸ here),
        fun task here => kept.outcomes task (tasks ▸ here), by rw [reports, tasks]; exact kept.counted⟩
      rw [sessions, Function.update_self] at present
      cases present
    · exact kept.keep (by rw [sessions, Function.update_of_ne same]) (by rw [tasks]) (by rw [reports])
  | aborts analysisId task here phase tasks sessions reports =>
    by_cases same : id = analysisId
    · subst same
      have now := (congrFun tasks id).trans (Function.update_self ..)
      constructor
      · intro session present
        rw [sessions, Function.update_self] at present
        cases present
      · intro other produced here' shown
        obtain rfl := Option.some.inj (now.symm.trans here')
        cases shown
      · intro other here' produced outcome published
        obtain rfl := Option.some.inj (now.symm.trans here')
        cases published
      · rw [reports, kept.counted, now, here]
        simp only [Option.any_some, phase]
        rfl
    · exact kept.keep (by rw [sessions, Function.update_of_ne same]) (by rw [tasks, Function.update_of_ne same]) (by rw [reports])

/-- A session that is gone stays gone, unless a new import draws its id. -/
theorem Effect.stays_gone (effect : Effect before after event)
    (undrawn : ∀ fresh, drawn event = some fresh → fresh ≠ id) (gone : before.sessions id = none) : after.sessions id = none := by
  cases effect with
  | quiet sessions _ _ => rw [sessions, gone]
  | starts analysisId _ fresh _ sessions _ _ => rw [sessions, Function.update_of_ne (undrawn analysisId fresh).symm, gone]
  | advances _ _ _ _ _ sessions _ _ _ _ => rw [sessions, gone]
  | stores analysisId task output here parsed _ _ sessions _ =>
    by_cases same : id = output.summary.analysisId
    · rw [sessions, BinlogRepository.replace, ← same, gone]
      exact gone
    · rw [sessions, replace_other same, gone]
  | concludes _ _ _ _ _ _ _ sessions _ => rw [sessions, gone]
  | closes analysisId _ sessions _ | aborts analysisId _ _ _ _ sessions _ =>
    rw [sessions]
    by_cases same : id = analysisId
    · rw [same, Function.update_self]
    · rw [Function.update_of_ne same, gone]

/-- Only a start gives an import a task. -/
theorem Effect.no_task (effect : Effect before after event) (undrawn : ∀ fresh, drawn event = some fresh → fresh ≠ id)
    (none_before : before.tasks id = none) : after.tasks id = none := by
  have elsewhere {analysisId : Uuid} {task : Task} {entry : Option Task} (here : before.tasks analysisId = some task) :
      Function.update before.tasks analysisId entry id = none := by
    have other : id ≠ analysisId := by
      rintro rfl
      rw [here] at none_before
      cases none_before
    rw [Function.update_of_ne other, none_before]
  cases effect with
  | quiet _ tasks _ | closes _ tasks _ _ => rw [tasks, none_before]
  | starts analysisId _ fresh _ _ tasks _ => rw [tasks, Function.update_of_ne (undrawn analysisId fresh).symm, none_before]
  | advances _ _ _ here tasks _ _ _ _ _ | stores _ _ _ here _ _ tasks _ _ | concludes _ _ _ here _ _ tasks _ _
  | aborts _ _ here _ tasks _ _ => rw [tasks, elsewhere here]

/-- An output that was stored stays the task's output. -/
theorem Effect.stays_published (effect : Effect before after event)
    (undrawn : ∀ fresh, drawn event = some fresh → before.tasks fresh = none) {task : Task} {output : BinlogAnalysisOutput}
    {outcome : Except RepositoryError Unit} (here : before.tasks id = some task)
    (published : task.phase.published = some (output, outcome)) :
    ∃ later, after.tasks id = some later ∧ later.phase.published = some (output, outcome) := by
  have elsewhere {analysisId : Uuid} {entry : Option Task} (other : analysisId ≠ id)
      (tasks : after.tasks = Function.update before.tasks analysisId entry) :
      ∃ later, after.tasks id = some later ∧ later.phase.published = some (output, outcome) :=
    ⟨task, by rw [tasks, Function.update_of_ne other.symm, here], published⟩
  cases effect with
  | quiet _ tasks _ | closes _ tasks _ _ => exact ⟨task, by rw [tasks, here], published⟩
  | starts analysisId _ fresh _ _ tasks _ =>
    refine elsewhere ?_ tasks
    rintro rfl
    rw [undrawn _ fresh] at here
    cases here
  | advances analysisId old phase there tasks _ _ same _ _ =>
    by_cases equal : analysisId = id
    · subst equal
      obtain rfl := Option.some.inj (there.symm.trans here)
      exact ⟨_, by rw [tasks, Function.update_self], same.trans published⟩
    · exact elsewhere equal tasks
  | stores analysisId old _ there _ unpublished tasks _ _ =>
    refine elsewhere ?_ tasks
    rintro rfl
    obtain rfl := Option.some.inj (there.symm.trans here)
    rw [unpublished] at published
    cases published
  | concludes analysisId old produced there stored _ tasks _ _ =>
    by_cases equal : analysisId = id
    · subst equal
      obtain rfl := Option.some.inj (there.symm.trans here)
      refine ⟨{ old with phase := .done (some (produced, .ok ())) }, by rw [tasks, Function.update_self], ?_⟩
      exact stored.symm.trans published
    · exact elsewhere equal tasks
  | aborts analysisId old there aborting tasks _ _ =>
    refine elsewhere ?_ tasks
    rintro rfl
    obtain rfl := Option.some.inj (there.symm.trans here)
    rw [aborting] at published
    cases published

end Steps

section Runs
variable {state : State} {event : Step}

theorem Sound.undrawn (sound : Sound state) (fresh : Fresh state event) {id : Uuid} (new : drawn event = some id) :
    state.tasks id = none := sound.tasksKnown id (fresh id new)

theorem Sound.effect (sound : Sound state) : Effect state (state.step event) event :=
  step_effect event fun id => (sound.fine id).outcomes

theorem Sound.step (sound : Sound state) (fresh : Fresh state event) : Sound (state.step event) := by
  have effect : Effect state (state.step event) event := sound.effect
  have notes : Notes state (state.step event) event := step_notes event
  constructor
  · intro id
    exact effect.fine sound.fine fun id new => sound.undrawn fresh new
  · intro id unknown
    refine effect.no_task ?_ (sound.tasksKnown id fun known => unknown (notes.known id known))
    rintro drawn new rfl
    exact unknown (notes.drawn drawn new)
  · intro id closing
    rcases notes.closing id closing with earlier | known
    · exact notes.known id (sound.closingKnown id earlier)
    · exact known
  · intro id closed
    rcases notes.closed id closed with earlier | ⟨under, _⟩
    · exact notes.known id (sound.closedKnown id earlier)
    · exact notes.known id (sound.closingKnown id under)
  · intro id closed
    rcases notes.closed id closed with earlier | ⟨_, gone⟩
    · refine effect.stays_gone ?_ (sound.gone id earlier)
      rintro drawn new rfl
      exact fresh drawn new (sound.closedKnown drawn earlier)
    · exact gone

end Runs

/-- A run of steps of any tasks in any order, whose new imports draw fresh ids. -/
abbrev Run (events : List Step) : Prop := Runs.Permitted step Fresh new events

theorem run_sound {events : List Step} (run : Run events) : Sound (Runs.run step new events) :=
  Runs.permitted_preserves step Sound.initial (fun _ _ fresh sound => sound.step fresh) events run

theorem run_published {earlier later : List Step} (run : Run (earlier ++ later)) {id : Uuid} {task : Task}
    {output : BinlogAnalysisOutput} {outcome : Except RepositoryError Unit}
    (here : (Runs.run step new earlier).tasks id = some task) (published : task.phase.published = some (output, outcome)) :
    ∃ task', (Runs.run step new (earlier ++ later)).tasks id = some task' ∧ task'.phase.published = some (output, outcome) := by
  induction later using List.reverseRecOn with
  | nil =>
    rw [List.append_nil]
    exact ⟨task, here, published⟩
  | append_singleton later event ih =>
    rw [← List.append_assoc] at run ⊢
    have before := Runs.permitted_initial step run
    obtain ⟨task', there, still⟩ := ih before
    rw [Runs.run_concat]
    have sound := run_sound before
    exact sound.effect.stays_published (fun _ new => sound.undrawn (Runs.permitted_last step run) new) there still

end State

/-- What an import has written to its session: the empty one that it created, or the
summary and the transactions of its output. -/
def Task.Wrote (task : Task) (analysisId : Uuid) (session : AnalysisSession) : Prop :=
  session = ⟨initialSummary analysisId task.files task.startedAt, []⟩ ∨
    ∃ output outcome, task.phase.published = some (output, outcome) ∧ session = ⟨output.summary, output.transactions⟩

/-- In every run: a session whose close has returned answers no read; a session holds
one summary with its own transactions, and a reader who has seen a finished summary
finds its transactions as long as the session is there; and the end of an import is
reported at most once, when its output is stored or the session is gone since. -/
theorem analysis_lifecycle {events : List Step} (run : State.Run events) :
    let state := Runs.run State.step State.new events
    (∀ id ∈ state.closed, BinlogRepository.getSummary state.sessions id = .error .notFound ∧
      (∀ filter, BinlogRepository.listTransactions state.sessions id filter = .error .notFound) ∧
      ∀ sequence filter, BinlogRepository.getTransaction state.sessions id sequence filter = .error .notFound) ∧
    (∀ id session, state.sessions id = some session → ∃ task, state.tasks id = some task ∧ task.Wrote id session) ∧
    (∀ earlier later, events = earlier ++ later → ∀ id summary,
      BinlogRepository.getSummary (Runs.run State.step State.new earlier).sessions id = .ok summary → summary.endedAt ≠ none →
      ∃ output : BinlogAnalysisOutput, output.summary = summary ∧
        ∀ session, state.sessions id = some session → session = ⟨summary, output.transactions⟩) ∧
    ∀ id, (state.sent.filterMap BinlogImportEvent.terminal).count id + (state.activity.map ActivityEntry.analysisId).count id ≤ 1 ∧
      (id ∈ state.sent.filterMap BinlogImportEvent.terminal ∨ id ∈ state.activity.map ActivityEntry.analysisId →
        ∃ task output, state.tasks id = some task ∧ task.phase = .done (some (output, .ok ())) ∧
          (state.sessions id = some ⟨output.summary, output.transactions⟩ ∨ state.sessions id = none)) := by
  intro state
  have sound := State.run_sound run
  refine ⟨?_, ?_, ?_, ?_⟩
  · intro id closed
    have gone := sound.gone id closed
    exact ⟨by rw [BinlogRepository.getSummary, gone], fun filter => by rw [BinlogRepository.listTransactions, gone],
      fun sequence filter => by rw [BinlogRepository.getTransaction, gone]⟩
  · intro id session present
    obtain ⟨task, here, rfl⟩ := (sound.fine id).held session present
    refine ⟨task, here, ?_⟩
    cases published : task.phase.published with
    | none => exact Or.inl (Task.session_unpublished published id)
    | some pair => exact Or.inr ⟨pair.1, pair.2, published, Task.session_published published id⟩
  · rintro earlier later rfl id summary seen finished
    have before := State.run_sound (Runs.permitted_initial State.step run)
    cases present : (Runs.run State.step State.new earlier).sessions id with
    | none =>
      rw [BinlogRepository.getSummary, present] at seen
      cases seen
    | some session =>
      rw [BinlogRepository.getSummary, present] at seen
      obtain rfl := Except.ok.inj seen
      obtain ⟨task, here, rfl⟩ := (before.fine id).held session present
      cases published : task.phase.published with
      | none =>
        rw [Task.session_unpublished published] at finished
        exact absurd rfl finished
      | some pair =>
        obtain ⟨output, outcome⟩ := pair
        rw [Task.session_published published]
        refine ⟨output, rfl, fun session' there => ?_⟩
        obtain ⟨task', here', stored⟩ := State.run_published run here published
        obtain ⟨task'', here'', rfl⟩ := (sound.fine id).held session' there
        obtain rfl := Option.some.inj (here'.symm.trans here'')
        exact Task.session_published stored id
  · intro id
    have counted : (state.sent.filterMap BinlogImportEvent.terminal).count id + (state.activity.map ActivityEntry.analysisId).count id =
        if (state.tasks id).any (·.phase.reported) then 1 else 0 := by
      rw [← List.count_append]
      exact (sound.fine id).counted
    have at_most : (if (state.tasks id).any (·.phase.reported) then 1 else 0) ≤ 1 := by split <;> omega
    refine ⟨counted ▸ at_most, fun reported => ?_⟩
    have positive : 0 < (state.sent.filterMap BinlogImportEvent.terminal).count id +
        (state.activity.map ActivityEntry.analysisId).count id := by
      rcases reported with sent | logged
      · exact Nat.add_pos_left (List.count_pos_iff.mpr sent) _
      · exact Nat.add_pos_right _ (List.count_pos_iff.mpr logged)
    have concluded : (state.tasks id).any (·.phase.reported) = true := by
      by_contra open_
      rw [if_neg open_] at counted
      omega
    cases here : state.tasks id with
    | none => rw [here] at concluded; cases concluded
    | some task =>
      rw [here] at concluded
      obtain ⟨output, done⟩ := Phase.reported_iff.mp concluded
      refine ⟨task, output, rfl, done, ?_⟩
      cases present : state.sessions id with
      | none => exact Or.inr rfl
      | some session =>
        obtain ⟨task', here', rfl⟩ := (sound.fine id).held session present
        obtain rfl := Option.some.inj (here.symm.trans here')
        exact Or.inl (congrArg some (Task.session_published (by rw [done]; rfl) id))

/-- A close that overtakes the storing of an output: the session does not come back. -/
theorem analysis_lifecycle_overtaken :
    let id : Uuid := ⟨"a"⟩
    let state := Runs.run State.step State.new [
      .start .desktop id [] "t", .register id, .started id true, .beginClose id,
      .finishParsing id (.panicked "stopped") "u", .endClose id, .proceed id, .proceed id, .proceed id]
    BinlogRepository.getSummary state.sessions id = .error .notFound ∧ state.sent.filterMap BinlogImportEvent.terminal = [] := by
  intro id state
  have run : State.Run [
      .start .desktop id [] "t", .register id, .started id true, .beginClose id,
      .finishParsing id (.panicked "stopped") "u", .endClose id, .proceed id, .proceed id, .proceed id] := by
    simp only [State.Run, Runs.permitted_cons]
    refine ⟨?_, ?_, ?_, ?_, ?_, ?_, ?_, ?_, ?_, Runs.permitted_nil _ _ _⟩
    · intro drawn new known
      cases known
    all_goals
      intro drawn new
      cases new
  refine ⟨((analysis_lifecycle run).1 id ?_).1, rfl⟩
  exact List.mem_cons_self ..

end Pipa.BinlogImport
