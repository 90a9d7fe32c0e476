import Pipa.BinlogImport

/-! What one step of a binlog import can do to the sessions, the tasks and the
reports. Each case keeps or replaces the session of one import together with the
phase of its task. -/

namespace Pipa.BinlogImport
open BinlogParser

namespace Phase

/-- The parser's output, once there is one. -/
def output : Phase → Option BinlogAnalysisOutput
  | .created | .registered | .aborting | .parsing | .done none => none
  | .parsed output | .unregistered output | .stored output _ | .settled output _ | .done (some (output, _)) => some output

/-- The output and what storing it came to, once that was tried. -/
def published : Phase → Option (BinlogAnalysisOutput × Except RepositoryError Unit)
  | .created | .registered | .aborting | .parsing | .parsed _ | .unregistered _ | .done none => none
  | .stored output outcome | .settled output outcome | .done (some (output, outcome)) => some (output, outcome)

/-- Whether a terminal report was due and has been made. -/
def reported : Phase → Bool
  | .done (some (_, .ok ())) => true
  | _ => false

theorem output_of_published {phase : Phase} {output : BinlogAnalysisOutput} {outcome : Except RepositoryError Unit}
    (stored : phase.published = some (output, outcome)) : phase.output = some output := by
  cases phase with
  | stored _ _ | settled _ _ => cases stored; rfl
  | done result =>
    cases result with
    | none => cases stored
    | some pair => cases stored; rfl
  | created | registered | aborting | parsing | parsed _ | unregistered _ => cases stored

theorem reported_iff {phase : Phase} : phase.reported = true ↔ ∃ output, phase = .done (some (output, .ok ())) := by
  constructor
  · intro reported
    cases phase with
    | done result =>
      rcases result with _ | ⟨output, error | _⟩
      · cases reported
      · cases reported
      · exact ⟨output, rfl⟩
    | created | registered | aborting | parsing | parsed _ | unregistered _ | stored _ _ | settled _ _ => cases reported
  · rintro ⟨output, rfl⟩
    rfl

end Phase

/-- The session that an import has in the phase of its task, if nobody closed it. -/
def Task.session (task : Task) (analysisId : Uuid) : AnalysisSession :=
  match task.phase.published with
  | some (output, _) => ⟨output.summary, output.transactions⟩
  | none => ⟨initialSummary analysisId task.files task.startedAt, []⟩

theorem Task.session_published {task : Task} {output : BinlogAnalysisOutput} {outcome : Except RepositoryError Unit}
    (stored : task.phase.published = some (output, outcome)) (analysisId : Uuid) :
    task.session analysisId = ⟨output.summary, output.transactions⟩ := by
  rw [Task.session, stored]

theorem Task.session_unpublished {task : Task} (unpublished : task.phase.published = none) (analysisId : Uuid) :
    task.session analysisId = ⟨initialSummary analysisId task.files task.startedAt, []⟩ := by
  rw [Task.session, unpublished]

/-- The imports whose end was reported, by a terminal event or in the activity log. -/
def State.reports (self : State) : List Uuid :=
  self.sent.filterMap BinlogImportEvent.terminal ++ self.activity.map ActivityEntry.analysisId

namespace State

/-- The changes that a step can make, told by what they mean for one import. -/
inductive Effect (before after : State) (event : Step) : Prop
  | quiet (sessions : after.sessions = before.sessions) (tasks : after.tasks = before.tasks)
      (reports : after.reports = before.reports)
  | starts (analysisId : Uuid) (task : Task) (fresh : drawn event = some analysisId) (phase : task.phase = .created)
      (sessions : after.sessions = Function.update before.sessions analysisId (some (task.session analysisId)))
      (tasks : after.tasks = Function.update before.tasks analysisId (some task)) (reports : after.reports = before.reports)
  | advances (analysisId : Uuid) (task : Task) (phase : Phase) (here : before.tasks analysisId = some task)
      (tasks : after.tasks = Function.update before.tasks analysisId (some { task with phase }))
      (sessions : after.sessions = before.sessions) (reports : after.reports = before.reports)
      (published : phase.published = task.phase.published) (reported : phase.reported = task.phase.reported)
      (output : ∀ output, phase.output = some output → task.phase.output = some output ∨ output.summary.analysisId = analysisId)
  | stores (analysisId : Uuid) (task : Task) (output : BinlogAnalysisOutput) (here : before.tasks analysisId = some task)
      (parsed : task.phase.output = some output) (unpublished : task.phase.published = none)
      (tasks : after.tasks = Function.update before.tasks analysisId
        (some { task with phase := .stored output (BinlogRepository.replace before.sessions output.summary output.transactions).1 }))
      (sessions : after.sessions = (BinlogRepository.replace before.sessions output.summary output.transactions).2)
      (reports : after.reports = before.reports)
  | concludes (analysisId : Uuid) (task : Task) (output : BinlogAnalysisOutput) (here : before.tasks analysisId = some task)
      (stored : task.phase.published = some (output, .ok ())) (unreported : task.phase.reported = false)
      (tasks : after.tasks = Function.update before.tasks analysisId (some { task with phase := .done (some (output, .ok ())) }))
      (sessions : after.sessions = before.sessions) (reports : after.reports.Perm (analysisId :: before.reports))
  | closes (analysisId : Uuid) (tasks : after.tasks = before.tasks)
      (sessions : after.sessions = Function.update before.sessions analysisId none) (reports : after.reports = before.reports)
  | aborts (analysisId : Uuid) (task : Task) (here : before.tasks analysisId = some task) (phase : task.phase = .aborting)
      (tasks : after.tasks = Function.update before.tasks analysisId (some { task with phase := .done none }))
      (sessions : after.sessions = Function.update before.sessions analysisId none) (reports : after.reports = before.reports)

section
variable {self : State} {analysisId : Uuid}

theorem parserOutput_id (task : Task) (endedAt : String) (result : ParserEnd) :
    (parserOutput task analysisId endedAt result).summary.analysisId = analysisId := by
  cases result <;> rfl

theorem reports_sent {after : State} (event : BinlogImportEvent) (quiet : event.terminal = none)
    (sent : after.sent = self.sent ++ [event]) (activity : after.activity = self.activity) : after.reports = self.reports := by
  simp [reports, sent, activity, quiet]

theorem reports_terminal {after : State} (event : BinlogImportEvent) (ends : event.terminal = some analysisId)
    (sent : after.sent = self.sent ++ [event]) (activity : after.activity = self.activity) :
    after.reports.Perm (analysisId :: self.reports) := by
  simp only [reports, sent, activity, List.filterMap_append, List.append_assoc]
  simp [ends, List.perm_middle]

theorem reports_activity {after : State} (entry : ActivityEntry) (about : entry.analysisId = analysisId)
    (sent : after.sent = self.sent) (activity : after.activity = self.activity ++ [entry]) :
    after.reports.Perm (analysisId :: self.reports) := by
  simp only [reports, sent, activity, List.map_append, ← List.append_assoc]
  subst about
  exact List.perm_append_singleton ..

theorem advance_effect {event : Step} {task : Task} {after : State} (phase : Phase) (here : self.tasks analysisId = some task)
    (tasks : after.tasks = Function.update self.tasks analysisId (some { task with phase }))
    (sessions : after.sessions = self.sessions) (reports : after.reports = self.reports)
    (published : phase.published = task.phase.published) (reported : phase.reported = task.phase.reported)
    (output : phase.output = task.phase.output) : Effect self after event :=
  .advances analysisId task phase here tasks sessions reports published reported
    fun _ produced => Or.inl (output ▸ produced)

/-- One lock section of a task either moves it on, stores its output, reports its
end, or closes the session of a start that could not be announced. -/
theorem proceed_effect (event : Step) {task : Task} (here : self.tasks analysisId = some task)
    (outcomes : ∀ output outcome, task.phase.published = some (output, outcome) → outcome = .ok () ∨ outcome = .error .notFound) :
    Effect self (self.proceed analysisId task) event := by
  obtain ⟨origin, files, startedAt, phase⟩ := task
  cases phase with
  | created | registered | parsing | done _ => exact .quiet rfl rfl rfl
  | aborting => exact .aborts analysisId _ here rfl rfl rfl rfl
  | unregistered output => exact .stores analysisId _ output here rfl rfl rfl rfl rfl
  | parsed output =>
    cases origin with
    | desktop => exact .stores analysisId _ output here rfl rfl rfl rfl rfl
    | mcp => exact advance_effect (.unregistered output) here rfl rfl rfl rfl rfl rfl
  | stored output outcome =>
    cases origin with
    | desktop => exact advance_effect (.settled output outcome) here rfl rfl rfl rfl rfl rfl
    | mcp =>
      rcases outcomes output outcome rfl with rfl | rfl
      · exact .concludes analysisId _ output here rfl rfl rfl rfl (reports_activity (finishedEntry analysisId output) rfl rfl rfl)
      · exact advance_effect (.done (some (output, .error .notFound))) here rfl rfl rfl rfl rfl rfl
  | settled output outcome =>
    rcases outcomes output outcome rfl with rfl | rfl
    · refine .concludes analysisId _ output here rfl rfl rfl rfl (reports_terminal (terminalEvent analysisId output.terminal) ?_ rfl rfl)
      cases output.terminal <;> rfl
    · exact advance_effect (.done (some (output, .error .notFound))) here rfl rfl rfl rfl rfl rfl

/-- Every step has one of the effects, as long as storing has only the two outcomes. -/
theorem step_effect (event : Step)
    (outcomes : ∀ analysisId task, self.tasks analysisId = some task → ∀ output outcome,
      task.phase.published = some (output, outcome) → outcome = .ok () ∨ outcome = .error .notFound) :
    Effect self (self.step event) event := by
  have idle {after : State} (same : after = self) : Effect self after event := .quiet (same ▸ rfl) (same ▸ rfl) (same ▸ rfl)
  cases event with
  | start origin analysisId files startedAt =>
    cases present : self.sessions analysisId with
    | none =>
      have shape : self.step (.start origin analysisId files startedAt) =
          (({ self with sessions := Function.update self.sessions analysisId (some ⟨initialSummary analysisId files startedAt, []⟩) } :
            State).withPhase analysisId { origin, files, startedAt, phase := .created } .created).mention analysisId := by
        simp only [step, start, BinlogRepository.create, initialSummary, present]
        rfl
      rw [shape]
      exact .starts analysisId { origin, files, startedAt, phase := .created } rfl rfl rfl rfl rfl
    | some session =>
      have shape : self.step (.start origin analysisId files startedAt) = self.mention analysisId := by
        simp only [step, start, BinlogRepository.create, initialSummary, present]
        rfl
      rw [shape]
      exact .quiet rfl rfl rfl
  | cancel analysisId =>
    simp only [step]
    split <;> exact .quiet rfl rfl rfl
  | beginClose analysisId =>
    simp only [step]
    split <;> exact .quiet rfl rfl rfl
  | endClose analysisId =>
    simp only [step]
    split
    · exact .closes analysisId rfl rfl rfl
    · exact idle rfl
  | getSummary _ | listTransactions _ _ | getTransaction _ _ _ => exact .quiet rfl rfl rfl
  | proceed analysisId =>
    simp only [step, onTask]
    cases here : self.tasks analysisId with
    | none => exact idle rfl
    | some task => exact proceed_effect _ here (outcomes analysisId task here)
  | register analysisId =>
    simp only [step, onTask]
    cases here : self.tasks analysisId with
    | none => exact idle rfl
    | some task =>
      obtain ⟨origin, files, startedAt, phase⟩ := task
      cases phase with
      | created => exact advance_effect .registered here rfl rfl rfl rfl rfl rfl
      | registered | aborting | parsing | parsed _ | unregistered _ | stored _ _ | settled _ _ | done _ => exact idle rfl
  | started analysisId delivered =>
    simp only [step, onTask]
    cases here : self.tasks analysisId with
    | none => exact idle rfl
    | some task =>
      obtain ⟨origin, files, startedAt, phase⟩ := task
      cases phase with
      | registered =>
        cases origin with
        | mcp => exact advance_effect .parsing here rfl rfl rfl rfl rfl rfl
        | desktop =>
          cases delivered with
          | true => exact advance_effect .parsing here rfl rfl (reports_sent _ rfl rfl rfl) rfl rfl rfl
          | false => exact advance_effect .aborting here rfl rfl rfl rfl rfl rfl
      | created | aborting | parsing | parsed _ | unregistered _ | stored _ _ | settled _ _ | done _ => exact idle rfl
  | progress analysisId progress delivered =>
    simp only [step, onTask]
    cases here : self.tasks analysisId with
    | none => exact idle rfl
    | some task =>
      obtain ⟨origin, files, startedAt, phase⟩ := task
      cases phase with
      | parsing =>
        cases origin with
        | mcp => exact idle rfl
        | desktop =>
          cases delivered with
          | true => exact .quiet rfl rfl (reports_sent _ rfl rfl rfl)
          | false => exact .quiet rfl rfl rfl
      | created | registered | aborting | parsed _ | unregistered _ | stored _ _ | settled _ _ | done _ => exact idle rfl
  | finishParsing analysisId result endedAt =>
    simp only [step, onTask]
    cases here : self.tasks analysisId with
    | none => exact idle rfl
    | some task =>
      obtain ⟨origin, files, startedAt, phase⟩ := task
      cases phase with
      | parsing =>
        refine .advances analysisId _ (.parsed _) here rfl rfl rfl rfl rfl ?_
        rintro output ⟨⟩
        exact Or.inr (parserOutput_id _ endedAt result)
      | created | registered | aborting | parsed _ | unregistered _ | stored _ _ | settled _ _ | done _ => exact idle rfl

/-- What a step notes: it knows the ids of earlier steps and of its own new import,
and a close that returns was under way and has emptied its session. -/
structure Notes (before after : State) (event : Step) : Prop where
  known : ∀ id ∈ before.known, id ∈ after.known
  drawn : ∀ id, drawn event = some id → id ∈ after.known
  closing : ∀ id ∈ after.closing, id ∈ before.closing ∨ id ∈ after.known
  closed : ∀ id ∈ after.closed, id ∈ before.closed ∨ (id ∈ before.closing ∧ after.sessions id = none)
  kept : ∀ id ∈ before.closed, id ∈ after.closed

/-- The steps of an import's tasks leave the notes alone. -/
def Untouched (before after : State) : Prop :=
  after.known = before.known ∧ after.closing = before.closing ∧ after.closed = before.closed

theorem Untouched.notes {after : State} {event : Step} (same : Untouched self after) (none_drawn : State.drawn event = none) :
    Notes self after event := by
  obtain ⟨known, closing, closed⟩ := same
  refine ⟨fun id member => known ▸ member, fun id drawn => ?_, fun id member => Or.inl (closing ▸ member),
    fun id member => Or.inl (closed ▸ member), fun id member => closed ▸ member⟩
  rw [none_drawn] at drawn
  cases drawn

theorem onTask_untouched {act : Task → State} (each : ∀ task, Untouched self (act task)) : Untouched self (self.onTask analysisId act) := by
  rw [onTask]
  cases self.tasks analysisId with
  | none => exact ⟨rfl, rfl, rfl⟩
  | some task => exact each task

theorem proceed_untouched (task : Task) : Untouched self (self.proceed analysisId task) := by
  have sent (output : BinlogAnalysisOutput) (outcome : Except RepositoryError Unit) :
      Untouched self (self.sendTerminal analysisId output outcome) := by
    rcases outcome with error | _
    · cases error <;> exact ⟨rfl, rfl, rfl⟩
    · exact ⟨rfl, rfl, rfl⟩
  have logged (output : BinlogAnalysisOutput) (outcome : Except RepositoryError Unit) :
      Untouched self (self.pushActivity analysisId output outcome) := by
    rcases outcome with error | _
    · cases error <;> exact ⟨rfl, rfl, rfl⟩
    · exact ⟨rfl, rfl, rfl⟩
  obtain ⟨origin, files, startedAt, phase⟩ := task
  cases phase with
  | created | registered | parsing | done _ | aborting | unregistered _ => exact ⟨rfl, rfl, rfl⟩
  | parsed output => cases origin <;> exact ⟨rfl, rfl, rfl⟩
  | settled output outcome => exact sent output outcome
  | stored output outcome =>
    cases origin with
    | desktop => exact ⟨rfl, rfl, rfl⟩
    | mcp => exact logged output outcome

theorem mention_notes {event : Step} {middle : State} (closing : middle.closing = self.closing) (closed : middle.closed = self.closed)
    (known : middle.known = self.known) (drawn : ∀ id, State.drawn event = some id → id = analysisId) :
    Notes self (middle.mention analysisId) event := by
  refine ⟨fun id member => ?_, fun id same => ?_, fun id member => ?_, fun id member => ?_, fun id member => ?_⟩
  · exact List.mem_cons_of_mem _ (known ▸ member)
  · exact drawn id same ▸ List.mem_cons_self ..
  · exact Or.inl (closing ▸ member)
  · exact Or.inl (closed ▸ member)
  · exact closed ▸ member

theorem step_notes (event : Step) : Notes self (self.step event) event := by
  cases event with
  | start origin analysisId files startedAt =>
    have untouched : Untouched self (self.start origin analysisId files startedAt) := by
      unfold start
      split <;> exact ⟨rfl, rfl, rfl⟩
    obtain ⟨known, closing, closed⟩ := untouched
    exact mention_notes closing closed known fun id same => (Option.some.inj same).symm
  | cancel analysisId =>
    simp only [step]
    split <;> exact mention_notes rfl rfl rfl fun id same => nomatch same
  | getSummary _ | listTransactions _ _ | getTransaction _ _ _ => exact mention_notes rfl rfl rfl fun id same => nomatch same
  | proceed _ => exact (onTask_untouched fun task => proceed_untouched task).notes rfl
  | register _ =>
    refine (onTask_untouched fun task => ?_).notes rfl
    cases task.phase <;> exact ⟨rfl, rfl, rfl⟩
  | started _ delivered =>
    refine (onTask_untouched fun task => ?_).notes rfl
    cases task.phase <;> cases task.origin <;> cases delivered <;> exact ⟨rfl, rfl, rfl⟩
  | progress _ _ delivered =>
    refine (onTask_untouched fun task => ?_).notes rfl
    cases task.phase <;> cases task.origin <;> cases delivered <;> exact ⟨rfl, rfl, rfl⟩
  | finishParsing _ result _ =>
    refine (onTask_untouched fun task => ?_).notes rfl
    cases task.phase <;> exact ⟨rfl, rfl, rfl⟩
  | beginClose analysisId =>
    have shape : (self.step (.beginClose analysisId)).known = analysisId :: self.known ∧
        (self.step (.beginClose analysisId)).closing = analysisId :: self.closing ∧
        (self.step (.beginClose analysisId)).closed = self.closed := by
      simp only [step]
      split <;> exact ⟨rfl, rfl, rfl⟩
    obtain ⟨known, closing, closed⟩ := shape
    refine ⟨fun id member => ?_, fun id same => (nomatch same), fun id member => ?_, fun id member => ?_, fun id member => ?_⟩
    · exact known ▸ List.mem_cons_of_mem _ member
    · rcases List.mem_cons.mp (closing ▸ member) with rfl | earlier
      · exact Or.inr (known ▸ List.mem_cons_self ..)
      · exact Or.inl earlier
    · exact Or.inl (closed ▸ member)
    · exact closed ▸ member
  | endClose analysisId =>
    by_cases under : analysisId ∈ self.closing
    · have shape : self.step (.endClose analysisId) = { self with
          sessions := BinlogRepository.close self.sessions analysisId
          closing := self.closing.erase analysisId
          closed := analysisId :: self.closed } := if_pos under
      rw [shape]
      refine ⟨fun id member => member, fun id same => (nomatch same), fun id member => Or.inl (List.mem_of_mem_erase member),
        fun id member => ?_, fun id member => List.mem_cons_of_mem _ member⟩
      rcases List.mem_cons.mp member with rfl | earlier
      · exact Or.inr ⟨under, Function.update_self ..⟩
      · exact Or.inl earlier
    · have shape : self.step (.endClose analysisId) = self := if_neg under
      rw [shape]
      exact Untouched.notes ⟨rfl, rfl, rfl⟩ rfl

end

end State

end Pipa.BinlogImport
