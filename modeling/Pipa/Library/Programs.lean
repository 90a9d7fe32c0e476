import Pipa.Library.Runs
import Mathlib.Logic.Function.Basic

/-! Programs that share a state and interleave at their operations. A program asks for
one operation after another; between two of them any other program may run, and programs
stop at any point. What each may rely on and guarantees to the others is a protocol, and
programs that keep to it keep its invariant in every run. -/

namespace Programs

inductive Program (Op : Type) (Reply : Op → Type) (α : Type) where
  | done (value : α)
  | ask (operation : Op) (resume : Reply operation → Program Op Reply α)

variable {Op : Type} {Reply : Op → Type} {σ World Launch Outage α β ε : Type}

namespace Program

def bind (program : Program Op Reply α) (next : α → Program Op Reply β) : Program Op Reply β :=
  match program with
  | .done value => next value
  | .ask operation resume => .ask operation fun reply => (resume reply).bind next

instance : Monad (Program Op Reply) where
  pure := .done
  bind := bind

/-- What a program returns, and what it leaves, when nothing else runs. -/
def alone (serve : (operation : Op) → σ → Reply operation × σ) : Program Op Reply α → σ → α × σ
  | .done value, state => (value, state)
  | .ask operation resume, state =>
    let (reply, next) := serve operation state
    (resume reply).alone serve next

/-- What a program has returned. -/
def returned : Program Op Reply α → Option α
  | .done value => some value
  | .ask .. => none

theorem done_of_returned {running : Option (Program Op Reply α)} {value : α} (same : running.bind returned = some value) :
    running = some (.done value) := by
  cases running with
  | none => cases same
  | some program =>
    cases program with
    | done _ => exact congrArg (some ∘ Program.done) (Option.some.inj same)
    | ask operation resume => cases same

theorem alone_bind (serve : (operation : Op) → σ → Reply operation × σ) (program : Program Op Reply α)
    (next : α → Program Op Reply β) (state : σ) :
    (program.bind next).alone serve state = (next (program.alone serve state).1).alone serve (program.alone serve state).2 := by
  induction program generalizing state with
  | done value => rfl
  | ask operation resume ih => exact ih _ _

section
variable {serve : (operation : Op) → σ → Reply operation × σ} {state later : σ} {program : ExceptT ε (Program Op Reply) β}
  {next : β → ExceptT ε (Program Op Reply) α}

theorem alone_ok {value : β} (first : program.run.alone serve state = (.ok value, later)) :
    (program >>= next : ExceptT ε (Program Op Reply) α).run.alone serve state = (next value).run.alone serve later := by
  refine (alone_bind serve program.run _ state).trans ?_
  rw [first]
  rfl

theorem alone_error {failure : ε} (first : program.run.alone serve state = (.error failure, later)) :
    (program >>= next : ExceptT ε (Program Op Reply) α).run.alone serve state = (.error failure, later) := by
  refine (alone_bind serve program.run _ state).trans ?_
  rw [first]
  rfl

theorem alone_captured {ε' : Type} {next : Except ε β → ExceptT ε' (Program Op Reply) α} {outcome : Except ε β}
    (first : program.run.alone serve state = (outcome, later)) :
    (ExceptT.lift program.run >>= next : ExceptT ε' (Program Op Reply) α).run.alone serve state = (next outcome).run.alone serve later := by
  apply alone_ok
  refine (alone_bind serve program.run _ state).trans ?_
  rw [first]
  rfl

end

end Program

/-- Asks for an operation whose reply may be an error of another kind. -/
def attempt (operation : Op) (reply : Reply operation → Except ε α) : ExceptT ε (Program Op Reply) α :=
  Program.ask operation fun answer => .done (reply answer)

/-- What holds where a program succeeds. -/
def Succeeds (fact : α → σ → Prop) (outcome : Except ε α) (state : σ) : Prop := ∀ value, outcome = .ok value → fact value state

theorem succeeds_error {fact : α → σ → Prop} {state : σ} (error : ε) : Succeeds fact (.error error) state := by
  rintro _ ⟨⟩

theorem succeeds_ok {fact : α → σ → Prop} {state : σ} {value : α} (held : fact value state) :
    Succeeds fact (.ok value : Except ε α) state := by
  rintro _ ⟨⟩
  exact held

/-- The invariant of a shared state, what each process relies on the others to keep, and
what it guarantees to them. -/
structure Protocol (σ : Type) where
  invariant : σ → Prop
  rely : Nat → σ → σ → Prop
  guarantee : Nat → σ → σ → Prop
  rely_refl : ∀ process state, rely process state state
  rely_trans : ∀ {process first middle last}, rely process first middle → rely process middle last →
    rely process first last
  compatible : ∀ {process other before after}, process ≠ other → invariant before →
    guarantee process before after → rely other before after

/-- The protocol with a further invariant. -/
def Protocol.also (protocol : Protocol σ) (extra : σ → Prop) : Protocol σ where
  invariant state := protocol.invariant state ∧ extra state
  rely := protocol.rely
  guarantee := protocol.guarantee
  rely_refl := protocol.rely_refl
  rely_trans := protocol.rely_trans
  compatible different sound given := protocol.compatible different sound.1 given

section
variable (protocol : Protocol σ) (serve : World → (operation : Op) → σ → Reply operation × σ) (process : Nat)

/-- From this state on the process keeps to the protocol, whatever the others do that it may
rely on, and what it returns meets the postcondition. -/
def Keeps (post : α → σ → Prop) : Program Op Reply α → σ → Prop
  | .done value, state => ∀ later, protocol.rely process state later → post value later
  | .ask operation resume, state => ∀ later, protocol.rely process state later → protocol.invariant later →
      ∀ world, let (reply, next) := serve world operation later
        protocol.invariant next ∧ protocol.guarantee process later next ∧ Keeps post (resume reply) next

variable {protocol serve process} {post : α → σ → Prop} {state : σ}

namespace Keeps

theorem later {program : Program Op Reply α} {later : σ} (keeps : Keeps protocol serve process post program state)
    (changed : protocol.rely process state later) : Keeps protocol serve process post program later := by
  cases program with
  | done value => exact fun last more => keeps last (protocol.rely_trans changed more)
  | ask operation resume => exact fun last more => keeps last (protocol.rely_trans changed more)

theorem returned {value : α} (keeps : Keeps protocol serve process post (.done value) state) : post value state :=
  keeps state (protocol.rely_refl process state)

theorem done {value : α} (holds : ∀ later, protocol.rely process state later → post value later) :
    Keeps protocol serve process post (.done value : Program Op Reply α) state := holds

theorem mono {program : Program Op Reply α} {weaker : α → σ → Prop} (keeps : Keeps protocol serve process post program state)
    (implies : ∀ value state, post value state → weaker value state) : Keeps protocol serve process weaker program state := by
  induction program generalizing state with
  | done value => exact fun last more => implies value last (keeps last more)
  | ask operation resume ih =>
    intro last more sound world
    obtain ⟨kept, given, rest⟩ := keeps last more sound world
    exact ⟨kept, given, ih _ rest⟩

/-- A sequence keeps to the protocol where its second part does behind its first. -/
theorem bind {program : Program Op Reply β} {next : β → Program Op Reply α}
    (keeps : Keeps protocol serve process (fun value => Keeps protocol serve process post (next value)) program state) :
    Keeps protocol serve process post (program.bind next) state := by
  induction program generalizing state with
  | done value => exact keeps.returned
  | ask operation resume ih =>
    intro last more sound world
    obtain ⟨kept, given, rest⟩ := keeps last more sound world
    exact ⟨kept, given, ih _ rest⟩

/-- A fact that neither the others nor the process itself changes is kept beside. -/
theorem frame {program : Program Op Reply α} {fact : σ → Prop}
    (relied : ∀ {before after}, protocol.rely process before after → fact before → fact after)
    (given : ∀ {before after}, protocol.invariant before → protocol.guarantee process before after → fact before → fact after)
    (keeps : Keeps protocol serve process post program state) (held : fact state) :
    Keeps protocol serve process (fun value state => post value state ∧ fact state) program state := by
  induction program generalizing state with
  | done value => exact fun last more => ⟨keeps last more, relied more held⟩
  | ask operation resume ih =>
    intro last more sound world
    obtain ⟨kept, changed, rest⟩ := keeps last more sound world
    exact ⟨kept, changed, ih _ rest (given sound changed (relied more held))⟩

/-- A sequence that may fail: its first part fails for good or hands on what it returned. -/
theorem andThen {post : Except ε α → σ → Prop} {program : ExceptT ε (Program Op Reply) β}
    {next : β → ExceptT ε (Program Op Reply) α} {middle : Except ε β → σ → Prop}
    (keeps : Keeps protocol serve process middle program state)
    (fails : ∀ error state, middle (.error error) state →
      Keeps protocol serve process post (.done (.error error) : Program Op Reply _) state)
    (passes : ∀ value state, middle (.ok value) state → Keeps protocol serve process post (next value) state) :
    Keeps protocol serve process post (program >>= next : ExceptT ε (Program Op Reply) α) state := by
  refine Keeps.bind (keeps.mono ?_)
  intro outcome state held
  cases outcome with
  | error error => exact fails error state held
  | ok value => exact passes value state held

/-- An invariant that every step of the protocol keeps may be added to it. -/
theorem also {program : Program Op Reply α} {extra : σ → Prop}
    (given : ∀ {before after}, protocol.invariant before → protocol.guarantee process before after →
      protocol.invariant after → extra before → extra after)
    (keeps : Keeps protocol serve process post program state) : Keeps (protocol.also extra) serve process post program state := by
  induction program generalizing state with
  | done value => exact keeps
  | ask operation resume ih =>
    intro last more sound world
    obtain ⟨kept, changed, rest⟩ := keeps last more sound.1 world
    exact ⟨⟨kept, given sound.1 changed kept sound.2⟩, changed, ih _ rest⟩

end Keeps

end

/-- The shared state and the programs that run, or have returned, by their process. -/
structure System (Op : Type) (Reply : Op → Type) (σ α : Type) where
  shared : σ
  running : Nat → Option (Program Op Reply α)

inductive Event (Launch World Outage : Type) where
  | start (process : Nat) (launch : Launch)
  | advance (process : Nat) (world : World)
  | stop (process : Nat)
  /-- Every process ends at once, and the shared state is left as the outage has it. -/
  | outage (outage : Outage)

/-- How operations are served, what the start of a process leaves in the shared state, what
the process then runs, and what an outage does. -/
structure Machine (Op : Type) (Reply : Op → Type) (σ World Launch Outage α : Type) where
  serve : Nat → World → (operation : Op) → σ → Reply operation × σ
  enter : Nat → Launch → σ → σ
  program : Nat → Launch → Program Op Reply α
  disrupt : Outage → σ → σ

namespace Machine

variable (machine : Machine Op Reply σ World Launch Outage α)

def step (system : System Op Reply σ α) : Event Launch World Outage → System Op Reply σ α
  | .start process launch =>
    match system.running process with
    | none =>
      ⟨machine.enter process launch system.shared,
        Function.update system.running process (some (machine.program process launch))⟩
    | some _ => system
  | .advance process world =>
    match system.running process with
    | some (.ask operation resume) =>
      let (reply, shared) := machine.serve process world operation system.shared
      ⟨shared, Function.update system.running process (some (resume reply))⟩
    | some (.done _) | none => system
  | .stop process => { system with running := Function.update system.running process none }
  | .outage outage => ⟨machine.disrupt outage system.shared, fun _ => none⟩

def initial (shared : σ) : System Op Reply σ α := ⟨shared, fun _ => none⟩

/-- Only outages are subject to a condition on the state they happen in. -/
def Permits (permitted : σ → Outage → Prop) (system : System Op Reply σ α) : Event Launch World Outage → Prop
  | .outage outage => permitted system.shared outage
  | .start .. | .advance .. | .stop _ => True

variable {machine} {protocol : Protocol σ} {post : Nat → α → σ → Prop} {permitted : σ → Outage → Prop}

/-- The invariant holds and every process keeps to the protocol. -/
def Orderly (machine : Machine Op Reply σ World Launch Outage α) (protocol : Protocol σ) (post : Nat → α → σ → Prop)
    (system : System Op Reply σ α) : Prop :=
  protocol.invariant system.shared ∧
    ∀ process program, system.running process = some program →
      Keeps protocol (machine.serve process) process (post process) program system.shared

/-- A process that starts keeps the invariant, gives its guarantee, and then keeps to the protocol. -/
def Admits (machine : Machine Op Reply σ World Launch Outage α) (protocol : Protocol σ) (post : Nat → α → σ → Prop)
    (process : Nat) (launch : Launch) (state : σ) : Prop :=
  protocol.invariant (machine.enter process launch state) ∧
    protocol.guarantee process state (machine.enter process launch state) ∧
    Keeps protocol (machine.serve process) process (post process) (machine.program process launch)
      (machine.enter process launch state)

/-- Setting one process leaves the others to keep to the protocol from where they are. -/
theorem orderly_update {shared : σ} {running : Nat → Option (Program Op Reply α)} {process : Nat} {program : Option (Program Op Reply α)}
    (sound : protocol.invariant shared)
    (others : ∀ other program, other ≠ process → running other = some program →
      Keeps protocol (machine.serve other) other (post other) program shared)
    (own : ∀ set, program = some set → Keeps protocol (machine.serve process) process (post process) set shared) :
    Orderly machine protocol post ⟨shared, Function.update running process program⟩ := by
  refine ⟨sound, ?_⟩
  intro other found (present : Function.update running process program other = some found)
  by_cases same : other = process
  · subst same
    rw [Function.update_self] at present
    exact own found present
  · rw [Function.update_of_ne same] at present
    exact others other found same present

theorem step_start {system : System Op Reply σ α} {process : Nat} (free : system.running process = none) (launch : Launch) :
    machine.step system (.start process launch) =
      ⟨machine.enter process launch system.shared,
        Function.update system.running process (some (machine.program process launch))⟩ := by
  simp only [step, free]

theorem step_advance {system : System Op Reply σ α} {process : Nat} {operation : Op} {resume : Reply operation → Program Op Reply α}
    (asking : system.running process = some (.ask operation resume)) (world : World) :
    machine.step system (.advance process world) =
      ⟨(machine.serve process world operation system.shared).2,
        Function.update system.running process (some (resume (machine.serve process world operation system.shared).1))⟩ := by
  simp only [step, asking]

theorem step_orderly {system : System Op Reply σ α} {event : Event Launch World Outage}
    (launched : ∀ process launch state, protocol.invariant state → Admits machine protocol post process launch state)
    (disrupted : ∀ state outage, permitted state outage → protocol.invariant state →
      protocol.invariant (machine.disrupt outage state))
    (permits : Permits permitted system event) (orderly : Orderly machine protocol post system) :
    Orderly machine protocol post (machine.step system event) := by
  obtain ⟨sound, keeps⟩ := orderly
  cases event with
  | start process launch =>
    cases found : system.running process with
    | some program =>
      rw [step, found]
      exact ⟨sound, keeps⟩
    | none =>
      obtain ⟨kept, given, rest⟩ := launched process launch system.shared sound
      rw [step_start found]
      refine orderly_update kept ?_ ?_
      · intro other program different running
        exact (keeps other program running).later (protocol.compatible (Ne.symm different) sound given)
      · rintro _ ⟨⟩
        exact rest
  | advance process world =>
    cases found : system.running process with
    | none =>
      rw [step, found]
      exact ⟨sound, keeps⟩
    | some program =>
      cases program with
      | done value =>
        rw [step, found]
        exact ⟨sound, keeps⟩
      | ask operation resume =>
        obtain ⟨kept, given, rest⟩ := keeps process _ found system.shared (protocol.rely_refl _ _) sound world
        rw [step_advance found]
        refine orderly_update kept ?_ ?_
        · intro other program different running
          exact (keeps other program running).later (protocol.compatible (Ne.symm different) sound given)
        · rintro _ ⟨⟩
          exact rest
  | stop process =>
    refine orderly_update sound (fun other program _ => keeps other program) ?_
    rintro _ ⟨⟩
  | outage outage =>
    refine ⟨disrupted _ outage permits sound, ?_⟩
    intro process program running
    cases running

/-- Processes that keep to a protocol keep to it, and its invariant, in every run. -/
theorem run_orderly {system : System Op Reply σ α} (orderly : Orderly machine protocol post system)
    (launched : ∀ process launch state, protocol.invariant state → Admits machine protocol post process launch state)
    (disrupted : ∀ state outage, permitted state outage → protocol.invariant state →
      protocol.invariant (machine.disrupt outage state))
    {events : List (Event Launch World Outage)}
    (permits : Runs.Permitted machine.step (Permits permitted) system events) :
    Orderly machine protocol post (Runs.run machine.step system events) :=
  @Runs.permitted_preserves _ _ machine.step (Permits permitted) _ (Orderly machine protocol post) orderly
    (fun _ _ allowed orderly => step_orderly launched disrupted allowed orderly) events permits

theorem orderly_initial {start : σ} (sound : protocol.invariant start) :
    Orderly machine protocol post (initial start : System Op Reply σ α) := by
  refine ⟨sound, ?_⟩
  intro process program running
  cases running

/-- Where no condition is put on outages, every run is permitted. -/
theorem permitted_all (system : System Op Reply σ α) (events : List (Event Launch World Outage)) :
    Runs.Permitted machine.step (Permits fun _ _ => True) system events := by
  intro before event after _
  cases event <;> trivial

theorem permitted_steady {system : System Op Reply σ α} {events : List (Event Launch World Outage)}
    (steady : ∀ outage, .outage outage ∉ events) : Runs.Permitted machine.step (Permits permitted) system events := by
  rintro before event after rfl
  cases event with
  | outage outage => exact absurd (by simp) (steady outage)
  | start process launch => trivial
  | advance process world => trivial
  | stop process => trivial

/-- Orderly processes are orderly under a further invariant that holds here and that every step keeps. -/
theorem Orderly.also {system : System Op Reply σ α} {extra : σ → Prop} (orderly : Orderly machine protocol post system)
    (given : ∀ {process before after}, protocol.invariant before → protocol.guarantee process before after →
      protocol.invariant after → extra before → extra after)
    (held : extra system.shared) : Orderly machine (protocol.also extra) post system := by
  refine ⟨⟨orderly.1, held⟩, ?_⟩
  exact fun process program running => (orderly.2 process program running).also given

theorem Orderly.returned {system : System Op Reply σ α} {process : Nat} {value : α} (orderly : Orderly machine protocol post system)
    (running : system.running process = some (.done value)) : post process value system.shared :=
  (orderly.2 process _ running).returned

/-- A process that no other event disturbs ends as it does alone. -/
theorem run_alone (world : World) {process : Nat} {program : Program Op Reply α} {system : System Op Reply σ α}
    (running : system.running process = some program) :
    ∃ count, Runs.run machine.step system (List.replicate count (.advance process world)) =
      ⟨(program.alone (machine.serve process world) system.shared).2,
        Function.update system.running process (some (.done (program.alone (machine.serve process world) system.shared).1))⟩ := by
  induction program generalizing system with
  | done value =>
    refine ⟨0, ?_⟩
    have same : Function.update system.running process (some (.done value)) = system.running := running ▸ Function.update_eq_self process _
    rw [Program.alone, same]
    rfl
  | ask operation resume ih =>
    have next : machine.step system (.advance process world) =
        ⟨(machine.serve process world operation system.shared).2,
          Function.update system.running process (some (resume (machine.serve process world operation system.shared).1))⟩ :=
      step_advance running world
    obtain ⟨count, rest⟩ := ih (machine.serve process world operation system.shared).1
      (show (machine.step system (.advance process world)).running process = _ by rw [next]; exact Function.update_self ..)
    refine ⟨count + 1, ?_⟩
    rw [List.replicate_succ, Runs.run_cons, rest, next, Function.update_idem]
    rfl

end Machine

end Programs
