import Pipa.Library.Programs

/-! Processes over a shared state that keeps a journal of what they do. Every entry must be
warranted by the entries before it, and a process reasons about its own entries since its
start only: no other process adds to them. -/

namespace Programs

/-- An entry of the journal, by a process or by an outage. -/
structure Entry (Act : Type) where
  process : Option Nat
  act : Act

variable {Op : Type} {Reply : Op → Type} {σ World Launch Outage Act α β ε : Type}

/-- Every entry is warranted by the earlier ones; the newest entry comes first. -/
def AllWarranted (warrant : List (Entry Act) → Entry Act → Prop) : List (Entry Act) → Prop
  | [] => True
  | entry :: earlier => warrant earlier entry ∧ AllWarranted warrant earlier

theorem AllWarranted.split {warrant : List (Entry Act) → Entry Act → Prop} {later earlier : List (Entry Act)} {entry : Entry Act}
    (all : AllWarranted warrant (later ++ entry :: earlier)) : warrant earlier entry := by
  induction later with
  | nil => exact all.1
  | cons newest later ih => exact ih all.2

/-- What a process did since its start, the start included. -/
def session (starts : Act → Bool) (process : Nat) : List (Entry Act) → List Act
  | [] => []
  | entry :: earlier =>
    if entry.process = some process then
      if starts entry.act then [entry.act] else entry.act :: session starts process earlier
    else session starts process earlier

section
variable {starts : Act → Bool} {process : Nat} {act : Act} {acts : List Act} {entries earlier : List (Entry Act)}

theorem session_add (continues : starts act = false) :
    session starts process (⟨some process, act⟩ :: earlier) = act :: session starts process earlier := by
  simp [session, continues]

theorem session_start (begins : starts act = true) : session starts process (⟨some process, act⟩ :: earlier) = [act] := by
  simp [session, begins]

theorem session_other {entry : Entry Act} (other : entry.process ≠ some process) :
    session starts process (entry :: earlier) = session starts process earlier := by
  rw [session, if_neg other]

/-- Entries of other processes leave a session as it is. -/
theorem session_others {added : List (Entry Act)} (others : ∀ entry ∈ added, entry.process ≠ some process) :
    session starts process (added ++ earlier) = session starts process earlier := by
  induction added with
  | nil => rfl
  | cons entry added ih =>
    obtain ⟨other, others⟩ := List.forall_mem_cons.mp others
    rw [List.cons_append, session_other other]
    exact ih others

end

/-- What stands in the journal of a state, which acts start a process, what warrants an
entry, and what else holds of the state. -/
structure Journal (σ Act : Type) where
  entries : σ → List (Entry Act)
  starts : Act → Bool
  warrant : List (Entry Act) → Entry Act → Prop
  sound : σ → Prop

namespace Journal
variable (journal : Journal σ Act)

/-- A state whose entries are all warranted. -/
def Sound (state : σ) : Prop := AllWarranted journal.warrant (journal.entries state) ∧ journal.sound state

/-- The journal grows by entries of these processes. -/
def Grows (by_ : Option Nat → Prop) (before after : σ) : Prop :=
  ∃ added, journal.entries after = added ++ journal.entries before ∧ ∀ entry ∈ added, by_ entry.process

theorem grows_refl (by_ : Option Nat → Prop) (state : σ) : journal.Grows by_ state state := ⟨[], rfl, by simp⟩

theorem grows_trans {by_ : Option Nat → Prop} {first middle last : σ} (early : journal.Grows by_ first middle)
    (late : journal.Grows by_ middle last) : journal.Grows by_ first last := by
  obtain ⟨added, same, own⟩ := early
  obtain ⟨more, same', own'⟩ := late
  refine ⟨more ++ added, by rw [same', same, List.append_assoc], ?_⟩
  intro entry member
  rcases List.mem_append.mp member with late | early
  · exact own' entry late
  · exact own entry early

theorem Grows.mono {some_ more : Option Nat → Prop} {before after : σ} (grows : journal.Grows some_ before after)
    (implies : ∀ process, some_ process → more process) : journal.Grows more before after := by
  obtain ⟨added, same, own⟩ := grows
  exact ⟨added, same, fun entry member => implies _ (own entry member)⟩

/-- A process adds entries of its own only. -/
def protocol : Protocol σ where
  invariant := journal.Sound
  rely process := journal.Grows (· ≠ some process)
  guarantee process := journal.Grows (· = some process)
  rely_refl process state := journal.grows_refl _ state
  rely_trans early late := journal.grows_trans early late
  compatible different _ given := by
    refine Grows.mono journal given ?_
    rintro _ rfl same
    exact different (Option.some.inj same)

theorem session_grows {process : Nat} {before after : σ} (grows : journal.Grows (· ≠ some process) before after) :
    session journal.starts process (journal.entries after) = session journal.starts process (journal.entries before) := by
  obtain ⟨added, same, others⟩ := grows
  rw [same]
  exact session_others others

section
variable (serve : World → (operation : Op) → σ → Reply operation × σ) (process : Nat)

/-- From every state in which the process has done so much, it keeps to the protocol and
returns a value that goes with what it has then done. -/
structure Does (acts : List Act) (post : α → List Act → Prop) (program : Program Op Reply α) : Prop where
  keeps : ∀ state, session journal.starts process (journal.entries state) = acts →
    Keeps journal.protocol serve process
      (fun value last => post value (session journal.starts process (journal.entries last))) program state

/-- The operation adds nothing to the journal and keeps the state sound. -/
def Quiet (operation : Op) : Prop :=
  ∀ world state, journal.Sound state →
    journal.sound (serve world operation state).2 ∧ journal.entries (serve world operation state).2 = journal.entries state

/-- The operation, asked for behind these acts, adds nothing or an act that goes with its reply. -/
def Adds (operation : Op) (acts : List Act) (act : Reply operation → Act → Prop) (silent : Reply operation → Prop) : Prop :=
  ∀ world state, journal.Sound state → session journal.starts process (journal.entries state) = acts →
    journal.sound (serve world operation state).2 ∧
      (silent (serve world operation state).1 ∧ journal.entries (serve world operation state).2 = journal.entries state ∨
        ∃ added, act (serve world operation state).1 added ∧ journal.starts added = false ∧
          journal.warrant (journal.entries state) ⟨some process, added⟩ ∧
          journal.entries (serve world operation state).2 = ⟨some process, added⟩ :: journal.entries state)

variable {journal serve process} {acts : List Act} {post : α → List Act → Prop}

namespace Does

theorem done {value : α} (holds : post value acts) : journal.Does serve process acts post (.done value : Program Op Reply α) := by
  constructor
  intro state same last grows
  rw [journal.session_grows grows, same]
  exact holds

theorem ask {operation : Op} {act : Reply operation → Act → Prop} {silent : Reply operation → Prop}
    {resume : Reply operation → Program Op Reply α} (adds : journal.Adds serve process operation acts act silent)
    (unchanged : ∀ reply, silent reply → journal.Does serve process acts post (resume reply))
    (changed : ∀ reply added, act reply added → journal.Does serve process (added :: acts) post (resume reply)) :
    journal.Does serve process acts post (.ask operation resume) := by
  constructor
  intro state same later grows sound world
  have here : session journal.starts process (journal.entries later) = acts := (journal.session_grows grows).trans same
  obtain ⟨kept, ⟨silent, entries⟩ | ⟨added, made, continues, warranted, entries⟩⟩ := adds world later sound here
  · refine ⟨⟨entries ▸ sound.1, kept⟩, ⟨[], entries, by simp⟩, (unchanged _ silent).keeps _ ?_⟩
    rw [entries]
    exact here
  · refine ⟨⟨?_, kept⟩, ⟨[⟨some process, added⟩], entries, by simp⟩, (changed _ added made).keeps _ ?_⟩
    · rw [entries]
      exact ⟨warranted, sound.1⟩
    · rw [entries, session_add continues, here]

theorem quiet {operation : Op} {resume : Reply operation → Program Op Reply α} (quiet : journal.Quiet serve operation)
    (rest : ∀ reply, journal.Does serve process acts post (resume reply)) :
    journal.Does serve process acts post (.ask operation resume) := by
  refine @ask _ _ _ _ _ _ journal serve process acts post operation (fun _ _ => False) (fun _ => True) resume ?_ ?_ ?_
  · intro world state sound same
    obtain ⟨kept, entries⟩ := quiet world state sound
    exact ⟨kept, .inl ⟨trivial, entries⟩⟩
  · exact fun reply _ => rest reply
  · exact fun _ _ made => made.elim

theorem mono {weaker : α → List Act → Prop} {program : Program Op Reply α} (does : journal.Does serve process acts post program)
    (implies : ∀ value acts, post value acts → weaker value acts) : journal.Does serve process acts weaker program := by
  constructor
  intro state same
  exact (does.keeps state same).mono fun value _ held => implies value _ held

theorem bind {middle : β → List Act → Prop} {program : Program Op Reply β} {next : β → Program Op Reply α}
    (first : journal.Does serve process acts middle program)
    (rest : ∀ value acts, middle value acts → journal.Does serve process acts post (next value)) :
    journal.Does serve process acts post (program.bind next) := by
  constructor
  intro state same
  exact Keeps.bind ((first.keeps state same).mono fun value last held => (rest value _ held).keeps last rfl)

/-- A sequence that may fail hands on what its first part returned. -/
theorem sequence {post : Except ε α → List Act → Prop} {middle : Except ε β → List Act → Prop}
    {program : ExceptT ε (Program Op Reply) β} {next : β → ExceptT ε (Program Op Reply) α}
    (first : journal.Does serve process acts middle program)
    (fails : ∀ failure acts, middle (.error failure) acts → post (.error failure) acts)
    (passes : ∀ value acts, middle (.ok value) acts → journal.Does serve process acts post (next value)) :
    journal.Does serve process acts post (program >>= next : ExceptT ε (Program Op Reply) α) := by
  refine bind first ?_
  intro outcome acts held
  cases outcome with
  | error failure => exact done (fails failure acts held)
  | ok value => exact passes value acts held

/-- What was run is handed on with its error, if it failed. -/
theorem captured {ε' : Type} {post : Except ε' α → List Act → Prop} {middle : Except ε β → List Act → Prop}
    {program : ExceptT ε (Program Op Reply) β} {next : Except ε β → ExceptT ε' (Program Op Reply) α}
    (first : journal.Does serve process acts middle program)
    (rest : ∀ result acts, middle result acts → journal.Does serve process acts post (next result)) :
    journal.Does serve process acts post (ExceptT.lift program.run >>= next : ExceptT ε' (Program Op Reply) α) := by
  have lifts : journal.Does serve process acts (fun outcome acts => ∃ result, outcome = .ok result ∧ middle result acts)
      (ExceptT.lift program.run : ExceptT ε' (Program Op Reply) (Except ε β)) :=
    bind first fun result acts held => done ⟨result, rfl, held⟩
  refine sequence lifts ?_ ?_
  · rintro failure acts ⟨_, ⟨⟩, _⟩
  · rintro result acts ⟨_, ⟨⟩, held⟩
    exact rest result acts held

theorem attempt_adds {post : Except ε α → List Act → Prop} {operation : Op} {reply : Reply operation → Except ε α}
    {act : Reply operation → Act → Prop} {silent : Reply operation → Prop}
    (adds : journal.Adds serve process operation acts act silent)
    (unchanged : ∀ answer, silent answer → post (reply answer) acts)
    (changed : ∀ answer added, act answer added → post (reply answer) (added :: acts)) :
    journal.Does serve process acts post (attempt operation reply) :=
  ask adds (fun answer silent => done (unchanged answer silent)) fun answer added made => done (changed answer added made)

section
variable {post : α → List Act → Prop}

theorem error (error : ε) : journal.Does serve process acts (Succeeds post) (.done (.error error) : Program Op Reply _) :=
  done (succeeds_error error)

theorem ok {value : α} (holds : post value acts) :
    journal.Does serve process acts (Succeeds post) (.done (.ok value : Except ε α) : Program Op Reply _) :=
  done (succeeds_ok holds)

/-- A sequence of which only what succeeds matters. -/
theorem andThen {middle : β → List Act → Prop} {program : ExceptT ε (Program Op Reply) β}
    {next : β → ExceptT ε (Program Op Reply) α} (first : journal.Does serve process acts (Succeeds middle) program)
    (rest : ∀ value acts, middle value acts → journal.Does serve process acts (Succeeds post) (next value)) :
    journal.Does serve process acts (Succeeds post) (program >>= next : ExceptT ε (Program Op Reply) α) :=
  sequence first (fun failure _ _ => succeeds_error failure) fun value acts held => rest value acts (held value rfl)

/-- An operation that adds nothing, and what follows it. -/
theorem quietly {operation : Op} {reply : Reply operation → Except ε β} {next : β → ExceptT ε (Program Op Reply) α}
    (quiet : journal.Quiet serve operation) (rest : ∀ value, journal.Does serve process acts (Succeeds post) (next value)) :
    journal.Does serve process acts (Succeeds post) (attempt operation reply >>= next : ExceptT ε (Program Op Reply) α) := by
  refine @andThen _ _ _ _ _ _ _ _ journal serve process acts post (fun _ later => later = acts) _ _ ?_ ?_
  · exact Does.quiet quiet fun answer => done fun _ _ => rfl
  · rintro value _ rfl
    exact rest value

end

end Does

end

/-- A start that enters itself, warranted, begins a session of its own. -/
theorem admits {machine : Machine Op Reply σ World Launch Outage α} {journal : Journal σ Act} {post : α → List Act → Prop}
    {process : Nat} {launch : Launch} {state : σ} {act : Act} (starts : journal.starts act = true)
    (entries : journal.entries (machine.enter process launch state) = ⟨some process, act⟩ :: journal.entries state)
    (before : journal.Sound state) (warranted : journal.warrant (journal.entries state) ⟨some process, act⟩)
    (sound : journal.sound (machine.enter process launch state))
    (does : journal.Does (machine.serve process) process [act] post (machine.program process launch)) :
    Machine.Admits machine journal.protocol
      (fun process value last => post value (session journal.starts process (journal.entries last))) process launch state := by
  refine ⟨⟨?_, sound⟩, ⟨[⟨some process, act⟩], entries, by simp⟩, does.keeps _ ?_⟩
  · rw [entries]
    exact ⟨warranted, before.1⟩
  · rw [entries, session_start starts]

end Journal

end Programs
