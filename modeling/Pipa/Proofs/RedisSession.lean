import Pipa.Proofs.MySqlQueryProtocol
import Pipa.Proofs.RedisRoundTrip
import Pipa.RedisSession

/-! What a call says over its Redis connection and to its caller, in every interleaving: no
command goes out before the ones that prepare the connection are accepted, and a query that
returns has told its caller so. -/

namespace Pipa.RedisSession
open Programs Redis Text

def isStart : Act → Bool
  | .started _ => true
  | _ => false

abbrev History := List (Entry Act)

/-- What a call did since it started, newest first. -/
def sessionOf (process : Nat) (history : History) : List Act := session isStart process history

/-- The events that the caller has received, oldest first. -/
def told : List Act → List RowEvent
  | [] => []
  | .sent event :: acts => told acts ++ [event]
  | _ :: acts => told acts

/-- The caller has received every event that was sent. -/
def Heard (acts : List Act) : Prop := ∀ event, .refused event ∉ acts

/-- The profile that a call connects with, and the command that it is for. -/
structure Plan where
  profile : SavedProfile
  password : String
  command : List (List UInt8)
deriving DecidableEq

def Launch.plan : Launch → Except AppError Plan
  | .testConnection profile password => do
    validateProfile profile
    return ⟨profile, password, [utf8 "PING"]⟩
  | .query profile password request => do
    let profile ← atDatabase profile request
    validateProfile profile
    let arguments ← parseCommand request.sql
    return ⟨profile, password, arguments⟩

def Plan.authentication (plan : Plan) : List (List (List UInt8)) :=
  if plan.password = "" then [] else [authArguments plan.profile plan.password]

/-- The commands that prepare the connection. -/
def Plan.handshake (plan : Plan) : List (List (List UInt8)) :=
  plan.authentication ++ plan.profile.database.toList.map selectArguments

/-- What the caller is told before the command goes out. -/
def Launch.announced : Launch → List Act
  | .testConnection .. => []
  | .query _ _ request => [.sent (.started request.queryId)]

section
variable (plan : Plan) (launch : Launch)

/-- The connection is open, and these commands were answered without an error. -/
inductive Accepted : List (List (List UInt8)) → List Act → Prop
  | opened : Accepted [] [.opened plan.profile.host plan.profile.port, .started launch]
  | answered {commands : List (List (List UInt8))} {acts : List Act} {value : RespValue} (arguments : List (List UInt8))
      (accepted : Accepted commands acts) (fine : isError value = false) :
      Accepted (commands ++ [arguments]) (.answered value :: .wrote (encodeCommand arguments) :: acts)

/-- The command that may go out behind these acts. -/
inductive Next : List Act → List (List UInt8) → Prop
  | prepares {commands : List (List (List UInt8))} {acts : List Act} {arguments : List (List UInt8)}
      (accepted : Accepted plan launch commands acts) (front : commands ++ [arguments] <+: plan.handshake) : Next acts arguments
  | runs {acts : List Act} (accepted : Accepted plan launch plan.handshake acts) : Next (launch.announced ++ acts) plan.command

/-- The command itself was answered with a value, which is no error. -/
inductive Responded (value : RespValue) : List Act → Prop
  | answered {acts : List Act} (accepted : Accepted plan launch plan.handshake acts) (fine : isError value = false) :
      Responded value (.answered value :: .wrote (encodeCommand plan.command) :: (launch.announced ++ acts))

end

section
variable (parseFinite : String → Option UInt64)

def Plan.table (plan : Plan) (value : RespValue) : ResultTable := responseTable parseFinite (commandName plan.command) value

/-- The rows are told in one batch, if there are any. -/
def batchOf (queryId : Uuid) (table : ResultTable) : List RowEvent := if table.2 = [] then [] else [.batch queryId table.2]

/-- What allows an act, behind the history before it. A call opens the connection of its plan,
writes no more than the next of its commands and waits for the response to all of it; what its
caller is shown is the response to its own command. -/
inductive Warranted (earlier : History) : Entry Act → Prop
  | started (process : Nat) (launch : Launch) : Warranted earlier ⟨some process, .started launch⟩
  | opened {process : Nat} {launch : Launch} {plan : Plan} (planned : launch.plan = .ok plan)
      (call : sessionOf process earlier = [.started launch]) :
      Warranted earlier ⟨some process, .opened plan.profile.host plan.profile.port⟩
  | wrote {process : Nat} {launch : Launch} {plan : Plan} {arguments : List (List UInt8)} {bytes : List UInt8}
      (planned : launch.plan = .ok plan) (call : Next plan launch (sessionOf process earlier) arguments)
      (part : bytes <+: encodeCommand arguments) : Warranted earlier ⟨some process, .wrote bytes⟩
  | answered {process : Nat} {launch : Launch} {plan : Plan} {arguments : List (List UInt8)} {acts : List Act}
      (planned : launch.plan = .ok plan) (next : Next plan launch acts arguments)
      (call : sessionOf process earlier = .wrote (encodeCommand arguments) :: acts) (value : RespValue) :
      Warranted earlier ⟨some process, .answered value⟩
  | begun {process : Nat} {profile : SavedProfile} {password : String} {request : QueryRequest} {plan : Plan}
      (planned : (Launch.query profile password request).plan = .ok plan)
      (call : Accepted plan (.query profile password request) plan.handshake (sessionOf process earlier)) :
      Warranted earlier ⟨some process, .sent (.started request.queryId)⟩
  | schema {process : Nat} {profile : SavedProfile} {password : String} {request : QueryRequest} {plan : Plan} {value : RespValue}
      (planned : (Launch.query profile password request).plan = .ok plan)
      (call : Responded plan (.query profile password request) value (sessionOf process earlier)) :
      Warranted earlier ⟨some process, .sent (.schema request.queryId (plan.table parseFinite value).1)⟩
  | batch {process : Nat} {profile : SavedProfile} {password : String} {request : QueryRequest} {plan : Plan} {value : RespValue}
      {acts : List Act} (planned : (Launch.query profile password request).plan = .ok plan)
      (responded : Responded plan (.query profile password request) value acts) (rows : (plan.table parseFinite value).2 ≠ [])
      (call : sessionOf process earlier = .sent (.schema request.queryId (plan.table parseFinite value).1) :: acts) :
      Warranted earlier ⟨some process, .sent (.batch request.queryId (plan.table parseFinite value).2)⟩
  | completed {process : Nat} {profile : SavedProfile} {password : String} {request : QueryRequest} {plan : Plan} {value : RespValue}
      {acts : List Act} (planned : (Launch.query profile password request).plan = .ok plan)
      (responded : Responded plan (.query profile password request) value acts)
      (call : sessionOf process earlier = (batchOf request.queryId (plan.table parseFinite value)).map .sent ++
        .sent (.schema request.queryId (plan.table parseFinite value).1) :: acts) :
      Warranted earlier ⟨some process, .sent (.completed request.queryId 0)⟩
  | ended {process : Nat} {profile : SavedProfile} {password : String} {request : QueryRequest} {event : RowEvent}
      (failure : MySqlQuery.Failure request.queryId event)
      (call : (sessionOf process earlier).getLast? = some (.started (.query profile password request)))
      (running : ∀ other ∈ told (sessionOf process earlier), ¬MySqlQuery.Terminal request.queryId other) :
      Warranted earlier ⟨some process, .sent event⟩
  | refused (process : Nat) (event : RowEvent) : Warranted earlier ⟨some process, .refused event⟩

def journal : Journal Shared Act where
  entries := Shared.history
  starts := isStart
  warrant := Warranted parseFinite
  sound _ := True

end

/-! ### What each operation does -/

/-- Acts that the caller sees nothing of. -/
def Act.isWire : Act → Bool
  | .opened .. | .wrote _ | .answered _ => true
  | .started _ | .sent _ | .refused _ => false

/-- A call that has gone on over its connection only. -/
def Wired (acts later : List Act) : Prop := ∃ wire : List Act, later = wire ++ acts ∧ ∀ act ∈ wire, act.isWire = true

theorem Wired.refl (acts : List Act) : Wired acts acts := ⟨[], rfl, fun _ member => absurd member List.not_mem_nil⟩

theorem Wired.cons {acts later : List Act} {act : Act} (wired : Wired acts later) (wire : act.isWire = true) :
    Wired acts (act :: later) := by
  obtain ⟨front, rfl, all⟩ := wired
  exact ⟨act :: front, rfl, List.forall_mem_cons.mpr ⟨wire, all⟩⟩

theorem Wired.trans {acts middle later : List Act} (first : Wired acts middle) (second : Wired middle later) :
    Wired acts later := by
  obtain ⟨front, rfl, all⟩ := second
  induction front with
  | nil => exact first
  | cons act front ih =>
    obtain ⟨here, rest⟩ := List.forall_mem_cons.mp all
    exact (ih rest).cons here

theorem wired_exchanged {acts : List Act} (arguments : List (List UInt8)) (value : RespValue) :
    Wired acts (.answered value :: .wrote (encodeCommand arguments) :: acts) := ((Wired.refl acts).cons rfl).cons rfl

theorem Accepted.wired {plan : Plan} {launch : Launch} {commands : List (List (List UInt8))} {acts : List Act}
    (accepted : Accepted plan launch commands acts) : Wired [.started launch] acts := by
  induction accepted with
  | opened => exact (Wired.refl _).cons rfl
  | answered arguments accepted fine ih => exact ih.trans (wired_exchanged arguments _)

section
variable {parseFinite : String → Option UInt64} {process : Nat} {launch : Launch} {plan : Plan} {acts : List Act}
  {watch : Watch} {arguments : List (List UInt8)}

/-- The operation, asked for behind these acts, adds a warranted act or fails and adds none. -/
abbrev Adds (parseFinite : String → Option UInt64) (process : Nat) (operation : Operation) (acts : List Act)
    (act : Reply operation → Act → Prop) (silent : Reply operation → Prop) : Prop :=
  (journal parseFinite).Adds (serve process) process operation acts act silent

theorem adds_connect (planned : launch.plan = .ok plan) :
    Adds parseFinite process (.connect watch plan.profile.host plan.profile.port) [.started launch]
      (fun reply added => reply = .ok () ∧ added = .opened plan.profile.host plan.profile.port)
      (fun reply => ∃ stop, reply = .error stop) := by
  intro world shared _ call
  refine ⟨trivial, ?_⟩
  cases stops : world.stops watch with
  | some stop =>
    simp only [serve, stops]
    exact .inl ⟨⟨stop, rfl⟩, trivial⟩
  | none =>
    simp only [serve, stops]
    exact .inr ⟨_, ⟨trivial, rfl⟩, rfl, .opened planned call, rfl⟩

theorem adds_write (planned : launch.plan = .ok plan) (next : Next plan launch acts arguments) :
    Adds parseFinite process (.write watch (encodeCommand arguments)) acts
      (fun reply added => reply = .ok () ∧ added = .wrote (encodeCommand arguments) ∨
        (∃ stop, reply = .error stop) ∧ ∃ bytes, added = .wrote bytes)
      (fun _ => False) := by
  rintro world shared _ rfl
  refine ⟨trivial, .inr ?_⟩
  cases stops : world.stops watch with
  | some stop =>
    simp only [serve, stops]
    exact ⟨_, .inr ⟨⟨stop, rfl⟩, _, rfl⟩, rfl, .wrote planned next (List.take_prefix _ _), rfl⟩
  | none =>
    simp only [serve, stops]
    exact ⟨_, .inl ⟨trivial, rfl⟩, rfl, .wrote planned next (List.prefix_refl _), rfl⟩

theorem adds_read (planned : launch.plan = .ok plan) (next : Next plan launch acts arguments) (buffered : List UInt8) :
    Adds parseFinite process (.read watch buffered) (.wrote (encodeCommand arguments) :: acts)
      (fun reply added => ∃ value rest, reply = .ok (value, rest) ∧ added = .answered value)
      (fun reply => ∃ stop, reply = .error stop) := by
  intro world shared _ call
  refine ⟨trivial, ?_⟩
  cases stops : world.stops watch with
  | some stop =>
    simp only [serve, stops]
    exact .inl ⟨⟨stop, rfl⟩, trivial⟩
  | none =>
    simp only [serve, stops]
    cases receive (buffered ++ world.arrived) with
    | error error => exact .inl ⟨⟨.failed error, rfl⟩, rfl⟩
    | ok result => exact .inr ⟨_, ⟨result.1, result.2, rfl, rfl⟩, rfl, .answered planned next call result.1, rfl⟩

theorem adds_sendEvent {event : RowEvent}
    (warranted : ∀ earlier, sessionOf process earlier = acts → Warranted parseFinite earlier ⟨some process, .sent event⟩) :
    Adds parseFinite process (.sendEvent event) acts
      (fun reply added => reply = .ok () ∧ added = .sent event ∨ reply = .error receiverGone ∧ added = .refused event)
      (fun _ => False) := by
  intro world shared _ call
  refine ⟨trivial, .inr ?_⟩
  cases listening : world.listening with
  | true =>
    simp only [serve, listening]
    exact ⟨_, .inl ⟨rfl, rfl⟩, rfl, warranted _ call, rfl⟩
  | false =>
    simp only [serve, listening]
    exact ⟨_, .inr ⟨rfl, rfl⟩, rfl, .refused process event, rfl⟩

/-! ### Over the connection -/

/-- The computation keeps to the journal from these acts on. -/
abbrev Doing {ε α : Type} (parseFinite : String → Option UInt64) (process : Nat) (acts : List Act)
    (post : Except ε α → List Act → Prop) (task : Task ε α) : Prop :=
  (journal parseFinite).Does (serve process) process acts post task.run

/-- A success that leaves such acts, or a failure that the caller sees nothing of. -/
def Reaches {ε α : Type} (fact : α → List Act → Prop) (acts : List Act) : Except ε α → List Act → Prop
  | .ok value, later => fact value later
  | .error _, later => Wired acts later

/-- A result that no operation is needed for, and what follows it. -/
theorem doing_decided {ε α β : Type} {post : Except ε α → List Act → Prop} {result : Except ε β} {next : β → Task ε α}
    (fails : ∀ error, result = .error error → post (.error error) acts)
    (passes : ∀ value, result = .ok value → Doing parseFinite process acts post (next value)) :
    Doing parseFinite process acts post (decided result >>= next) := by
  cases result with
  | error error => exact Journal.Does.done (fails error rfl)
  | ok value => exact passes value rfl

theorem doing_sendCommand (planned : launch.plan = .ok plan) (next : Next plan launch acts arguments) (buffered : List UInt8) :
    Doing parseFinite process acts
      (Reaches (fun result later => later = .answered result.1 :: .wrote (encodeCommand arguments) :: acts) acts)
      (sendCommand watch buffered arguments) := by
  have writes : Doing parseFinite process acts (Reaches (fun _ later => later = .wrote (encodeCommand arguments) :: acts) acts)
      (attempt (.write watch (encodeCommand arguments)) id : Task (Stop watch) Unit) := by
    refine Journal.Does.attempt_adds (adds_write planned next) (fun _ silent => silent.elim) ?_
    rintro reply added (⟨rfl, rfl⟩ | ⟨⟨stop, rfl⟩, bytes, rfl⟩)
    · rfl
    · exact (Wired.refl acts).cons rfl
  refine Journal.Does.sequence writes (fun _ _ wired => wired) ?_
  rintro _ _ rfl
  refine Journal.Does.attempt_adds (adds_read planned next buffered) ?_ ?_
  · rintro _ ⟨stop, rfl⟩
    exact (Wired.refl acts).cons rfl
  · rintro _ _ ⟨value, rest, rfl, rfl⟩
    rfl

/-- A command of the handshake is accepted, or ends it. -/
theorem doing_demand {commands : List (List (List UInt8))} (planned : launch.plan = .ok plan)
    (accepted : Accepted plan launch commands acts) (front : commands ++ [arguments] <+: plan.handshake) (buffered : List UInt8)
    (refused : AppError) :
    Doing parseFinite process acts (Reaches (fun _ later => Accepted plan launch (commands ++ [arguments]) later) acts)
      (demand watch buffered arguments refused) := by
  refine Journal.Does.sequence (doing_sendCommand planned (.prepares accepted front) buffered) (fun _ _ wired => wired) ?_
  rintro ⟨value, rest⟩ _ rfl
  refine Journal.Does.done ?_
  cases error : isError value with
  | true => exact wired_exchanged arguments value
  | false => exact accepted.answered arguments error

theorem doing_authenticate (planned : launch.plan = .ok plan) (accepted : Accepted plan launch [] acts) :
    Doing parseFinite process acts (Reaches (fun _ later => Accepted plan launch plan.authentication later) [.started launch])
      (authenticate watch plan.profile plan.password) := by
  have front : plan.authentication <+: plan.handshake := List.prefix_append _ _
  unfold authenticate
  unfold Plan.authentication at front ⊢
  by_cases empty : plan.password = ""
  · rw [if_pos empty, if_pos empty]
    exact Journal.Does.done accepted
  · rw [if_neg empty] at front ⊢
    rw [if_neg empty]
    refine (doing_demand planned accepted front [] authRefused).mono ?_
    intro outcome later reaches
    cases outcome with
    | ok _ => exact reaches
    | error _ => exact accepted.wired.trans reaches

theorem doing_select (planned : launch.plan = .ok plan) (authenticated : Accepted plan launch plan.authentication acts)
    (buffered : List UInt8) :
    Doing parseFinite process acts (Reaches (fun _ later => Accepted plan launch plan.handshake later) [.started launch])
      (select watch plan.profile buffered) := by
  unfold select
  cases named : plan.profile.database with
  | none =>
    have handshake : plan.handshake = plan.authentication := by
      rw [Plan.handshake, named]
      exact List.append_nil _
    apply Journal.Does.done
    show Accepted plan launch plan.handshake acts
    rw [handshake]
    exact authenticated
  | some database =>
    have handshake : plan.authentication ++ [selectArguments database] = plan.handshake := by
      rw [Plan.handshake, named]
      rfl
    refine (doing_demand planned authenticated (handshake ▸ List.prefix_rfl) buffered selectRefused).mono ?_
    intro outcome last reaches
    cases outcome with
    | ok _ => exact handshake ▸ reaches
    | error _ => exact authenticated.wired.trans reaches

theorem doing_connectAndPrepare (planned : launch.plan = .ok plan) :
    Doing parseFinite process [.started launch]
      (Reaches (fun _ later => Accepted plan launch plan.handshake later) [.started launch])
      (connectAndPrepare watch plan.profile plan.password) := by
  have opens : Doing parseFinite process [.started launch]
      (Reaches (fun _ later => Accepted plan launch [] later) [.started launch])
      (attempt (.connect watch plan.profile.host plan.profile.port) id : Task (Stop watch) Unit) := by
    refine Journal.Does.attempt_adds (adds_connect planned) ?_ ?_
    · rintro _ ⟨stop, rfl⟩
      exact Wired.refl _
    · rintro _ _ ⟨rfl, rfl⟩
      exact .opened
  refine Journal.Does.sequence opens (fun _ _ wired => wired) ?_
  intro _ later accepted
  refine Journal.Does.sequence (doing_authenticate planned accepted) (fun _ _ wired => wired) ?_
  intro buffered later authenticated
  exact doing_select planned authenticated buffered

/-! ### To the caller -/

theorem told_wired {later : List Act} (wired : Wired acts later) : told later = told acts := by
  obtain ⟨wire, rfl, all⟩ := wired
  induction wire with
  | nil => rfl
  | cons act wire ih =>
    obtain ⟨here, rest⟩ := List.forall_mem_cons.mp all
    cases act with
    | opened | wrote | answered => exact ih rest
    | started | sent | refused => cases here

/-- Where a call stands with its caller. -/
structure Standing (launch : Launch) (events : List RowEvent) (acts : List Act) : Prop where
  call : acts.getLast? = some (.started launch)
  told : told acts = events

namespace Standing
variable {events : List RowEvent} {event : RowEvent}

theorem started : Standing launch [] [.started launch] := ⟨rfl, rfl⟩

theorem cons {act : Act} {more : List RowEvent} (standing : Standing launch events acts) (tells : RedisSession.told (act :: acts) = more) :
    Standing launch more (act :: acts) := by
  refine ⟨?_, tells⟩
  rw [List.getLast?_cons, standing.call]
  rfl

theorem sent (standing : Standing launch events acts) : Standing launch (events ++ [event]) (.sent event :: acts) := by
  apply standing.cons
  rw [RedisSession.told, standing.told]

theorem refused (standing : Standing launch events acts) : Standing launch events (.refused event :: acts) :=
  standing.cons standing.told

theorem wired {later : List Act} (standing : Standing launch events acts) (wired : Wired acts later) :
    Standing launch events later := by
  refine ⟨?_, (told_wired wired).trans standing.told⟩
  obtain ⟨wire, rfl, _⟩ := wired
  rw [List.getLast?_append, standing.call]
  rfl

end Standing

/-- The schema, the rows and the end of a query with such a result. -/
def shownEvents (queryId : Uuid) (table : ResultTable) : List RowEvent :=
  .schema queryId table.1 :: (batchOf queryId table ++ [.completed queryId 0])

section Query
variable {saved : SavedProfile} {password : String} {request : QueryRequest} {events : List RowEvent} {event : RowEvent}

/-- What the adapter has told its caller when it returns, where the caller received all of it. -/
inductive Spoken (parseFinite : String → Option UInt64) (launch : Launch) (queryId : Uuid) (acts : List Act) :
    Except AppError Unit → List RowEvent → Prop
  | silent (error : AppError) : Spoken parseFinite launch queryId acts (.error error) []
  | begun (error : AppError) : Spoken parseFinite launch queryId acts (.error error) [.started queryId]
  | unstarted : Spoken parseFinite launch queryId acts (.ok ()) [.canceled queryId]
  | canceled : Spoken parseFinite launch queryId acts (.ok ()) [.started queryId, .canceled queryId]
  | shown {plan : Plan} {value : RespValue} {before : List Act} (planned : launch.plan = .ok plan)
      (responded : Responded plan launch value before) (behind : before <:+ acts) :
      Spoken parseFinite launch queryId acts (.ok ()) (.started queryId :: shownEvents queryId (plan.table parseFinite value))

/-- What the adapter leaves behind: an error that it returns comes behind no end of the query. -/
structure Left (parseFinite : String → Option UInt64) (launch : Launch) (queryId : Uuid) (outcome : Except AppError Unit)
    (acts : List Act) : Prop where
  call : acts.getLast? = some (.started launch)
  running : ∀ error, outcome = .error error → ∀ event ∈ told acts, ¬MySqlQuery.Terminal queryId event
  spoken : Heard acts → Spoken parseFinite launch queryId acts outcome (told acts)

/-- No event so far ends the query. -/
def Running (queryId : Uuid) (events : List RowEvent) : Prop := ∀ event ∈ events, ¬MySqlQuery.Terminal queryId event

theorem running_nil (queryId : Uuid) : Running queryId [] := fun _ member => absurd member List.not_mem_nil

theorem Running.concat {queryId : Uuid} (running : Running queryId events) (goes : ¬MySqlQuery.Terminal queryId event) :
    Running queryId (events ++ [event]) := by
  intro other member
  rcases List.mem_append.mp member with earlier | last
  · exact running other earlier
  · exact List.mem_singleton.mp last ▸ goes

theorem goes_started (queryId : Uuid) : ¬MySqlQuery.Terminal queryId (.started queryId) := by
  intro terminal
  cases terminal with
  | failure failure => cases failure

theorem goes_schema (queryId : Uuid) (columns : List QueryColumn) : ¬MySqlQuery.Terminal queryId (.schema queryId columns) := by
  intro terminal
  cases terminal with
  | failure failure => cases failure

theorem goes_batch (queryId : Uuid) (rows : List (List CellValue)) : ¬MySqlQuery.Terminal queryId (.batch queryId rows) := by
  intro terminal
  cases terminal with
  | failure failure => cases failure

theorem left_error {queryId : Uuid} (standing : Standing launch events acts) (running : Running queryId events) (error : AppError)
    (spoken : Heard acts → Spoken parseFinite launch queryId acts (.error error) events) :
    Left parseFinite launch queryId (.error error) acts := by
  obtain ⟨call, rfl⟩ := standing
  exact ⟨call, fun _ _ => running, spoken⟩

theorem left_refused {queryId : Uuid} (standing : Standing launch events acts) (running : Running queryId events) :
    Left parseFinite launch queryId (.error receiverGone) (.refused event :: acts) :=
  left_error standing.refused running receiverGone fun heard => absurd List.mem_cons_self (heard event)

theorem heard_sent (heard : Heard (.sent event :: acts)) :
    Heard acts := fun other member => heard other (List.mem_cons_of_mem _ member)

/-- An event behind which the query goes on. -/
theorem doing_tell {next : Unit → Task AppError Unit} (standing : Standing launch events acts) (running : Running request.queryId events)
    (warranted : ∀ earlier, sessionOf process earlier = acts → Warranted parseFinite earlier ⟨some process, .sent event⟩)
    (rest : Doing parseFinite process (.sent event :: acts) (Left parseFinite launch request.queryId) (next ())) :
    Doing parseFinite process acts (Left parseFinite launch request.queryId) (sendEvent event >>= next) := by
  have sends : Doing parseFinite process acts
      (fun outcome later => outcome = .ok () ∧ later = .sent event :: acts ∨ outcome = .error receiverGone ∧ later = .refused event :: acts)
      (sendEvent event) := by
    refine Journal.Does.attempt_adds (adds_sendEvent warranted) (fun _ silent => silent.elim) ?_
    rintro _ _ (⟨rfl, rfl⟩ | ⟨rfl, rfl⟩)
    · exact .inl ⟨rfl, rfl⟩
    · exact .inr ⟨rfl, rfl⟩
  refine Journal.Does.sequence sends ?_ ?_
  · rintro _ _ (⟨⟨⟩, _⟩ | ⟨⟨⟩, rfl⟩)
    exact left_refused standing running
  · rintro _ _ (⟨⟨⟩, rfl⟩ | ⟨⟨⟩, _⟩)
    exact rest

/-- The event that ends the query. -/
theorem doing_last (standing : Standing launch events acts) (running : Running request.queryId events)
    (warranted : ∀ earlier, sessionOf process earlier = acts → Warranted parseFinite earlier ⟨some process, .sent event⟩)
    (spoken : Heard acts → Spoken parseFinite launch request.queryId (.sent event :: acts) (.ok ()) (events ++ [event])) :
    Doing parseFinite process acts (Left parseFinite launch request.queryId) (sendEvent event) := by
  refine Journal.Does.attempt_adds (adds_sendEvent warranted) (fun _ silent => silent.elim) ?_
  rintro _ _ (⟨rfl, rfl⟩ | ⟨rfl, rfl⟩)
  · have sent : Standing launch (events ++ [event]) (.sent event :: acts) := standing.sent
    refine ⟨sent.call, ?_, ?_⟩
    · rintro _ ⟨⟩
    · intro heard
      rw [sent.told]
      exact spoken (heard_sent heard)
  · exact left_refused standing running

/-- The end of a query that was canceled. -/
theorem doing_canceled (standing : Standing (.query saved password request) events acts) (running : Running request.queryId events)
    (spoken : Spoken parseFinite (.query saved password request) request.queryId (.sent (.canceled request.queryId) :: acts)
      (.ok ()) (events ++ [.canceled request.queryId])) :
    Doing parseFinite process acts (Left parseFinite (.query saved password request) request.queryId)
      (sendEvent (.canceled request.queryId)) := by
  refine doing_last standing running ?_ fun _ => spoken
  intro earlier same
  refine .ended .canceled (same ▸ standing.call) ?_
  rw [same, standing.told]
  exact running

/-- The schema, the rows and the end are sent behind the response to the command. -/
theorem doing_sendTable {value : RespValue} (planned : (Launch.query saved password request).plan = .ok plan)
    (responded : Responded plan (.query saved password request) value acts)
    (standing : Standing (.query saved password request) [.started request.queryId] acts) :
    Doing parseFinite process acts (Left parseFinite (.query saved password request) request.queryId)
      (sendTable request.queryId (plan.table parseFinite value)) := by
  have begun : Running request.queryId [.started request.queryId] := (running_nil _).concat (goes_started _)
  refine doing_tell standing begun (fun earlier same => .schema planned (same ▸ responded)) ?_
  have schema : Standing (.query saved password request)
      ([.started request.queryId] ++ [.schema request.queryId (plan.table parseFinite value).1])
      (.sent (.schema request.queryId (plan.table parseFinite value).1) :: acts) := standing.sent
  have shown := begun.concat (goes_schema request.queryId (plan.table parseFinite value).1)
  unfold sendRows
  by_cases empty : (plan.table parseFinite value).2 = []
  · rw [if_pos empty]
    have none : batchOf request.queryId (plan.table parseFinite value) = [] := if_pos empty
    refine doing_last schema shown (fun earlier same => .completed planned responded ?_) fun _ => ?_
    · rw [same, none]
      rfl
    · have spoken := @Spoken.shown parseFinite _ request.queryId _ _ _ _ planned responded
        (List.suffix_append [.sent (.completed request.queryId 0), .sent (.schema request.queryId (plan.table parseFinite value).1)] acts)
      rw [shownEvents, none] at spoken
      exact spoken
  · rw [if_neg empty]
    have some_ : batchOf request.queryId (plan.table parseFinite value) = [.batch request.queryId (plan.table parseFinite value).2] := if_neg empty
    refine doing_tell schema shown (fun earlier same => .batch planned responded empty same) ?_
    refine doing_last schema.sent (shown.concat (goes_batch _ _)) (fun earlier same => .completed planned responded ?_) fun _ => ?_
    · rw [same, some_]
      rfl
    · have spoken := @Spoken.shown parseFinite _ request.queryId _ _ _ _ planned responded
        (List.suffix_append [.sent (.completed request.queryId 0), .sent (.batch request.queryId (plan.table parseFinite value).2),
          .sent (.schema request.queryId (plan.table parseFinite value).1)] acts)
      rw [shownEvents, some_] at spoken
      exact spoken

theorem doing_runCommand (planned : (Launch.query saved password request).plan = .ok plan)
    (accepted : Accepted plan (.query saved password request) plan.handshake acts) (buffered : List UInt8) :
    Doing parseFinite process acts (Left parseFinite (.query saved password request) request.queryId)
      (runCommand parseFinite request.queryId buffered plan.command) := by
  have standing : Standing (.query saved password request) [] acts := Standing.started.wired accepted.wired
  refine doing_tell standing (running_nil _) (fun earlier same => .begun planned (same ▸ accepted)) ?_
  have begun : Standing (.query saved password request) ([] ++ [.started request.queryId]) (.sent (.started request.queryId) :: acts) :=
    standing.sent
  have running : Running request.queryId ([] ++ [.started request.queryId]) := (running_nil _).concat (goes_started _)
  refine Journal.Does.captured (doing_sendCommand planned (.runs accepted) buffered) ?_
  intro result later reaches
  cases result with
  | error stop =>
    have stopped := begun.wired reaches
    cases stop with
    | failed error => exact Journal.Does.done (left_error stopped running error fun _ => .begun error)
    | canceled watched => exact doing_canceled stopped running .canceled
    | timedOut limited => exact absurd limited Bool.false_ne_true
  | ok answer =>
    obtain ⟨value, rest⟩ := answer
    obtain rfl : later = .answered value :: .wrote (encodeCommand plan.command) :: .sent (.started request.queryId) :: acts := reaches
    have answered := begun.wired (wired_exchanged plan.command value)
    cases value with
    | error details => exact Journal.Does.done (left_error answered running _ fun _ => .begun _)
    | simple | integer | bulk | array | boolean | double | bigNumber | verbatim | map | set | null =>
      exact doing_sendTable planned (.answered accepted rfl) answered

theorem doing_query {profile : SavedProfile} (selected : atDatabase saved request = .ok profile) :
    Doing parseFinite process [.started (.query saved password request)] (Left parseFinite (.query saved password request) request.queryId)
      (query parseFinite profile password request) := by
  have begun : Standing (.query saved password request) [] [.started (.query saved password request)] := .started
  have silent (error : AppError) {later : List Act} (standing : Standing (.query saved password request) [] later) :
      Left parseFinite (.query saved password request) request.queryId (.error error) later :=
    left_error standing (running_nil _) error fun _ => .silent error
  refine doing_decided (fun error _ => silent error begun) ?_
  intro _ valid
  refine doing_decided (fun error _ => silent error begun) ?_
  intro arguments parsed
  have planned : (Launch.query saved password request).plan = .ok ⟨profile, password, arguments⟩ := by
    rw [Launch.plan, selected, parsed]
    simp only [bind, Except.bind, valid]
    rfl
  refine Journal.Does.captured (doing_connectAndPrepare planned) ?_
  intro result later reaches
  cases result with
  | error stop =>
    have stopped := begun.wired reaches
    cases stop with
    | failed error => exact Journal.Does.done (silent error stopped)
    | canceled watched => exact doing_canceled stopped (running_nil _) .unstarted
    | timedOut limited => exact Journal.Does.done (silent _ stopped)
  | ok buffered => exact doing_runCommand planned reaches buffered

/-- What a finished query has told its caller, who received all of it: a word of the query
protocol that ends as the query did, and with the response to its own command if it completed. -/
structure Settled (parseFinite : String → Option UInt64) (launch : Launch) (queryId : Uuid) (outcome : Except AppError Unit)
    (acts : List Act) : Prop where
  word : ∃ batches last, MySqlQuery.Word queryId (told acts) batches last ∧ MySqlQuery.Terminal queryId last ∧
    ∀ error, outcome = .error error ↔ last = .failed queryId error
  shown : ∀ count, .completed queryId count ∈ told acts → ∃ plan value before, launch.plan = .ok plan ∧
    Responded plan launch value before ∧ before <:+ acts ∧
    told acts = .started queryId :: shownEvents queryId (plan.table parseFinite value)

theorem shown_word (queryId : Uuid) (table : ResultTable) :
    ∃ batches, MySqlQuery.Word queryId (.started queryId :: shownEvents queryId table) batches (.completed queryId 0) := by
  unfold shownEvents batchOf
  by_cases empty : table.2 = []
  · rw [if_pos empty]
    exact ⟨[], .shown table.1 [] _⟩
  · rw [if_neg empty]
    exact ⟨[table.2], .shown table.1 [table.2] _⟩

theorem Spoken.settled {queryId : Uuid} (spoken : Spoken parseFinite launch queryId acts (.ok ()) (told acts)) :
    Settled parseFinite launch queryId (.ok ()) acts := by
  generalize same : told acts = events at spoken
  cases spoken with
  | unstarted =>
    refine ⟨⟨[], .canceled queryId, same ▸ .bare _, .failure .canceled, ?_⟩, ?_⟩
    · simp
    · simp [same]
  | canceled =>
    refine ⟨⟨[], .canceled queryId, same ▸ .unshown _, .failure .canceled, ?_⟩, ?_⟩
    · simp
    · simp [same]
  | @shown plan value before planned responded behind =>
    obtain ⟨batches, word⟩ := shown_word queryId (plan.table parseFinite value)
    refine ⟨⟨batches, _, same ▸ word, .completed 0, ?_⟩, fun _ _ => ⟨plan, value, before, planned, responded, behind, same⟩⟩
    simp

/-- Behind an error of the adapter its report is the last event. -/
theorem Spoken.failed {queryId : Uuid} {error : AppError} {events : List RowEvent}
    (spoken : Spoken parseFinite launch queryId acts (.error error) events) {later : List Act}
    (tells : told later = events ++ [.failed queryId error]) : Settled parseFinite launch queryId (.error error) later := by
  have reports : ∀ other, (Except.error error : Except AppError Unit) = .error other ↔
      (QueryEvent.failed queryId error : RowEvent) = .failed queryId other := by simp
  cases spoken with
  | silent =>
    refine ⟨⟨[], _, tells ▸ .bare _, .failure (.failed error), reports⟩, ?_⟩
    simp [tells]
  | begun =>
    refine ⟨⟨[], _, tells ▸ .unshown _, .failure (.failed error), reports⟩, ?_⟩
    simp [tells]

/-- What a call that has returned has done. The test of a connection tells nobody of anything
and succeeds on PONG only; a query that `run_query` rejects is silent. -/
inductive Concluded (parseFinite : String → Option UInt64) : Launch → Except AppError Unit → List Act → Prop
  | tested {profile : SavedProfile} {password : String} {outcome : Except AppError Unit} {acts : List Act} (silent : told acts = [])
      (call : acts.getLast? = some (.started (.testConnection profile password)))
      (pong : outcome = .ok () → ∃ plan, (Launch.testConnection profile password).plan = .ok plan ∧
        Responded plan (.testConnection profile password) (.simple "PONG") acts) :
      Concluded parseFinite (.testConnection profile password) outcome acts
  | rejected {saved : SavedProfile} {password : String} {request : QueryRequest} {error : AppError}
      (rejects : atDatabase saved request = .error error) :
      Concluded parseFinite (.query saved password request) (.error error) [.started (.query saved password request)]
  | queried {saved : SavedProfile} {password : String} {request : QueryRequest} {outcome : Except AppError Unit} {acts : List Act}
      (call : acts.getLast? = some (.started (.query saved password request)))
      (settled : Heard acts → Settled parseFinite (.query saved password request) request.queryId outcome acts) :
      Concluded parseFinite (.query saved password request) outcome acts

theorem does_reportFailure {outcome : Except AppError Unit}
    (left : Left parseFinite (.query saved password request) request.queryId outcome acts) :
    (journal parseFinite).Does (serve process) process acts (Concluded parseFinite (.query saved password request))
      (reportFailure request.queryId outcome) := by
  cases outcome with
  | ok _ => exact Journal.Does.done (.queried left.call fun heard => (left.spoken heard).settled)
  | error error =>
    have standing : Standing (.query saved password request) (told acts) acts := ⟨left.call, rfl⟩
    have reports : Doing parseFinite process acts (fun _ => Concluded parseFinite (.query saved password request) (.error error))
        (sendEvent (.failed request.queryId error)) := by
      refine Journal.Does.attempt_adds (adds_sendEvent ?_) (fun _ silent => silent.elim) ?_
      · intro earlier same
        exact .ended (.failed error) (same ▸ left.call) (same ▸ left.running error rfl)
      · rintro _ _ (⟨rfl, rfl⟩ | ⟨rfl, rfl⟩)
        · exact .queried standing.sent.call fun heard => (left.spoken (heard_sent heard)).failed rfl
        · exact .queried standing.refused.call fun heard => absurd List.mem_cons_self (heard _)
    refine Journal.Does.bind reports ?_
    intro _ later concluded
    exact Journal.Does.done concluded

theorem does_testConnection {profile : SavedProfile} :
    Doing parseFinite process [.started (.testConnection profile password)] (Concluded parseFinite (.testConnection profile password))
      (testConnection profile password) := by
  have fails (error : AppError) {later : List Act} (wired : Wired [.started (.testConnection profile password)] later) :
      Concluded parseFinite (.testConnection profile password) (.error error) later := by
    have standing := Standing.started.wired wired
    refine .tested standing.told standing.call ?_
    rintro ⟨⟩
  refine doing_decided (fun error _ => fails error (Wired.refl _)) ?_
  intro _ valid
  have planned : (Launch.testConnection profile password).plan = .ok ⟨profile, password, [utf8 "PING"]⟩ := by
    simp only [Launch.plan, bind, Except.bind, valid]
    rfl
  have tests : Doing parseFinite process [.started (.testConnection profile password)]
      (Reaches (fun result later => ∃ before, Accepted ⟨profile, password, [utf8 "PING"]⟩ (.testConnection profile password)
        (Plan.handshake ⟨profile, password, [utf8 "PING"]⟩) before ∧
        later = .answered result.1 :: .wrote (encodeCommand [utf8 "PING"]) :: before) [.started (.testConnection profile password)])
      (testRedisConnection profile password) := by
    refine Journal.Does.sequence (doing_connectAndPrepare planned) (fun _ _ wired => wired) ?_
    intro buffered before accepted
    refine (doing_sendCommand planned (.runs accepted) buffered).mono ?_
    intro outcome later reaches
    cases outcome with
    | ok result => exact ⟨before, accepted, reaches⟩
    | error stop => exact accepted.wired.trans reaches
  have adapted : Doing parseFinite process [.started (.testConnection profile password)]
      (Reaches (fun result later => ∃ before, Accepted ⟨profile, password, [utf8 "PING"]⟩ (.testConnection profile password)
        (Plan.handshake ⟨profile, password, [utf8 "PING"]⟩) before ∧
        later = .answered result.1 :: .wrote (encodeCommand [utf8 "PING"]) :: before) [.started (.testConnection profile password)])
      ((testRedisConnection profile password).adapt (Stop.testError rfl)) := by
    refine Journal.Does.bind tests ?_
    intro outcome later reaches
    cases outcome with
    | ok result => exact Journal.Does.done reaches
    | error stop => exact Journal.Does.done reaches
  refine Journal.Does.sequence adapted (fun error _ wired => fails error wired) ?_
  rintro ⟨value, rest⟩ later ⟨before, accepted, rfl⟩
  have standing := Standing.started.wired (accepted.wired.trans (wired_exchanged [utf8 "PING"] value))
  refine Journal.Does.done (.tested standing.told standing.call ?_)
  intro success
  obtain rfl : value = .simple "PONG" := by
    unfold pong at success
    split at success
    · rfl
    · cases success
    · cases success
  exact ⟨_, planned, .answered accepted rfl⟩

/-- Every call keeps to the journal. -/
theorem does_program (launch : Launch) :
    (journal parseFinite).Does (serve process) process [.started launch] (Concluded parseFinite launch) (program parseFinite launch) := by
  cases launch with
  | testConnection profile password => exact does_testConnection
  | query saved password request =>
    show (journal parseFinite).Does (serve process) process _ _ (runQuery parseFinite saved password request)
    unfold runQuery
    cases selected : atDatabase saved request with
    | error error => exact Journal.Does.done (.rejected selected)
    | ok profile => exact Journal.Does.bind (doing_query selected) fun outcome later left => does_reportFailure left

end Query

end

/-! ### Every run -/

/-- What calls reach that start from nowhere. -/
def reached (parseFinite : String → Option UInt64) (events : List (Programs.Event Launch World Unit)) :
    System Operation Reply Shared (Except AppError Unit) :=
  Runs.run (machine parseFinite).step (Machine.initial ⟨[]⟩) events

section
variable (parseFinite : String → Option UInt64) (events : List (Programs.Event Launch World Unit))

theorem orderly_reached : Machine.Orderly (machine parseFinite) (journal parseFinite).protocol
    (fun process outcome shared => ∃ launch, Concluded parseFinite launch outcome (sessionOf process shared.history))
    (reached parseFinite events) := by
  have sound : (journal parseFinite).Sound ⟨[]⟩ := ⟨trivial, trivial⟩
  refine Machine.run_orderly (Machine.orderly_initial sound) ?_ (fun _ _ _ sound => sound) (Machine.permitted_all _ events)
  intro process launch shared sound
  have does : (journal parseFinite).Does (serve process) process [.started launch]
      (fun outcome acts => ∃ launch, Concluded parseFinite launch outcome acts) (program parseFinite launch) :=
    (does_program launch).mono fun outcome acts concluded => ⟨launch, concluded⟩
  exact @Journal.admits _ _ _ _ _ _ _ _ (machine parseFinite) (journal parseFinite) _ _ _ _ _ rfl rfl sound (.started process launch)
    trivial does

/-- However calls interleave, are interrupted or end, and whatever the servers send, every act is
warranted: nothing is written before all that comes first is accepted. -/
theorem commands_follow_handshake : AllWarranted (Warranted parseFinite) (reached parseFinite events).shared.history :=
  (orderly_reached parseFinite events).1.1

/-- What a call reports, and what a query has told its caller, is what the call has done. -/
theorem calls_concluded (process : Nat) (outcome : Except AppError Unit)
    (returned : (reached parseFinite events).running process = some (.done outcome)) :
    ∃ launch, Concluded parseFinite launch outcome (sessionOf process (reached parseFinite events).shared.history) :=
  (orderly_reached parseFinite events).returned returned

end

def localRedis : SavedProfile :=
  { id := ⟨"c"⟩, name := "cache", engine := .redis, database := none, environment := .development, host := "127.0.0.1", port := 6379,
    username := "", tlsMode := .disabled }

def ping : QueryRequest := { queryId := ⟨"q"⟩, connectionId := ⟨"c"⟩, sql := "PING", database := some "2" }

/-- A query whose every response is PONG. -/
def answeredPing : List (Programs.Event Launch World Unit) :=
  .start 0 (.query localRedis "" ping) :: List.replicate 9 (.advance 0 ⟨none, none, 0, [43, 80, 79, 78, 71, 13, 10], true⟩)

theorem calls_concluded_ping : ∃ launch,
    Concluded (fun _ => none) launch (.ok ()) (sessionOf 0 (reached (fun _ => none) answeredPing).shared.history) := by
  have returned : (reached (fun _ => none) answeredPing).running 0 = some (.done (.ok ())) := by
    apply Program.done_of_returned
    decide +kernel
  exact calls_concluded (fun _ => none) answeredPing 0 (.ok ()) returned

/-! ### With an honest server -/

/-- A server answers the bytes of every command with one response within the limits. -/
structure Server (S : Type) where
  answer : S → List UInt8 → S × Frame
  fits : ∀ state bytes, (answer state bytes).2.Fits 0
  small : ∀ state bytes, (answer state bytes).2.encode.length ≤ maxResponseBytes

/-- A call that nothing disturbs, its server, and what the server has sent and nobody has read. -/
structure Solo (S : Type) where
  shared : Shared
  state : S
  pending : List UInt8

/-- What a call comes to: its outcome, what its caller has been told, and where it leaves the server. -/
structure Conversation (S : Type) where
  outcome : Except AppError Unit
  events : List RowEvent
  state : S

namespace Server
variable {S : Type} (server : Server S)

/-- The world lets every operation pass, and delivers what the server has sent. -/
def calm (solo : Solo S) : World := ⟨none, none, 0, solo.pending, true⟩

def serve (process : Nat) (operation : Operation) (solo : Solo S) : Reply operation × Solo S :=
  let (reply, shared) := RedisSession.serve process (calm solo) operation solo.shared
  let next : S × List UInt8 := match operation with
    | .write _ bytes => ((server.answer solo.state bytes).1, solo.pending ++ (server.answer solo.state bytes).2.encode)
    | .read .. => (solo.state, [])
    | .connect .. | .sendEvent _ => (solo.state, solo.pending)
  (reply, ⟨shared, next.1, next.2⟩)

/-- The response to a command, as a value. -/
def reply (state : S) (arguments : List (List UInt8)) : RespValue := (server.answer state (encodeCommand arguments)).2.value

def after (state : S) (arguments : List (List UInt8)) : S := (server.answer state (encodeCommand arguments)).1

/-- The commands of a handshake one after the other, each with the error that its refusal is. -/
def prepare : S → List (List (List UInt8) × AppError) → Except AppError Unit × S
  | state, [] => (.ok (), state)
  | state, (arguments, refused) :: demands =>
    if isError (server.reply state arguments) then (.error refused, server.after state arguments)
    else prepare (server.after state arguments) demands

end Server

def Plan.selection (plan : Plan) : List (List (List UInt8) × AppError) :=
  plan.profile.database.toList.map fun database => (selectArguments database, selectRefused)

/-- The commands of the handshake, and what is reported where one is refused. -/
def Plan.demands (plan : Plan) : List (List (List UInt8) × AppError) :=
  plan.authentication.map (fun arguments => (arguments, authRefused)) ++ plan.selection

/-- What the adapter returns for the answer to the command, and what it has told the caller. -/
def Plan.present (parseFinite : String → Option UInt64) (plan : Plan) (queryId : Uuid) :
    RespValue → Except AppError Unit × List RowEvent
  | .error details => (.error (queryError details), [.started queryId])
  | value => (.ok (), .started queryId :: shownEvents queryId (plan.table parseFinite value))

/-- An error that the adapter returns is the last event of its query. -/
def reported (queryId : Uuid) : Except AppError Unit → List RowEvent
  | .ok () => []
  | .error error => [.failed queryId error]

namespace Server
variable {S : Type} (server : Server S) (plan : Plan) (state : S)

def tested : Conversation S :=
  match server.prepare state plan.demands with
  | (.error error, ready) => ⟨.error error, [], ready⟩
  | (.ok (), ready) => ⟨pong (server.reply ready plan.command), [], server.after ready plan.command⟩

def queried (parseFinite : String → Option UInt64) (queryId : Uuid) : Conversation S :=
  match server.prepare state plan.demands with
  | (.error error, ready) => ⟨.error error, [], ready⟩
  | (.ok (), ready) =>
    let (outcome, events) := plan.present parseFinite queryId (server.reply ready plan.command)
    ⟨outcome, events, server.after ready plan.command⟩

/-- The call as a conversation in values, without bytes, streams or operations. -/
def converse (parseFinite : String → Option UInt64) : Launch → Conversation S
  | .testConnection .. => server.tested plan state
  | .query _ _ request =>
    let conversation := server.queried plan state parseFinite request.queryId
    { conversation with events := conversation.events ++ reported request.queryId conversation.outcome }

end Server

section
variable {S : Type} {server : Server S} {process : Nat} {launch : Launch} {plan : Plan} {events : List RowEvent} {state : S}

/-- The caller has been told these events, the server is in this state, and all it has sent is read. -/
structure Stands (process : Nat) (events : List RowEvent) (state : S) (solo : Solo S) : Prop where
  told : told (sessionOf process solo.shared.history) = events
  state : solo.state = state
  read : solo.pending = []

theorem Stands.record {solo : Solo S} {more : List RowEvent} {act : Act} (stands : Stands process events state solo)
    (continues : isStart act = false) (tells : ∀ acts, RedisSession.told acts = events → RedisSession.told (act :: acts) = more)
    (next : S) : Stands process more next ⟨solo.shared.record process act, next, []⟩ := by
  refine ⟨?_, rfl, rfl⟩
  rw [sessionOf, Shared.record, session_add continues]
  exact tells _ stands.told

theorem Stands.wire {solo : Solo S} {act : Act} (stands : Stands process events state solo) (wire : act.isWire = true) (next : S) :
    Stands process events next ⟨solo.shared.record process act, next, []⟩ := by
  have continues : isStart act = false := by
    cases act <;> first | rfl | cases wire
  exact stands.record continues (fun acts same => (told_wired ((Wired.refl acts).cons wire)).trans same) next

theorem Stands.sent {solo : Solo S} (stands : Stands process events state solo) (event : RowEvent) (next : S) :
    Stands process (events ++ [event]) next ⟨solo.shared.record process (.sent event), next, []⟩ := by
  refine stands.record rfl ?_ next
  rintro acts rfl
  rfl

/-- The task ends so, with such events told and the server left in such a state. -/
def Yields {ε α : Type} (server : Server S) (process : Nat) (task : Task ε α) (solo : Solo S) (outcome : Except ε α)
    (events : List RowEvent) (state : S) : Prop :=
  ∃ next, task.run.alone (server.serve process) solo = (outcome, next) ∧ Stands process events state next

namespace Yields
variable {ε ε' α β : Type} {task : Task ε β} {rest : β → Task ε α} {solo : Solo S} {outcome : Except ε α} {later : List RowEvent} {last : S}

theorem decided {result : Except ε α} (stands : Stands process events state solo) :
    Yields server process (decided result) solo result events state := ⟨solo, rfl, stands⟩

theorem goes {value : β} (first : Yields server process task solo (.ok value) events state)
    (second : ∀ next, Stands process events state next → Yields server process (rest value) next outcome later last) :
    Yields server process (task >>= rest) solo outcome later last := by
  obtain ⟨middle, ran, stands⟩ := first
  obtain ⟨next, same, stands⟩ := second middle stands
  exact ⟨next, (Program.alone_ok ran).trans same, stands⟩

theorem fails {error : ε} (first : Yields server process task solo (.error error) events state) :
    Yields server process (task >>= rest) solo (.error error) events state := by
  obtain ⟨next, ran, stands⟩ := first
  exact ⟨next, Program.alone_error ran, stands⟩

theorem captured {rest : Except ε β → Task ε' α} {outcome : Except ε' α} {result : Except ε β}
    (first : Yields server process task solo result events state)
    (second : ∀ next, Stands process events state next → Yields server process (rest result) next outcome later last) :
    Yields server process (ExceptT.lift task.run >>= rest) solo outcome later last := by
  obtain ⟨middle, ran, stands⟩ := first
  obtain ⟨next, same, stands⟩ := second middle stands
  exact ⟨next, (Program.alone_captured ran).trans same, stands⟩

theorem adapted {report : ε → ε'} {task : Task ε α} (first : Yields server process task solo outcome events state) :
    Yields server process (task.adapt report) solo (outcome.mapError report) events state := by
  obtain ⟨next, ran, stands⟩ := first
  refine ⟨next, (Program.alone_bind (server.serve process) task.run _ solo).trans ?_, stands⟩
  rw [ran]
  rfl

end Yields

variable {solo : Solo S} {watch : Watch}

/-- A response within the limits is received as the value of its frame, with nothing behind it. -/
theorem receive_answer (state : S) (bytes : List UInt8) :
    receive (server.answer state bytes).2.encode = .ok ((server.answer state bytes).2.value, []) := by
  have returned := (server.answer state bytes).2.returns 0 (server.fits state bytes) [] maxResponseBytes (server.small state bytes) le_rfl
  rw [List.append_nil] at returned
  rw [receive, returned]
  rfl

theorem serve_read {shared : Shared} {pending : List UInt8} {value : RespValue} (received : receive pending = .ok (value, [])) :
    server.serve process (.read watch []) ⟨shared, state, pending⟩ =
      (.ok (value, []), ⟨shared.record process (.answered value), state, []⟩) := by
  have passes : (Server.calm (⟨shared, state, pending⟩ : Solo S)).stops watch = none := rfl
  have arrived : receive ([] ++ (Server.calm (⟨shared, state, pending⟩ : Solo S)).arrived) = .ok (value, []) := received
  simp only [Server.serve, serve, passes, arrived]

theorem yields_sendCommand (stands : Stands process events state solo) (arguments : List (List UInt8)) :
    Yields server process (sendCommand watch [] arguments) solo (.ok (server.reply state arguments, [])) events
      (server.after state arguments) := by
  have asked : Stands process events (server.after state arguments)
      (⟨solo.shared.record process (.wrote (encodeCommand arguments)), server.after state arguments, []⟩ : Solo S) := stands.wire rfl _
  have answered : Stands process events (server.after state arguments)
      (⟨(solo.shared.record process (.wrote (encodeCommand arguments))).record process (.answered (server.reply state arguments)),
        server.after state arguments, []⟩ : Solo S) := asked.wire rfl _
  obtain ⟨_, rfl, read⟩ := stands
  have wrote : (attempt (.write watch (encodeCommand arguments)) id : Task (Stop watch) Unit).run.alone (server.serve process) solo =
      (.ok (), ⟨solo.shared.record process (.wrote (encodeCommand arguments)), server.after solo.state arguments,
        (server.answer solo.state (encodeCommand arguments)).2.encode⟩) := by
    rw [← List.nil_append (Frame.encode _), ← read]
    rfl
  refine ⟨_, (Program.alone_ok wrote).trans ?_, answered⟩
  have received := @serve_read S server process (server.after solo.state arguments) watch
    (solo.shared.record process (.wrote (encodeCommand arguments))) _ _ (@receive_answer S server solo.state (encodeCommand arguments))
  exact congrArg (fun result : Except (Stop watch) (RespValue × List UInt8) × Solo S => (id result.1, result.2)) received

theorem yields_sendEvent (stands : Stands process events state solo) (event : RowEvent) :
    Yields server process (sendEvent event) solo (.ok ()) (events ++ [event]) state := by
  have sent := stands.sent event state
  obtain ⟨_, rfl, read⟩ := stands
  exact ⟨_, rfl, read ▸ sent⟩

theorem yields_connect (stands : Stands process events state solo) (host : String) (port : Nat) :
    Yields server process (attempt (.connect watch host port) id : Task (Stop watch) Unit) solo (.ok ()) events state := by
  have opened : Stands process events state (⟨solo.shared.record process (.opened host port), state, []⟩ : Solo S) := stands.wire rfl state
  obtain ⟨_, rfl, read⟩ := stands
  exact ⟨_, rfl, read ▸ opened⟩

theorem yields_demand (stands : Stands process events state solo) (arguments : List (List UInt8)) (refused : AppError) :
    Yields server process (demand watch [] arguments refused) solo
      (if isError (server.reply state arguments) then .error (.failed refused) else .ok []) events (server.after state arguments) := by
  refine (yields_sendCommand stands arguments).goes ?_
  intro next stands
  exact .decided stands

/-- What a handshake comes to, as the adapter reports it. -/
def prepareOutcome (watch : Watch) : Except AppError Unit → Except (Stop watch) (List UInt8)
  | .ok () => .ok []
  | .error error => .error (.failed error)

/-- A command of the handshake, and the rest of it once the command is accepted. -/
theorem yields_demands {task : Task (Stop watch) (List UInt8)} {rest : List UInt8 → Task (Stop watch) (List UInt8)}
    {arguments : List (List UInt8)} {refused : AppError} {demands : List (List (List UInt8) × AppError)}
    (first : Yields server process task solo
      (if isError (server.reply state arguments) then .error (.failed refused) else .ok []) events (server.after state arguments))
    (second : ∀ next, Stands process events (server.after state arguments) next → Yields server process (rest []) next
      (prepareOutcome watch (server.prepare (server.after state arguments) demands).1) events
      (server.prepare (server.after state arguments) demands).2) :
    Yields server process (task >>= rest) solo (prepareOutcome watch (server.prepare state ((arguments, refused) :: demands)).1) events
      (server.prepare state ((arguments, refused) :: demands)).2 := by
  rw [Server.prepare]
  cases error : isError (server.reply state arguments) with
  | true =>
    simp only [error, ↓reduceIte] at first ⊢
    exact first.fails
  | false =>
    simp only [error, Bool.false_eq_true, ↓reduceIte] at first ⊢
    exact first.goes second

theorem prepare_single (state : S) (arguments : List (List UInt8)) (refused : AppError) :
    prepareOutcome watch (server.prepare state [(arguments, refused)]).1 =
        (if isError (server.reply state arguments) then .error (.failed refused) else .ok []) ∧
      (server.prepare state [(arguments, refused)]).2 = server.after state arguments := by
  rw [Server.prepare]
  cases isError (server.reply state arguments) <;> exact ⟨rfl, rfl⟩

theorem yields_select (stands : Stands process events state solo) :
    Yields server process (select watch plan.profile []) solo (prepareOutcome watch (server.prepare state plan.selection).1) events
      (server.prepare state plan.selection).2 := by
  unfold select Plan.selection
  cases plan.profile.database with
  | none => exact .decided stands
  | some database =>
    have single := @prepare_single S server watch state (selectArguments database) selectRefused
    have demanded := @yields_demand S server process events state solo watch stands (selectArguments database) selectRefused
    rw [← single.1, ← single.2] at demanded
    exact demanded

theorem yields_connectAndPrepare (stands : Stands process events state solo) :
    Yields server process (connectAndPrepare watch plan.profile plan.password) solo
      (prepareOutcome watch (server.prepare state plan.demands).1) events (server.prepare state plan.demands).2 := by
  refine (yields_connect stands plan.profile.host plan.profile.port).goes ?_
  intro connected stands
  unfold authenticate Plan.demands Plan.authentication
  by_cases empty : plan.password = ""
  · rw [if_pos empty, if_pos empty]
    exact (Yields.decided stands).goes fun next stands => yields_select stands
  · rw [if_neg empty, if_neg empty]
    exact yields_demands (yields_demand stands _ _) fun next stands => yields_select stands

theorem yields_sendTable (stands : Stands process events state solo) (queryId : Uuid) (table : ResultTable) :
    Yields server process (sendTable queryId table) solo (.ok ()) (events ++ shownEvents queryId table) state := by
  refine (yields_sendEvent stands _).goes ?_
  intro shown stands
  unfold sendRows shownEvents batchOf
  by_cases empty : table.2 = []
  · rw [if_pos empty, if_pos empty]
    refine (Yields.decided stands).goes ?_
    intro next stands
    have completed := @yields_sendEvent S server process _ state next stands (.completed queryId 0)
    rw [List.append_assoc] at completed
    exact completed
  · rw [if_neg empty, if_neg empty]
    refine (yields_sendEvent stands _).goes ?_
    intro next stands
    have completed := @yields_sendEvent S server process _ state next stands (.completed queryId 0)
    rw [List.append_assoc, List.append_assoc] at completed
    exact completed

theorem yields_runCommand {request : QueryRequest} (parseFinite : String → Option UInt64)
    (stands : Stands process [] state solo) :
    Yields server process (runCommand parseFinite request.queryId [] plan.command) solo
      (plan.present parseFinite request.queryId (server.reply state plan.command)).1
      (plan.present parseFinite request.queryId (server.reply state plan.command)).2 (server.after state plan.command) := by
  refine (yields_sendEvent stands _).goes ?_
  intro begun stands
  refine (yields_sendCommand stands plan.command).captured ?_
  intro answered stands
  cases server.reply state plan.command with
  | error details => exact .decided stands
  | simple | integer | bulk | array | boolean | double | bigNumber | verbatim | map | set | null =>
    exact yields_sendTable stands request.queryId (plan.table parseFinite _)

theorem plan_query {saved : SavedProfile} {password : String} {request : QueryRequest} (planned : (Launch.query saved password request).plan = .ok plan) :
    atDatabase saved request = .ok plan.profile ∧ validateProfile plan.profile = .ok () ∧ parseCommand request.sql = .ok plan.command ∧
      plan.password = password := by
  simp only [Launch.plan, bind, Except.bind] at planned
  split at planned
  · cases planned
  · next profile selected =>
    split at planned
    · cases planned
    · next valid =>
      split at planned
      · cases planned
      · next arguments parsed =>
        obtain rfl := Except.ok.inj planned
        exact ⟨selected, valid, parsed, rfl⟩

theorem plan_test {profile : SavedProfile} {password : String} (planned : (Launch.testConnection profile password).plan = .ok plan) :
    validateProfile profile = .ok () ∧ plan = ⟨profile, password, [utf8 "PING"]⟩ := by
  simp only [Launch.plan, bind, Except.bind] at planned
  split at planned
  · cases planned
  · next valid => exact ⟨valid, (Except.ok.inj planned).symm⟩

theorem yields_query {saved : SavedProfile} {password : String} {request : QueryRequest} (parseFinite : String → Option UInt64)
    (planned : (Launch.query saved password request).plan = .ok plan) (stands : Stands process [] state solo) :
    Yields server process (query parseFinite plan.profile password request) solo
      (server.queried plan state parseFinite request.queryId).outcome (server.queried plan state parseFinite request.queryId).events
      (server.queried plan state parseFinite request.queryId).state := by
  obtain ⟨selected, valid, parsed, rfl⟩ := plan_query planned
  unfold query Server.queried
  rw [valid, parsed]
  refine (Yields.decided stands).goes ?_
  intro checked stands
  refine (Yields.decided stands).goes ?_
  intro tokenized stands
  have connected : Yields server process (connectAndPrepare connectWatch plan.profile plan.password) tokenized _ _ _ :=
    yields_connectAndPrepare stands
  generalize server.prepare state plan.demands = prepared_ at connected ⊢
  obtain ⟨outcome, ready⟩ := prepared_
  refine connected.captured ?_
  intro next stands
  cases outcome with
  | error error => exact .decided stands
  | ok _ => exact yields_runCommand parseFinite stands

theorem yields_testConnection {profile : SavedProfile} {password : String}
    (planned : (Launch.testConnection profile password).plan = .ok plan) (stands : Stands process [] state solo) :
    Yields server process (testConnection profile password) solo (server.tested plan state).outcome (server.tested plan state).events
      (server.tested plan state).state := by
  obtain ⟨valid, rfl⟩ := plan_test planned
  unfold testConnection Server.tested
  rw [valid]
  refine (Yields.decided stands).goes ?_
  intro checked stands
  have connected : Yields server process (connectAndPrepare testWatch profile password) checked _ _ _ :=
    @yields_connectAndPrepare S server process ⟨profile, password, [utf8 "PING"]⟩ [] state checked testWatch stands
  generalize server.prepare state (Plan.demands ⟨profile, password, [utf8 "PING"]⟩) = prepared_ at connected ⊢
  obtain ⟨outcome, ready⟩ := prepared_
  cases outcome with
  | error error =>
    have refused : Yields server process (testRedisConnection profile password) checked (.error (.failed error)) [] ready := connected.fails
    exact refused.adapted.fails
  | ok _ =>
    have answered : Yields server process (testRedisConnection profile password) checked
        (.ok (server.reply ready [utf8 "PING"], [])) [] (server.after ready [utf8 "PING"]) :=
      connected.goes fun next stands => yields_sendCommand stands [utf8 "PING"]
    exact answered.adapted.goes fun next stands => .decided stands

/-- An error of the adapter is told as the last event. -/
theorem yields_reported {task : Task AppError Unit} {outcome : Except AppError Unit} {queryId : Uuid}
    (first : Yields server process task solo outcome events state) :
    ∃ next, (Program.bind task.run (reportFailure queryId)).alone (server.serve process) solo = (outcome, next) ∧
      Stands process (events ++ reported queryId outcome) state next := by
  obtain ⟨middle, ran, stands⟩ := first
  rw [Program.alone_bind, ran]
  cases outcome with
  | ok _ => exact ⟨middle, rfl, (List.append_nil events).symm ▸ stands⟩
  | error error =>
    obtain ⟨next, sent, stands⟩ := @yields_sendEvent S server process events state middle stands (.failed queryId error)
    refine ⟨next, ?_, stands⟩
    refine (Program.alone_bind (server.serve process) _ _ middle).trans ?_
    rw [sent]
    rfl

/-- With a server that answers every command within the limits, and nothing that disturbs it, a
call is the conversation in values: framing, buffering and sequencing change nothing. -/
theorem calls_converse (server : Server S) (parseFinite : String → Option UInt64) (process : Nat) (launch : Launch) (plan : Plan)
    (planned : launch.plan = .ok plan) (earlier : History) (state : S) :
    ∃ next, (program parseFinite launch).alone (server.serve process) ⟨⟨⟨some process, .started launch⟩ :: earlier⟩, state, []⟩ =
        ((server.converse plan state parseFinite launch).outcome, next) ∧
      told (sessionOf process next.shared.history) = (server.converse plan state parseFinite launch).events ∧
      next.state = (server.converse plan state parseFinite launch).state := by
  have stands : Stands process [] state (⟨⟨⟨some process, .started launch⟩ :: earlier⟩, state, []⟩ : Solo S) := by
    refine ⟨?_, rfl, rfl⟩
    rw [sessionOf, session_start rfl]
    rfl
  cases launch with
  | testConnection profile password =>
    obtain ⟨next, ran, stands⟩ := @yields_testConnection S server process plan state _ profile password planned stands
    exact ⟨next, ran, stands.told, stands.state⟩
  | query saved password request =>
    obtain ⟨selected, -, -, -⟩ := plan_query planned
    have runs : program parseFinite (.query saved password request) =
        Program.bind (query parseFinite plan.profile password request).run (reportFailure request.queryId) := by
      show runQuery parseFinite saved password request = _
      rw [runQuery, selected]
    rw [runs]
    obtain ⟨next, ran, stands⟩ := yields_reported (yields_query parseFinite planned stands)
    exact ⟨next, ran, stands.told, stands.state⟩

end

def pongServer : Server Unit where
  answer _ _ := ((), .simple "PONG")
  fits _ _ := by
    refine ⟨by decide, ?_, ?_⟩ <;> decide
  small _ _ := by decide

theorem calls_converse_ping : ∃ next,
    (program (fun _ => none) (.query localRedis "" ping)).alone (pongServer.serve 0) ⟨⟨[⟨some 0, .started (.query localRedis "" ping)⟩]⟩, (), []⟩ =
        (.ok (), next) ∧
      told (sessionOf 0 next.shared.history) = [.started ⟨"q"⟩, .schema ⟨"q"⟩ [resultColumn "value" "REDIS VALUE"],
        .batch ⟨"q"⟩ [[.text "PONG"]], .completed ⟨"q"⟩ 0] ∧
      next.state = () := by
  have planned : (Launch.query localRedis "" ping).plan = .ok ⟨{ localRedis with database := some "2" }, "", [utf8 "PING"]⟩ := by
    decide +kernel
  exact calls_converse pongServer (fun _ => none) 0 _ _ planned [] ()

end Pipa.RedisSession
