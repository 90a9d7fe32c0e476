import Pipa.McpService
import Pipa.Proofs.McpQueueEffects
import Pipa.Proofs.QueryRunnerOutcome

/-! What the tools and the panel do to the databases, in every interleaving of their locks:
every act of every call is warranted by what happened before it. -/

namespace Pipa.McpService
open Programs QueryRunner

def isStart : Act → Bool
  | .started _ => true
  | _ => false

abbrev History := List (Entry Act)

/-- What a call did since it started, newest first. -/
def sessionOf (process : Nat) (history : History) : List Act := session isStart process history

/-- The scope that was written last. -/
def inForce (history : History) : Option McpConnectionScope :=
  history.findSome? fun entry => match entry.act with
    | .rescoped scope => some scope
    | _ => none

/-- The ids that proposals were queued under. -/
def proposedIds (history : History) : List Uuid :=
  history.filterMap fun entry => match entry.act with
    | .proposed proposal => some proposal.id
    | _ => none

/-- The ids of the proposals that were claimed for execution. -/
def claimedIds (history : History) : List Uuid :=
  history.filterMap fun entry => match entry.act with
    | .claimed proposal => some proposal.id
    | _ => none

/-- The connection that a tool names. -/
def Launch.connection (library : UuidLibrary) : Launch → Option Uuid
  | .listTables connectionId | .describeTable connectionId _ | .runReadonlyQuery connectionId _ | .proposeSql connectionId _ =>
    library.parseStr (Text.trim connectionId)
  | _ => none

/-- The statement that a tool runs or proposes. -/
def Launch.statement : Launch → Option String
  | .listTables _ => some "SHOW FULL TABLES"
  | .describeTable _ tableName => some ("DESCRIBE " ++ quoteIdentifier (Text.trim tableName))
  | .runReadonlyQuery _ sql | .proposeSql _ sql => some (Text.trim sql)
  | _ => none

/-- The parts of a proposal that the user is shown and that no status changes. -/
structure Reviewed (proposal original : PendingSqlProposal) : Prop where
  id : proposal.id = original.id
  connection : proposal.connectionId = original.connectionId
  sql : proposal.sql = original.sql
  risk : proposal.risk = original.risk

/-- A query for one statement on a saved MySQL profile. -/
structure Targets (connectionId : Uuid) (sql : String) (profile : SavedProfile) (request : QueryRequest) : Prop where
  engine : profile.engine = .mySql
  profile : profile.id = connectionId
  connection : request.connectionId = connectionId
  sql : request.sql = sql

/-- What allows an act, behind the history before it. A tool is granted the connection that it
names by the scope in force; it then runs its own statement where the policy lets it, or
queues it. Another query runs only as the user confirmed it or typed it. -/
inductive Warranted (library : UuidLibrary) (earlier : History) : Entry Act → Prop
  | restarted (scope : McpConnectionScope) : Warranted library earlier ⟨none, .rescoped scope⟩
  | started (process : Nat) (launch : Launch) : Warranted library earlier ⟨some process, .started launch⟩
  | listed {process : Nat} {scope : McpConnectionScope} (call : sessionOf process earlier = [.started .listConnections])
      (current : inForce earlier = some scope) : Warranted library earlier ⟨some process, .listed scope⟩
  | granted {process : Nat} {launch : Launch} {connectionId : Uuid} {scope : McpConnectionScope}
      (call : sessionOf process earlier = [.started launch]) (names : launch.connection library = some connectionId)
      (current : inForce earlier = some scope) (allows : scope.allows connectionId = true) :
      Warranted library earlier ⟨some process, .granted connectionId scope⟩
  | proposed {process : Nat} {launch : Launch} {scope : McpConnectionScope} {proposal : PendingSqlProposal}
      (call : sessionOf process earlier = [.granted proposal.connectionId scope, .started launch])
      (statement : launch.statement = some proposal.sql) (nonempty : proposal.sql ≠ "")
      (risk : proposal.risk = SqlPolicy.classifySql (SqlPolicy.asBytes proposal.sql)) (pending : proposal.status = .pending) :
      Warranted library earlier ⟨some process, .proposed proposal⟩
  | claimed {process other : Nat} {proposal original : PendingSqlProposal}
      (call : sessionOf process earlier = [.started (.executeProposal proposal.id)])
      (queued : ⟨some other, .proposed original⟩ ∈ earlier) (reviewed : Reviewed proposal original) :
      Warranted library earlier ⟨some process, .claimed proposal⟩
  | readOnly {process : Nat} {launch : Launch} {connectionId : Uuid} {sql : String} {scope : McpConnectionScope}
      {profile : SavedProfile} {request : QueryRequest}
      (call : sessionOf process earlier = [.granted connectionId scope, .started launch])
      (statement : launch.statement = some sql) (policy : SqlPolicy.mcpMayExecute (SqlPolicy.asBytes sql) = .ok ())
      (targets : Targets connectionId sql profile request) :
      Warranted library earlier ⟨some process, .dispatched true profile request⟩
  | confirmed {process : Nat} {proposal : PendingSqlProposal} {profile : SavedProfile} {request : QueryRequest}
      (call : sessionOf process earlier = [.claimed proposal, .started (.executeProposal proposal.id)])
      (targets : Targets proposal.connectionId proposal.sql profile request) :
      Warranted library earlier ⟨some process, .dispatched false profile request⟩
  | typed {process : Nat} {connectionId : Uuid} {sql : String} {profile : SavedProfile} {request : QueryRequest}
      (call : sessionOf process earlier = [.started (.runManualSql connectionId sql)])
      (targets : Targets connectionId (Text.trim sql) profile request) :
      Warranted library earlier ⟨some process, .dispatched false profile request⟩
  | rescoped {process : Nat} {restrictToConnection : Bool} {targetConnectionIds : List Uuid}
      (call : sessionOf process earlier = [.started (.setConnectionScope restrictToConnection targetConnectionIds)])
      (selected : restrictToConnection = true → targetConnectionIds ≠ []) :
      Warranted library earlier ⟨some process, .rescoped ⟨restrictToConnection, uniqueIds targetConnectionIds⟩⟩

/-- No id was drawn twice for a proposal. -/
def Distinct (history : History) : Prop := (proposedIds history).Nodup

/-- With distinct ids the queue and the claims fit together: a claimed proposal is no longer pending. -/
structure ClaimedOnce (queue : List PendingSqlProposal) (history : History) : Prop where
  queued : (queue.map PendingSqlProposal.id).Nodup
  known : ∀ proposal ∈ queue, proposal.id ∈ proposedIds history
  claims : (claimedIds history).Nodup
  proposed : ∀ id ∈ claimedIds history, id ∈ proposedIds history
  moved : ∀ proposal ∈ queue, proposal.id ∈ claimedIds history → proposal.status ≠ .pending

/-- What holds of every reachable state beside its history. -/
structure Consistent (shared : Shared) : Prop where
  scope : inForce shared.history = some shared.connectionScope
  room : shared.queue.proposals.length ≤ mcpProposalLimit
  activity : shared.activity.length ≤ mcpActivityLimit
  reviewed : ∀ proposal ∈ shared.queue.proposals, ∃ other original,
    ⟨some other, .proposed original⟩ ∈ shared.history ∧ Reviewed proposal original
  once : Distinct shared.history → ClaimedOnce shared.queue.proposals shared.history

def journal (library : UuidLibrary) : Journal Shared Act where
  entries := Shared.history
  starts := isStart
  warrant := Warranted library
  sound := Consistent

/-! ### What each operation does -/

theorem Reviewed.refl (proposal : PendingSqlProposal) : Reviewed proposal proposal := ⟨rfl, rfl, rfl, rfl⟩

/-- An edit that leaves what the user reviewed. -/
def Keeping (edit : PendingSqlProposal → PendingSqlProposal) : Prop := ∀ proposal, Reviewed (edit proposal) proposal

theorem keeping_markExecuting : Keeping McpQueue.markExecuting := fun _ => ⟨rfl, rfl, rfl, rfl⟩

theorem keeping_markDismissed : Keeping McpQueue.markDismissed := fun _ => ⟨rfl, rfl, rfl, rfl⟩

theorem keeping_markReported (status : ProposalStatus) (resultSummary : Option String) :
    Keeping (McpQueue.markReported status resultSummary) := fun _ => ⟨rfl, rfl, rfl, rfl⟩

theorem mem_of_modifyFirst {id : Uuid} {edit : PendingSqlProposal → PendingSqlProposal} {items : List PendingSqlProposal}
    {item : PendingSqlProposal} (member : item ∈ McpQueue.modifyFirst id edit items) :
    item ∈ items ∨ ∃ old ∈ items, item = edit old := by
  induction items with
  | nil => cases member
  | cons first items ih =>
    rw [McpQueue.modifyFirst] at member
    split at member
    · rcases List.mem_cons.mp member with rfl | later
      · exact .inr ⟨first, List.mem_cons_self, rfl⟩
      · exact .inl (List.mem_cons_of_mem _ later)
    · rcases List.mem_cons.mp member with rfl | later
      · exact .inl List.mem_cons_self
      · rcases ih later with old | ⟨old, inside, rfl⟩
        · exact .inl (List.mem_cons_of_mem _ old)
        · exact .inr ⟨old, List.mem_cons_of_mem _ inside, rfl⟩

section
variable {shared : Shared}

/-- Acts that neither write the scope nor move a proposal. -/
def Act.isPlain : Act → Bool
  | .started _ | .listed _ | .granted .. | .dispatched .. => true
  | .proposed _ | .claimed _ | .rescoped _ => false

theorem Consistent.record {process : Nat} {act : Act} (consistent : Consistent shared) (plain : act.isPlain = true) :
    Consistent (shared.record process act) := by
  have scope : inForce (⟨some process, act⟩ :: shared.history) = inForce shared.history := by cases act <;> first | rfl | cases plain
  have proposed : proposedIds (⟨some process, act⟩ :: shared.history) = proposedIds shared.history := by
    cases act <;> first | rfl | cases plain
  have claimed : claimedIds (⟨some process, act⟩ :: shared.history) = claimedIds shared.history := by
    cases act <;> first | rfl | cases plain
  refine ⟨scope.trans consistent.scope, consistent.room, consistent.activity, ?_, ?_⟩
  · intro proposal member
    obtain ⟨other, original, queued, reviewed⟩ := consistent.reviewed proposal member
    exact ⟨other, original, List.mem_cons_of_mem _ queued, reviewed⟩
  · intro distinct
    have once := consistent.once (show (proposedIds shared.history).Nodup from proposed ▸ distinct)
    refine ⟨once.queued, ?_, ?_, ?_, ?_⟩
    · exact fun proposal member => proposed.symm ▸ once.known proposal member
    · exact claimed.symm ▸ once.claims
    · exact fun id member => proposed.symm ▸ once.proposed id (claimed ▸ member)
    · exact fun proposal member claim => once.moved proposal member (claimed ▸ claim)

/-- An edit in place of one proposal that is not pending behind it. -/
theorem ClaimedOnce.edit {queue : List PendingSqlProposal} {history : History} {id : Uuid}
    {edit : PendingSqlProposal → PendingSqlProposal} (once : ClaimedOnce queue history) (keeping : Keeping edit)
    (settled : ∀ proposal, (edit proposal).status ≠ .pending) : ClaimedOnce (McpQueue.modifyFirst id edit queue) history := by
  have ids : (McpQueue.modifyFirst id edit queue).map PendingSqlProposal.id = queue.map PendingSqlProposal.id :=
    McpQueue.modifyFirst_ids (fun proposal => (keeping proposal).id) queue
  refine ⟨ids ▸ once.queued, ?_, once.claims, once.proposed, ?_⟩
  · intro proposal member
    rcases mem_of_modifyFirst member with old | ⟨old, inside, rfl⟩
    · exact once.known proposal old
    · rw [(keeping old).id]
      exact once.known old inside
  · intro proposal member claim
    rcases mem_of_modifyFirst member with old | ⟨old, inside, rfl⟩
    · exact once.moved proposal old claim
    · exact settled old

theorem Consistent.edit (id : Uuid) {edit : PendingSqlProposal → PendingSqlProposal} (consistent : Consistent shared)
    (keeping : Keeping edit) (settled : ∀ proposal, (edit proposal).status ≠ .pending) :
    Consistent { shared with queue := ⟨McpQueue.modifyFirst id edit shared.queue.proposals⟩ } := by
  refine ⟨consistent.scope, ?_, consistent.activity, ?_, fun distinct => (consistent.once distinct).edit keeping settled⟩
  · exact (McpQueue.modifyFirst_length _).trans_le consistent.room
  · intro proposal member
    rcases mem_of_modifyFirst member with old | ⟨old, inside, rfl⟩
    · exact consistent.reviewed proposal old
    · obtain ⟨other, original, queued, reviewed⟩ := consistent.reviewed old inside
      have same := keeping old
      exact ⟨other, original, queued, same.id.trans reviewed.id, same.connection.trans reviewed.connection,
        same.sql.trans reviewed.sql, same.risk.trans reviewed.risk⟩

theorem Consistent.pushActivity (consistent : Consistent shared) (entry : McpActivityEntry) :
    Consistent (shared.pushActivity entry) :=
  ⟨consistent.scope, consistent.room, List.length_take_le _ _, consistent.reviewed, consistent.once⟩

/-- A proposal enters the queue under an id of its own. -/
theorem Consistent.propose {process : Nat} {proposal : PendingSqlProposal} {kept : List PendingSqlProposal}
    (consistent : Consistent shared) (keeps : McpQueue.Keeps shared.queue.proposals kept) :
    Consistent (Shared.record process { shared with queue := ⟨proposal :: kept⟩ } (.proposed proposal)) := by
  have old : ∀ item ∈ kept, item ∈ shared.queue.proposals := fun item member => keeps.sublist.subset member
  refine ⟨consistent.scope, keeps.room, consistent.activity, ?_, ?_⟩
  · refine List.forall_mem_cons.mpr ⟨⟨process, proposal, List.mem_cons_self, .refl proposal⟩, ?_⟩
    intro item member
    obtain ⟨other, original, queued, reviewed⟩ := consistent.reviewed item (old item member)
    exact ⟨other, original, List.mem_cons_of_mem _ queued, reviewed⟩
  · intro distinct
    obtain ⟨fresh, earlier⟩ : proposal.id ∉ proposedIds shared.history ∧ (proposedIds shared.history).Nodup :=
      List.nodup_cons.mp distinct
    have once := consistent.once earlier
    refine ⟨?_, ?_, once.claims, fun id claim => List.mem_cons_of_mem _ (once.proposed id claim), ?_⟩
    · refine List.nodup_cons.mpr ⟨?_, once.queued.sublist (keeps.sublist.map _)⟩
      intro repeated
      obtain ⟨item, member, same⟩ := List.mem_map.mp repeated
      exact fresh (same ▸ once.known item (old item member))
    · refine List.forall_mem_cons.mpr ⟨List.mem_cons_self, ?_⟩
      exact fun item member => List.mem_cons_of_mem _ (once.known item (old item member))
    · refine List.forall_mem_cons.mpr ⟨fun claim => absurd (once.proposed _ claim) fresh, ?_⟩
      exact fun item member => once.moved item (old item member)

/-- A pending proposal is claimed for execution, and no longer pending. -/
theorem Consistent.claim {process : Nat} {proposal : PendingSqlProposal} (consistent : Consistent shared)
    (member : proposal ∈ shared.queue.proposals) (pending : proposal.status = .pending) :
    Consistent (Shared.record process
      { shared with queue := ⟨McpQueue.modifyFirst proposal.id McpQueue.markExecuting shared.queue.proposals⟩ }
      (.claimed (McpQueue.markExecuting proposal))) := by
  have edited := consistent.edit proposal.id keeping_markExecuting (fun _ => by simp [McpQueue.markExecuting])
  refine ⟨edited.scope, edited.room, edited.activity, ?_, ?_⟩
  · intro item inside
    obtain ⟨other, original, queued, reviewed⟩ := edited.reviewed item inside
    exact ⟨other, original, List.mem_cons_of_mem _ queued, reviewed⟩
  · intro distinct
    have once := consistent.once distinct
    have later := edited.once distinct
    have unclaimed : proposal.id ∉ claimedIds shared.history := fun claim => once.moved proposal member claim pending
    refine ⟨later.queued, later.known, List.nodup_cons.mpr ⟨unclaimed, once.claims⟩, ?_, ?_⟩
    · exact List.forall_mem_cons.mpr ⟨once.known proposal member, once.proposed⟩
    · intro item inside claim
      rcases (McpQueue.mem_modifyFirst once.queued).mp inside with ⟨old, different⟩ | ⟨original, old, same, rfl⟩
      · rcases List.mem_cons.mp claim with here | earlier
        · exact absurd here different
        · exact once.moved item old earlier
      · simp [McpQueue.markExecuting]

theorem Consistent.rescope {process : Option Nat} {scope : McpConnectionScope} (consistent : Consistent shared) :
    Consistent { shared with connectionScope := scope, history := ⟨process, .rescoped scope⟩ :: shared.history } := by
  refine ⟨rfl, consistent.room, consistent.activity, ?_, ?_⟩
  · intro proposal member
    obtain ⟨other, original, queued, reviewed⟩ := consistent.reviewed proposal member
    exact ⟨other, original, List.mem_cons_of_mem _ queued, reviewed⟩
  · intro distinct
    have once := consistent.once distinct
    exact ⟨once.queued, once.known, once.claims, once.proposed, once.moved⟩

end

/-- The operation leaves the history and what must fit it alone. -/
abbrev Quiet (library : UuidLibrary) (Row : Type) (process : Nat) (operation : Operation) : Prop :=
  (journal library).Quiet (@serve Row process) operation

/-- The operation, asked for behind these acts, adds a warranted act or fails and adds none. -/
abbrev Adds (library : UuidLibrary) (Row : Type) (process : Nat) (operation : Operation) (acts : List Act)
    (act : Reply Row operation → Act → Prop) (silent : Reply Row operation → Prop) : Prop :=
  (journal library).Adds (@serve Row process) process operation acts act silent

section
variable {Row : Type} {library : UuidLibrary} {process : Nat} {acts : List Act} {launch : Launch} {connectionId : Uuid} {sql : String}

theorem quiet_unchanged {operation : Operation} (same : ∀ world shared, (@serve Row process world operation shared).2 = shared) :
    Quiet library Row process operation := by
  intro world shared sound
  rw [same]
  exact ⟨sound.2, rfl⟩

theorem quiet_listConnections : Quiet library Row process .listConnections := quiet_unchanged fun _ _ => rfl

theorem quiet_getConnection : Quiet library Row process (.getConnection connectionId) := quiet_unchanged fun _ _ => rfl

theorem quiet_getConnectionCredential : Quiet library Row process (.getConnectionCredential connectionId) :=
  quiet_unchanged fun _ _ => rfl

theorem quiet_newUuid : Quiet library Row process .newUuid := quiet_unchanged fun _ _ => rfl

theorem quiet_saveSettings : Quiet library Row process .saveSettings := quiet_unchanged fun _ _ => rfl

theorem quiet_pushActivity {tool summary : String} {target : Option Uuid} {ok : Bool} {detail : Option String} :
    Quiet library Row process (.pushActivity tool target summary ok detail) :=
  fun _ _ sound => ⟨sound.2.pushActivity _, rfl⟩

theorem quiet_callStore {call : StoreCommands.Call} : Quiet library Row process (.callStore call) :=
  fun _ _ sound => ⟨⟨sound.2.scope, sound.2.room, sound.2.activity, sound.2.reviewed, sound.2.once⟩, rfl⟩

theorem quiet_updateProposal {proposalId : Uuid} {status : ProposalStatus} {resultSummary : Option String}
    (settled : status ≠ .pending) : Quiet library Row process (.updateProposal proposalId status resultSummary) :=
  fun _ _ sound => ⟨sound.2.edit proposalId (keeping_markReported status resultSummary) fun _ => settled, rfl⟩

theorem quiet_claimForDismiss {proposalId : Uuid} : Quiet library Row process (.claimForDismiss proposalId) := by
  intro world shared sound
  rcases McpQueue.claim_cases shared.queue proposalId "Only pending proposals can be dismissed" McpQueue.markDismissed with
    ⟨error, refused⟩ | ⟨proposal, _, _, _, claimed⟩
  · have same : (@serve Row process world (.claimForDismiss proposalId) shared).2 = shared := by
      simp only [serve, McpQueue.claimForDismiss, refused]
    rw [same]
    exact ⟨sound.2, rfl⟩
  · have same : (@serve Row process world (.claimForDismiss proposalId) shared).2 =
        { shared with queue := ⟨McpQueue.modifyFirst proposalId McpQueue.markDismissed shared.queue.proposals⟩ } := by
      simp only [serve, McpQueue.claimForDismiss, claimed]
    rw [same]
    exact ⟨sound.2.edit proposalId keeping_markDismissed fun _ => by simp [McpQueue.markDismissed], rfl⟩

theorem recordOk_error {ε α : Type} {shared : Shared} {act : α → Act} (error : ε) :
    shared.recordOk process (.error error) act = (.error error, shared) := rfl

theorem recordOk_ok {ε α : Type} {shared : Shared} {act : α → Act} (value : α) :
    shared.recordOk process (.ok value : Except ε α) act = (.ok value, shared.record process (act value)) := rfl

/-- An operation that always records a plain act. -/
theorem adds_plain {operation : Operation} {act : Reply Row operation → Act}
    (records : ∀ world shared, (@serve Row process world operation shared).2 =
      shared.record process (act (@serve Row process world operation shared).1))
    (plain : ∀ reply, (act reply).isPlain = true ∧ isStart (act reply) = false)
    (warranted : ∀ world shared, Consistent shared → sessionOf process shared.history = acts →
      Warranted library shared.history ⟨some process, act (@serve Row process world operation shared).1⟩) :
    Adds library Row process operation acts (fun reply added => added = act reply) fun _ => False := by
  intro world shared sound session
  rw [records]
  exact ⟨sound.2.record (plain _).1, .inr ⟨_, rfl, (plain _).2, warranted world shared sound.2 session, rfl⟩⟩

theorem adds_readScope :
    Adds library Row process .readScope [.started .listConnections] (fun scope added => added = .listed scope) fun _ => False :=
  @adds_plain Row library process [.started .listConnections] .readScope .listed (fun _ _ => rfl) (fun _ => ⟨rfl, rfl⟩)
    fun _ _ consistent session => .listed session consistent.scope

theorem adds_query {readOnly : Bool} {profile : SavedProfile} {password : String} {request : QueryRequest}
    (warranted : ∀ earlier, sessionOf process earlier = acts →
      Warranted library earlier ⟨some process, .dispatched readOnly profile request⟩) :
    Adds library Row process (.query readOnly profile password request) acts
      (fun _ added => added = .dispatched readOnly profile request) fun _ => False :=
  @adds_plain Row library process acts (.query readOnly profile password request) (fun _ => .dispatched readOnly profile request)
    (fun _ _ => rfl) (fun _ => ⟨rfl, rfl⟩) fun _ shared _ session => warranted shared.history session

theorem requireMysql_ok {faults : Faults} {shared : Shared} {profile : SavedProfile}
    (ok : requireMysql faults connectionId shared = .ok profile) : shared.connectionScope.allows connectionId = true := by
  unfold requireMysql at ok
  cases allows : shared.connectionScope.allows connectionId with
  | true => rfl
  | false => simp [allows] at ok

theorem adds_requireMysql (names : launch.connection library = some connectionId) :
    Adds library Row process (.requireMysql connectionId) [.started launch]
      (fun _ added => ∃ scope, added = .granted connectionId scope) fun reply => ∃ error, reply = .error error := by
  intro world shared sound session
  cases result : requireMysql world.faults connectionId shared with
  | error error =>
    have served : @serve Row process world (.requireMysql connectionId) shared = (.error error, shared) := by
      simp only [serve, result, recordOk_error]
    rw [served]
    exact ⟨sound.2, .inl ⟨⟨error, rfl⟩, rfl⟩⟩
  | ok profile =>
    have served : @serve Row process world (.requireMysql connectionId) shared =
        (.ok profile, shared.record process (.granted connectionId shared.connectionScope)) := by
      simp only [serve, result, recordOk_ok]
    rw [served]
    refine ⟨sound.2.record rfl, .inr ⟨_, ⟨_, rfl⟩, rfl, ?_, rfl⟩⟩
    exact .granted session names sound.2.scope (requireMysql_ok result)

theorem adds_propose {scope : McpConnectionScope} {sourceTool : String} (statement : launch.statement = some sql) (nonempty : sql ≠ "") :
    Adds library Row process (.propose connectionId sql (SqlPolicy.classifySql (SqlPolicy.asBytes sql)) sourceTool)
      [.granted connectionId scope, .started launch]
      (fun reply added => ∃ proposal, reply = .ok proposal ∧ added = .proposed proposal ∧ proposal.connectionId = connectionId ∧
        proposal.risk = SqlPolicy.classifySql (SqlPolicy.asBytes sql))
      fun reply => ∃ error, reply = .error error := by
  intro world shared sound session
  rcases McpQueue.propose_cases sound.2.room world.uuid connectionId sql (SqlPolicy.classifySql (SqlPolicy.asBytes sql))
    sourceTool world.now with ⟨error, refused⟩ | ⟨kept, admitted, keeps⟩
  · have served : @serve Row process world (.propose connectionId sql (SqlPolicy.classifySql (SqlPolicy.asBytes sql)) sourceTool)
        shared = (.error error, shared) := by
      simp only [serve, refused, recordOk_error]
    rw [served]
    exact ⟨sound.2, .inl ⟨⟨error, rfl⟩, rfl⟩⟩
  · simp only [serve, admitted, recordOk_ok]
    refine ⟨sound.2.propose keeps, .inr ⟨_, ⟨_, rfl, rfl, rfl, rfl⟩, rfl, ?_, rfl⟩⟩
    exact .proposed session statement nonempty rfl rfl

theorem adds_claimForExecute {proposalId : Uuid} :
    Adds library Row process (.claimForExecute proposalId) [.started (.executeProposal proposalId)]
      (fun reply added => ∃ proposal, reply = .ok proposal ∧ added = .claimed proposal ∧ proposal.id = proposalId)
      fun reply => ∃ error, reply = .error error := by
  intro world shared sound session
  rcases McpQueue.claim_cases shared.queue proposalId "Only pending proposals can be executed" McpQueue.markExecuting with
    ⟨error, refused⟩ | ⟨proposal, member, rfl, pending, claimed⟩
  · have served : @serve Row process world (.claimForExecute proposalId) shared = (.error error, shared) := by
      simp only [serve, McpQueue.claimForExecute, refused, recordOk_error]
    rw [served]
    exact ⟨sound.2, .inl ⟨⟨error, rfl⟩, rfl⟩⟩
  · simp only [serve, McpQueue.claimForExecute, claimed, recordOk_ok]
    refine ⟨sound.2.claim member pending, .inr ⟨_, ⟨_, rfl, rfl, rfl⟩, rfl, ?_, rfl⟩⟩
    obtain ⟨other, original, queued, reviewed⟩ := sound.2.reviewed proposal member
    exact .claimed session queued ⟨reviewed.id, reviewed.connection, reviewed.sql, reviewed.risk⟩

theorem adds_writeScope {restrictToConnection : Bool} {targetConnectionIds : List Uuid}
    (selected : restrictToConnection = true → targetConnectionIds ≠ []) :
    Adds library Row process (.writeScope ⟨restrictToConnection, uniqueIds targetConnectionIds⟩)
      [.started (.setConnectionScope restrictToConnection targetConnectionIds)]
      (fun _ added => added = .rescoped ⟨restrictToConnection, uniqueIds targetConnectionIds⟩) fun _ => False :=
  fun _ _ sound session => ⟨sound.2.rescope, .inr ⟨_, rfl, rfl, .rescoped session selected, rfl⟩⟩

end

/-! ### What each call does -/

abbrev Doing {ε α Row : Type} (library : UuidLibrary) (process : Nat) (acts : List Act) (post : α → List Act → Prop)
    (task : Task Row ε α) : Prop :=
  (journal library).Does (@serve Row process) process acts (Succeeds post) task

/-- What a tool answers says what its call has done. -/
inductive Truthful {Row : Type} : ToolResponse Row → List Act → Prop
  | connections {profiles : List SavedProfile} {scope : McpConnectionScope} (visible : ∀ profile ∈ profiles, scope.allows profile.id = true) :
      Truthful (.connections profiles) [.listed scope, .started .listConnections]
  | summary {result : CollectedQueryResult Row} {profile : SavedProfile} {request : QueryRequest} {connectionId : Uuid}
      {scope : McpConnectionScope} {launch : Launch} (clean : result.error = none) (bounded : result.rows.length ≤ mcpReadonlyRowLimit) :
      Truthful (.summary result) [.dispatched true profile request, .granted connectionId scope, .started launch]
  | queuedForConfirmation {proposal : PendingSqlProposal} {scope : McpConnectionScope} {launch : Launch} (write : proposal.risk ≠ .read) :
      Truthful (.queuedForConfirmation proposal.id (lowerRisk proposal.risk))
        [.proposed proposal, .granted proposal.connectionId scope, .started launch]
  | queued {proposal : PendingSqlProposal} {scope : McpConnectionScope} {launch : Launch} :
      Truthful (.queued proposal.id (lowerRisk proposal.risk))
        [.proposed proposal, .granted proposal.connectionId scope, .started launch]

/-- What a command of the user has done where it succeeds. -/
inductive Fulfilled : List Act → Prop
  | executed {proposal : PendingSqlProposal} {profile : SavedProfile} {request : QueryRequest}
      (targets : Targets proposal.connectionId proposal.sql profile request) :
      Fulfilled [.dispatched false profile request, .claimed proposal, .started (.executeProposal proposal.id)]
  | dismissed (proposalId : Uuid) : Fulfilled [.started (.dismissProposal proposalId)]
  | typed {connectionId : Uuid} {sql : String} {profile : SavedProfile} {request : QueryRequest}
      (targets : Targets connectionId (Text.trim sql) profile request) :
      Fulfilled [.dispatched false profile request, .started (.runManualSql connectionId sql)]
  | rescoped (restrictToConnection : Bool) (targetConnectionIds : List Uuid) :
      Fulfilled [.rescoped ⟨restrictToConnection, uniqueIds targetConnectionIds⟩,
        .started (.setConnectionScope restrictToConnection targetConnectionIds)]
  | stored (call : StoreCommands.Call) : Fulfilled [.started (.callStore call)]

section
variable {ε ε' α β Row : Type} {library : UuidLibrary} {process : Nat} {acts : List Act} {post : α → List Act → Prop}
variable {launch : Launch} {connectionId : Uuid} {sql : String} {scope : McpConnectionScope}

theorem doing_result {result : Except ε α} (held : Succeeds post result acts) :
    Doing library process acts post (decided result : Task Row ε α) := Journal.Does.done held

theorem doing_decided {result : Except ε β} {next : β → Task Row ε α}
    (rest : ∀ value, result = .ok value → Doing library process acts post (next value)) :
    Doing library process acts post (decided result >>= next) := by
  cases result with
  | error error => exact Journal.Does.error error
  | ok value => exact rest value rfl

theorem doing_adapt {task : Task Row ε α} {report : ε → ε'} (does : Doing library process acts post task) :
    Doing library process acts post (task.adapt report) := by
  refine Journal.Does.bind does ?_
  intro outcome last held
  refine Journal.Does.done ?_
  cases outcome with
  | error error => exact succeeds_error _
  | ok value => exact succeeds_ok (held value rfl)

theorem findMySqlProfile_ok {profiles : List SavedProfile} {profile : SavedProfile}
    (ok : findMySqlProfile profiles connectionId = .ok profile) : profile.id = connectionId ∧ profile.engine = .mySql := by
  unfold findMySqlProfile at ok
  cases found : profiles.find? fun profile => profile.id = connectionId with
  | none => simp [found] at ok
  | some candidate =>
    have same : candidate.id = connectionId := by simpa using List.find?_some found
    simp only [found] at ok
    split at ok
    · cases ok
    · next engine =>
      obtain rfl := Except.ok.inj ok
      exact ⟨same, not_not.mp engine⟩

theorem collect_bounded (rowLimit : Nat) (delivered : List (QueryEvent Row)) :
    (collectQueryEvents rowLimit delivered).rows.length ≤ rowLimit := by
  rw [collect_rows]
  exact List.length_take_le _ _

/-- What a query that was run has left behind. -/
def Ran (readOnly : Bool) (connectionId : Uuid) (sql : String) (rowLimit : Nat) (acts : List Act)
    (result : CollectedQueryResult Row) (last : List Act) : Prop :=
  ∃ profile request, last = .dispatched readOnly profile request :: acts ∧ Targets connectionId sql profile request ∧
    result.rows.length ≤ rowLimit

theorem doing_executeCollected {source : ExecutionSource} {rowLimit : Nat}
    (warranted : ∀ profile request earlier, requirePolicy sql source = .ok () → Targets connectionId sql profile request →
      sessionOf process earlier = acts → Warranted library earlier ⟨some process, .dispatched (source = .mcp) profile request⟩) :
    Doing library process acts (Ran (source = .mcp) connectionId sql rowLimit acts)
      (executeCollected connectionId sql source rowLimit : Task Row _ _) := by
  refine doing_decided fun _ policy => ?_
  refine Journal.Does.quietly quiet_listConnections fun profiles => ?_
  refine doing_decided fun profile found => ?_
  refine Journal.Does.quietly quiet_getConnectionCredential fun password => ?_
  refine Journal.Does.quietly quiet_newUuid fun queryId => ?_
  obtain ⟨same, engine⟩ := findMySqlProfile_ok found
  have targets : Targets connectionId sql profile { queryId, connectionId, sql, database := none } := ⟨engine, same, rfl, rfl⟩
  have dispatches : Doing library process acts
      (fun _ last => last = .dispatched (source = .mcp) profile { queryId, connectionId, sql, database := none } :: acts)
      (reading (.query (source = .mcp) profile password { queryId, connectionId, sql, database := none }) .ok : Task Row AppError _) := by
    refine Journal.Does.attempt_adds (adds_query fun earlier => warranted _ _ earlier policy targets) ?_ ?_
    · exact fun _ silent => silent.elim
    · rintro events _ rfl
      exact succeeds_ok rfl
  refine Journal.Does.andThen dispatches ?_
  rintro events _ rfl
  exact Journal.Does.ok ⟨profile, _, rfl, targets, collect_bounded rowLimit events⟩

theorem requirePolicy_mcp (policy : requirePolicy sql .mcp = .ok ()) :
    SqlPolicy.mcpMayExecute (SqlPolicy.asBytes sql) = .ok () := by
  rw [requirePolicy, if_pos rfl] at policy
  cases allowed : SqlPolicy.mcpMayExecute (SqlPolicy.asBytes sql) with
  | ok _ => rfl
  | error blocked =>
    rw [allowed] at policy
    cases policy

theorem doing_reportQuery {tool : String} (statement : launch.statement = some sql) :
    Doing library process [.granted connectionId scope, .started launch] Truthful
      (reportQuery tool connectionId sql : Task Row _ _) := by
  have runs : Doing library process [.granted connectionId scope, .started launch]
      (Ran true connectionId sql mcpReadonlyRowLimit [.granted connectionId scope, .started launch])
      (executeReadonlyMcp connectionId sql : Task Row _ _) :=
    doing_executeCollected fun profile request earlier policy targets session =>
      .readOnly session statement (requirePolicy_mcp policy) targets
  refine Journal.Does.andThen (doing_adapt runs) ?_
  rintro result _ ⟨profile, request, rfl, -, bounded⟩
  refine Journal.Does.quietly quiet_pushActivity fun _ => doing_result ?_
  cases clean : result.error with
  | some error => exact succeeds_error _
  | none => exact succeeds_ok (.summary clean bounded)

/-- A tool goes on with the connection that it names, granted. -/
theorem doing_authorized {text : String} {next : Uuid → Task Row McpError (ToolResponse Row)}
    {post : ToolResponse Row → List Act → Prop} (names : launch.connection library = library.parseStr (Text.trim text))
    (rest : ∀ connectionId scope, Doing library process [.granted connectionId scope, .started launch] post (next connectionId)) :
    Doing library process [.started launch] post (authorized library text >>= next) := by
  have grants : Doing library process [.started launch] (fun connectionId last => ∃ scope, last = [.granted connectionId scope, .started launch])
      (authorized library text : Task Row _ _) := by
    refine doing_decided fun connectionId parsed => ?_
    have named : launch.connection library = some connectionId := by
      rw [names]
      unfold parseUuid at parsed
      cases found : library.parseStr (Text.trim text) with
      | none => simp [found] at parsed
      | some id =>
        rw [found] at parsed
        exact congrArg some (Except.ok.inj parsed)
    have asks : Doing library process [.started launch] (fun _ last => ∃ scope, last = [.granted connectionId scope, .started launch])
        (reading (.requireMysql connectionId) id : Task Row McpError SavedProfile) := by
      refine Journal.Does.attempt_adds (adds_requireMysql named) ?_ ?_
      · rintro _ ⟨error, rfl⟩
        exact succeeds_error error
      · rintro reply _ ⟨scope, rfl⟩ profile -
        exact ⟨scope, rfl⟩
    refine Journal.Does.andThen asks ?_
    rintro profile _ ⟨scope, rfl⟩
    exact Journal.Does.ok ⟨scope, rfl⟩
  refine Journal.Does.andThen grants ?_
  rintro granted _ ⟨scope, rfl⟩
  exact rest granted scope

theorem doing_propose {sourceTool : String} (statement : launch.statement = some sql) (nonempty : sql ≠ "") :
    Doing library process [.granted connectionId scope, .started launch]
      (fun proposal last => last = [.proposed proposal, .granted proposal.connectionId scope, .started launch] ∧
        proposal.risk = SqlPolicy.classifySql (SqlPolicy.asBytes sql))
      (propose connectionId sql (SqlPolicy.classifySql (SqlPolicy.asBytes sql)) sourceTool : Task Row _ _) := by
  have asks : Doing library process [.granted connectionId scope, .started launch]
      (fun proposal last => last = [.proposed proposal, .granted proposal.connectionId scope, .started launch] ∧
        proposal.risk = SqlPolicy.classifySql (SqlPolicy.asBytes sql))
      (reading (.propose connectionId sql (SqlPolicy.classifySql (SqlPolicy.asBytes sql)) sourceTool) reported : Task Row _ _) := by
    refine Journal.Does.attempt_adds (adds_propose statement nonempty) ?_ ?_
    · rintro _ ⟨error, rfl⟩
      exact succeeds_error _
    · rintro _ _ ⟨proposal, rfl, rfl, rfl, risk⟩
      exact succeeds_ok ⟨rfl, risk⟩
  refine Journal.Does.andThen asks ?_
  rintro proposal _ ⟨rfl, risk⟩
  exact Journal.Does.quietly quiet_pushActivity fun _ => Journal.Does.ok ⟨rfl, risk⟩

theorem required_ok {argument value text : String} (ok : required argument value = .ok text) :
    text = Text.trim value ∧ text ≠ "" := by
  unfold required at ok
  by_cases empty : Text.trim value = ""
  · simp [empty] at ok
  · simp only [empty, ↓reduceIte] at ok
    obtain rfl := Except.ok.inj ok
    exact ⟨rfl, empty⟩

theorem doing_listConnections :
    Doing library process [.started .listConnections] Truthful (listConnections : Task Row _ _) := by
  refine Journal.Does.quietly quiet_listConnections fun profiles => ?_
  have reads : Doing library process [.started .listConnections] (fun scope last => last = [.listed scope, .started .listConnections])
      (reading .readScope .ok : Task Row McpError _) := by
    refine Journal.Does.attempt_adds adds_readScope ?_ ?_
    · exact fun _ silent => silent.elim
    · rintro scope _ rfl
      exact succeeds_ok rfl
  refine Journal.Does.andThen reads ?_
  rintro scope _ rfl
  refine Journal.Does.quietly quiet_pushActivity fun _ => Journal.Does.ok (.connections ?_)
  intro profile member
  cases restricted : scope.restrictToConnection with
  | false => simp [McpConnectionScope.allows, restricted]
  | true =>
    rw [restricted] at member
    exact (List.mem_filter.mp member).2

theorem doing_listTables (text : String) :
    Doing library process [.started (.listTables text)] Truthful (listTables library text : Task Row _ _) :=
  doing_authorized rfl fun _ _ => doing_reportQuery rfl

theorem doing_describeTable (text tableName : String) :
    Doing library process [.started (.describeTable text tableName)] Truthful (describeTable library text tableName : Task Row _ _) := by
  have names : (Launch.describeTable text tableName).connection library = library.parseStr (Text.trim text) := rfl
  refine doing_authorized names ?_
  intro connectionId scope
  refine doing_decided ?_
  intro table checked
  apply doing_reportQuery
  rw [(required_ok checked).1]
  rfl

theorem doing_runReadonlyQuery (text sql : String) :
    Doing library process [.started (.runReadonlyQuery text sql)] Truthful (runReadonlyQuery library text sql : Task Row _ _) := by
  have names : (Launch.runReadonlyQuery text sql).connection library = library.parseStr (Text.trim text) := rfl
  refine doing_authorized names ?_
  intro connectionId scope
  refine doing_decided ?_
  intro trimmed checked
  obtain ⟨rfl, nonempty⟩ := required_ok checked
  by_cases read : SqlPolicy.classifySql (SqlPolicy.asBytes (Text.trim sql)) = .read
  · rw [if_neg (not_not.mpr read)]
    exact doing_reportQuery rfl
  · rw [if_pos read]
    refine Journal.Does.andThen (doing_propose rfl nonempty) ?_
    rintro proposal _ ⟨rfl, risk⟩
    rw [← risk] at read ⊢
    exact Journal.Does.ok (.queuedForConfirmation read)

theorem doing_proposeSql (text sql : String) :
    Doing library process [.started (.proposeSql text sql)] Truthful (proposeSql library text sql : Task Row _ _) := by
  have names : (Launch.proposeSql text sql).connection library = library.parseStr (Text.trim text) := rfl
  refine doing_authorized names ?_
  intro connectionId scope
  refine doing_decided ?_
  intro trimmed checked
  obtain ⟨rfl, nonempty⟩ := required_ok checked
  refine Journal.Does.andThen (doing_propose rfl nonempty) ?_
  rintro proposal _ ⟨rfl, risk⟩
  rw [← risk]
  exact Journal.Does.ok .queued

theorem proposalOutcome_settled (result : Except AppError (CollectedQueryResult Row)) :
    (proposalOutcome result).1 ≠ .pending := by
  cases result with
  | error error => simp [proposalOutcome]
  | ok collected => cases clean : collected.error <;> simp [proposalOutcome, clean]

theorem doing_mcpExecuteProposal (proposalId : Uuid) :
    Doing library process [.started (.executeProposal proposalId)] (fun _ => Fulfilled)
      (mcpExecuteProposal proposalId : Task Row _ _) := by
  have claims : Doing library process [.started (.executeProposal proposalId)]
      (fun proposal last => last = [.claimed proposal, .started (.executeProposal proposal.id)] ∧ proposal.id = proposalId)
      (reading (.claimForExecute proposalId) id : Task Row AppError _) := by
    refine Journal.Does.attempt_adds adds_claimForExecute ?_ ?_
    · rintro _ ⟨error, rfl⟩
      exact succeeds_error error
    · rintro _ _ ⟨proposal, rfl, rfl, rfl⟩
      exact succeeds_ok ⟨rfl, rfl⟩
  refine Journal.Does.andThen claims ?_
  rintro proposal _ ⟨rfl, rfl⟩
  have runs : Doing library process [.claimed proposal, .started (.executeProposal proposal.id)]
      (Ran false proposal.connectionId proposal.sql mcpReadonlyRowLimit [.claimed proposal, .started (.executeProposal proposal.id)])
      (executeCollected proposal.connectionId proposal.sql .ui mcpReadonlyRowLimit : Task Row _ _) :=
    @doing_executeCollected Row library process _ _ _ .ui _ fun profile request earlier _ targets session => .confirmed session targets
  refine Journal.Does.captured runs ?_
  intro result last ran
  refine Journal.Does.quietly (quiet_updateProposal (proposalOutcome_settled result)) ?_
  intro _
  refine Journal.Does.quietly quiet_pushActivity ?_
  intro _
  apply doing_result
  cases failed : (proposalOutcome result).2.2 with
  | some message => exact succeeds_error _
  | none =>
    refine succeeds_ok ?_
    cases result with
    | error error => cases failed
    | ok collected =>
      obtain ⟨profile, request, rfl, targets, -⟩ := ran collected rfl
      exact .executed targets

theorem doing_mcpDismissProposal (proposalId : Uuid) :
    Doing library process [.started (.dismissProposal proposalId)] (fun _ => Fulfilled)
      (mcpDismissProposal proposalId : Task Row _ _) := by
  refine Journal.Does.quietly quiet_claimForDismiss ?_
  intro proposal
  refine Journal.Does.quiet quiet_pushActivity ?_
  exact fun _ => Journal.Does.ok (.dismissed proposalId)

theorem doing_mcpRunManualSql (connectionId : Uuid) (sql : String) :
    Doing library process [.started (.runManualSql connectionId sql)] (fun _ => Fulfilled)
      (mcpRunManualSql connectionId sql : Task Row _ _) := by
  refine doing_decided ?_
  intro trimmed checked
  have same : trimmed = Text.trim sql := by
    split at checked
    · cases checked
    · exact (Except.ok.inj checked).symm
  subst same
  have runs : Doing library process [.started (.runManualSql connectionId sql)]
      (Ran false connectionId (Text.trim sql) mcpReadonlyRowLimit [.started (.runManualSql connectionId sql)])
      (executeCollected connectionId (Text.trim sql) .ui mcpReadonlyRowLimit : Task Row _ _) :=
    @doing_executeCollected Row library process _ _ _ .ui _ fun profile request earlier _ targets session => .typed session targets
  refine Journal.Does.andThen runs ?_
  rintro result _ ⟨profile, request, rfl, targets, -⟩
  refine Journal.Does.quietly quiet_pushActivity ?_
  intro _
  apply doing_result
  cases failed : result.error with
  | some message => exact succeeds_error _
  | none => exact succeeds_ok (.typed targets)

theorem doing_requireConnections (connectionIds : List Uuid) :
    Doing library process acts (fun _ last => last = acts) (requireConnections connectionIds : Task Row _ _) := by
  induction connectionIds with
  | nil => exact Journal.Does.ok rfl
  | cons connectionId connectionIds ih =>
    refine Journal.Does.quietly quiet_getConnection ?_
    exact fun _ => ih

theorem doing_mcpSetConnectionScope (restrictToConnection : Bool) (targetConnectionIds : List Uuid) :
    Doing library process [.started (.setConnectionScope restrictToConnection targetConnectionIds)] (fun _ => Fulfilled)
      (mcpSetConnectionScope restrictToConnection targetConnectionIds : Task Row _ _) := by
  have validates : Doing library process [.started (.setConnectionScope restrictToConnection targetConnectionIds)]
      (fun _ last => last = [.started (.setConnectionScope restrictToConnection targetConnectionIds)] ∧
        (restrictToConnection = true → targetConnectionIds ≠ []))
      (validateConnectionScope ⟨restrictToConnection, uniqueIds targetConnectionIds⟩ : Task Row _ _) := by
    refine doing_decided ?_
    intro _ checked
    have selected : restrictToConnection = true → targetConnectionIds ≠ [] := by
      rintro rfl rfl
      cases checked
    refine (doing_requireConnections _).mono ?_
    exact fun result last held value same => ⟨held value same, selected⟩
  refine Journal.Does.andThen validates ?_
  rintro _ _ ⟨rfl, selected⟩
  refine Journal.Does.quietly quiet_saveSettings ?_
  intro _
  refine Journal.Does.attempt_adds (adds_writeScope selected) ?_ ?_
  · exact fun _ silent => silent.elim
  · rintro _ _ rfl
    exact succeeds_ok (.rescoped restrictToConnection targetConnectionIds)

end

end Pipa.McpService
