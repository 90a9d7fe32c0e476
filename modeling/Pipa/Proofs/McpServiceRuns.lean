import Pipa.Library.SqlPhrases
import Pipa.Proofs.McpService
import Pipa.Proofs.SqlPolicyLexing
import Pipa.Proofs.SqlPolicyPanics
import Pipa.Proofs.SqlTextUnits

/-! Safety of the tools and the panel in every run: what each call may do, how often a
proposal is run, what a restriction of the scope stops, and what the inspecting tools ask. -/

namespace Pipa.McpService
open Programs QueryRunner

/-- What a call returned goes with what it has done. -/
def Accounted {Row : Type} : Outcome Row → List Act → Prop
  | .tool result, acts => Succeeds Truthful result acts
  | .command result, acts => Succeeds (fun _ => Fulfilled) result acts

section
variable {Row : Type} {library : UuidLibrary} {process : Nat}

theorem does_answering {acts : List Act} {task : Task Row McpError (ToolResponse Row)} (does : Doing library process acts Truthful task) :
    (journal library).Does (@serve Row process) process acts Accounted (answering task) := by
  refine Journal.Does.bind does ?_
  exact fun result last held => Journal.Does.done held

theorem does_commanding {acts : List Act} {task : Task Row AppError Unit} (does : Doing library process acts (fun _ => Fulfilled) task) :
    (journal library).Does (@serve Row process) process acts Accounted (commanding task) := by
  refine Journal.Does.bind does ?_
  exact fun result last held => Journal.Does.done held

/-- Every call keeps to the journal, one case per tool and command. -/
theorem does_program (launch : Launch) :
    (journal library).Does (@serve Row process) process [.started launch] Accounted (program library launch) := by
  cases launch with
  | listConnections => exact does_answering doing_listConnections
  | listTables connectionId => exact does_answering (doing_listTables connectionId)
  | describeTable connectionId tableName => exact does_answering (doing_describeTable connectionId tableName)
  | runReadonlyQuery connectionId sql => exact does_answering (doing_runReadonlyQuery connectionId sql)
  | proposeSql connectionId sql => exact does_answering (doing_proposeSql connectionId sql)
  | executeProposal proposalId => exact does_commanding (doing_mcpExecuteProposal proposalId)
  | dismissProposal proposalId => exact does_commanding (doing_mcpDismissProposal proposalId)
  | runManualSql connectionId sql => exact does_commanding (doing_mcpRunManualSql connectionId sql)
  | setConnectionScope restrictToConnection targetConnectionIds => exact does_commanding (doing_mcpSetConnectionScope restrictToConnection targetConnectionIds)
  | callStore call =>
    refine does_commanding (Journal.Does.quiet quiet_callStore ?_)
    exact fun answer => Journal.Does.done fun _ _ => .stored call

/-! ### Every run -/

theorem sound_restarted {shared : Shared} (sound : (journal library).Sound shared) (settings : McpSettings) :
    (journal library).Sound (restarted settings shared) := by
  obtain ⟨warranted, consistent⟩ := sound
  refine ⟨⟨.restarted _, warranted⟩, ⟨rfl, Nat.zero_le _, Nat.zero_le _, fun _ member => absurd member List.not_mem_nil, ?_⟩⟩
  intro distinct
  have once := consistent.once distinct
  exact ⟨List.nodup_nil, fun _ member => absurd member List.not_mem_nil, once.claims, once.proposed,
    fun _ member => absurd member List.not_mem_nil⟩

theorem sound_launched (store : LocalStore) (settings : McpSettings) : (journal library).Sound (launched store settings) := by
  refine ⟨⟨.restarted _, trivial⟩, ⟨rfl, Nat.zero_le _, Nat.zero_le _, fun _ member => absurd member List.not_mem_nil, ?_⟩⟩
  exact fun _ => ⟨List.nodup_nil, fun _ member => absurd member List.not_mem_nil, List.nodup_nil,
    fun _ member => absurd member List.not_mem_nil, fun _ member => absurd member List.not_mem_nil⟩

/-- What the calls of a run reach, from the launch of the application. -/
def reached (Row : Type) (library : UuidLibrary) (store : LocalStore) (settings : McpSettings)
    (events : List (Programs.Event Launch (World Row) McpSettings)) : System Operation (Reply Row) Shared (Outcome Row) :=
  Runs.run (machine library).step (Machine.initial (launched store settings)) events

theorem orderly_reached (store : LocalStore) (settings : McpSettings) (events : List (Programs.Event Launch (World Row) McpSettings)) :
    Machine.Orderly (machine library) (journal library).protocol
      (fun process outcome shared => Accounted outcome (sessionOf process shared.history)) (reached Row library store settings events) := by
  refine Machine.run_orderly (Machine.orderly_initial (sound_launched store settings)) ?_ ?_ (Machine.permitted_all _ events)
  · intro process launch shared sound
    exact @Journal.admits _ _ _ _ _ _ _ _ _ (journal library) _ _ _ _ _ rfl rfl sound (.started process launch) (sound.2.record rfl)
      (does_program launch)
  · exact fun shared restart _ sound => sound_restarted sound restart

/-- In every interleaving of tool calls, commands of the user, edits of the store and restarts,
every act is warranted by what happened before it. -/
theorem calls_warranted (library : UuidLibrary) (store : LocalStore) (settings : McpSettings)
    (events : List (Programs.Event Launch (World Row) McpSettings)) :
    AllWarranted (Warranted library) (reached Row library store settings events).shared.history :=
  (orderly_reached store settings events).1.1

end

/-! ### A saved store -/

/-- Texts stand for the ids that they spell. -/
def plainUuids : UuidLibrary where
  parseStr text := if text = "" then none else some ⟨text⟩
  parse_hyphenated := by
    rintro id hyphenated
    have spelled : id.hyphenated ≠ "" := by
      intro empty
      rw [Uuid.isHyphenated, empty] at hyphenated
      revert hyphenated
      decide
    rw [if_neg spelled]
  parse_empty := rfl

def savedConnection (id : String) : ConnectionRow :=
  { id := ⟨id⟩, name := id, engine := .mySql, database := none, environment := .development, host := "127.0.0.1", port := 3306
    username := "developer", tlsMode := .preferred, updatedAt := "" }

def twoConnections : LocalStore :=
  { (default : LocalStore) with
    connections := ⟨[savedConnection "c", savedConnection "d"], by decide⟩
    credentials := ⟨[⟨⟨"c"⟩, "secret"⟩, ⟨⟨"d"⟩, "secret"⟩], by decide⟩ }

/-- A world in which nothing fails. -/
def calm (uuid : String) : World Unit where
  faults _ := none
  uuid := ⟨uuid⟩
  now := ""
  mysql _ _ _ request := ([.completed request.queryId 1], .ok ())

/-- One call takes so many steps. -/
def steps (process count : Nat) (uuid : String) : List (Programs.Event Launch (World Unit) McpSettings) :=
  List.replicate count (.advance process (calm uuid))

def unrestricted : McpSettings := ⟨true, 3847, false, []⟩

/-- A client proposes a statement, and the user executes it. -/
def confirmation : List (Programs.Event Launch (World Unit) McpSettings) :=
  .start 0 (.proposeSql "c" "DELETE FROM t") :: steps 0 3 "p" ++ .start 1 (.executeProposal ⟨"p"⟩) :: steps 1 7 "q"

/-- The scope is restricted while a query of a client is under way. -/
def restriction : List (Programs.Event Launch (World Unit) McpSettings) :=
  .start 0 (.runReadonlyQuery "c" "SELECT 1") :: steps 0 1 "" ++ .start 1 (.setConnectionScope true [⟨"d"⟩]) :: steps 1 3 "" ++ steps 0 4 "q"

/-- The proposal whose statement an entry runs: the one that its call has just claimed. -/
def ranProposal (earlier : History) : Entry Act → Option PendingSqlProposal
  | ⟨some process, .dispatched false _ _⟩ => match (sessionOf process earlier).head? with
    | some (.claimed proposal) => some proposal
    | _ => none
  | _ => none

/-- The proposals whose statements were run, once for each run. -/
def confirmedIds : History → List Uuid
  | [] => []
  | entry :: earlier => ((ranProposal earlier entry).map PendingSqlProposal.id).toList ++ confirmedIds earlier

/-- Every call that has claimed a proposal, and not yet run it, is the only one that may run it. -/
structure HeldOnce (history : History) : Prop where
  ran : (confirmedIds history).Nodup
  claimed : ∀ id ∈ confirmedIds history, id ∈ claimedIds history
  held : ∀ process proposal, (sessionOf process history).head? = some (.claimed proposal) →
    proposal.id ∈ claimedIds history ∧ proposal.id ∉ confirmedIds history
  alone : ∀ process other proposal another, (sessionOf process history).head? = some (.claimed proposal) →
    (sessionOf other history).head? = some (.claimed another) → proposal.id = another.id → process = other

section
variable {process : Nat} {act : Act} {entry : Entry Act} {earlier : History} {proposal : PendingSqlProposal}

theorem head_own : (sessionOf process (⟨some process, act⟩ :: earlier)).head? = some act := by
  rw [sessionOf, session, if_pos rfl]
  split <;> rfl

theorem head_other (other : entry.process ≠ some process) :
    (sessionOf process (entry :: earlier)).head? = (sessionOf process earlier).head? := by
  rw [sessionOf, session_other other]
  rfl

/-- An act that is no claim leaves the processes that hold a claim among those that held it. -/
theorem head_claimed (unclaimed : ∀ found, entry.act ≠ .claimed found)
    (holds : (sessionOf process (entry :: earlier)).head? = some (.claimed proposal)) :
    (sessionOf process earlier).head? = some (.claimed proposal) ∧ entry.process ≠ some process := by
  obtain ⟨owner, act⟩ := entry
  have other : owner ≠ some process := by
    rintro rfl
    rw [head_own] at holds
    exact unclaimed proposal (Option.some.inj holds)
  exact ⟨(head_other other).symm.trans holds, other⟩

theorem HeldOnce.skip (once : HeldOnce earlier) (unclaimed : ∀ found, entry.act ≠ .claimed found)
    (idle : ranProposal earlier entry = none) (claimed : claimedIds (entry :: earlier) = claimedIds earlier) :
    HeldOnce (entry :: earlier) := by
  have ran : confirmedIds (entry :: earlier) = confirmedIds earlier := by rw [confirmedIds, idle]; rfl
  refine ⟨ran ▸ once.ran, ?_, ?_, ?_⟩
  · exact fun id member => claimed ▸ once.claimed id (ran ▸ member)
  · intro process proposal holds
    rw [ran, claimed]
    exact once.held process proposal (head_claimed unclaimed holds).1
  · intro process other proposal another holds others
    exact once.alone process other proposal another (head_claimed unclaimed holds).1 (head_claimed unclaimed others).1

theorem HeldOnce.claim (once : HeldOnce earlier) (fresh : proposal.id ∉ claimedIds earlier) :
    HeldOnce (⟨some process, .claimed proposal⟩ :: earlier) := by
  have unran : proposal.id ∉ confirmedIds earlier := fun member => fresh (once.claimed _ member)
  -- who holds a claim now held it before, or is the process that has just claimed
  have holders (holder : Nat) (held : PendingSqlProposal)
      (holds : (sessionOf holder (⟨some process, .claimed proposal⟩ :: earlier)).head? = some (.claimed held)) :
      holder = process ∧ held = proposal ∨ held.id ≠ proposal.id ∧ (sessionOf holder earlier).head? = some (.claimed held) := by
    by_cases own : process = holder
    · subst own
      rw [head_own] at holds
      exact .inl ⟨rfl, (Act.claimed.inj (Option.some.inj holds)).symm⟩
    · rw [head_other fun same => own (Option.some.inj same)] at holds
      refine .inr ⟨?_, holds⟩
      exact fun same => fresh (same ▸ (once.held holder held holds).1)
  refine ⟨once.ran, fun id member => List.mem_cons_of_mem _ (once.claimed id member), ?_, ?_⟩
  · intro holder held holds
    rcases holders holder held holds with ⟨rfl, rfl⟩ | ⟨_, before⟩
    · exact ⟨List.mem_cons_self, unran⟩
    · obtain ⟨known, unran⟩ := once.held holder held before
      exact ⟨List.mem_cons_of_mem _ known, unran⟩
  · intro holder other held another holds others same
    rcases holders holder held holds with ⟨rfl, rfl⟩ | ⟨different, before⟩
    · rcases holders other another others with ⟨rfl, _⟩ | ⟨different, _⟩
      · rfl
      · exact absurd same.symm different
    · rcases holders other another others with ⟨_, rfl⟩ | ⟨_, also⟩
      · exact absurd same different
      · exact once.alone holder other held another before also same

theorem of_ranProposal {owner : Option Nat} (ran : ranProposal earlier ⟨owner, act⟩ = some proposal) :
    ∃ process, owner = some process ∧ (sessionOf process earlier).head? = some (.claimed proposal) := by
  unfold ranProposal at ran
  split at ran
  · next process profile request same =>
    obtain ⟨rfl, rfl⟩ : owner = some process ∧ act = .dispatched false profile request := by simpa using same
    split at ran
    · next found holds => exact ⟨process, rfl, Option.some.inj ran ▸ holds⟩
    · cases ran
  · cases ran

theorem HeldOnce.run (once : HeldOnce earlier) (unclaimed : ∀ found, act ≠ .claimed found)
    (ran : ranProposal earlier ⟨some process, act⟩ = some proposal) (holds : (sessionOf process earlier).head? = some (.claimed proposal))
    (claimed : claimedIds (⟨some process, act⟩ :: earlier) = claimedIds earlier) : HeldOnce (⟨some process, act⟩ :: earlier) := by
  obtain ⟨known, unran⟩ := once.held process proposal holds
  have more : confirmedIds (⟨some process, act⟩ :: earlier) = proposal.id :: confirmedIds earlier := by rw [confirmedIds, ran]; rfl
  refine ⟨?_, ?_, ?_, ?_⟩
  · rw [more]
    exact List.nodup_cons.mpr ⟨unran, once.ran⟩
  · rw [more, claimed]
    exact List.forall_mem_cons.mpr ⟨known, once.claimed⟩
  · intro holder held now
    obtain ⟨before, other⟩ := head_claimed unclaimed now
    rw [more, claimed, List.mem_cons, not_or]
    obtain ⟨known, unran⟩ := once.held holder held before
    refine ⟨known, ?_, unran⟩
    exact fun same => other (congrArg some (once.alone process holder proposal held holds before same.symm))
  · intro holder other held another now others
    exact once.alone holder other held another (head_claimed unclaimed now).1 (head_claimed unclaimed others).1

end

/-- Where no id is claimed twice, no proposal is run twice. -/
theorem heldOnce_of_claims {history : History} (claims : (claimedIds history).Nodup)
    (owned : ∀ entry ∈ history, entry.process = none → ∀ proposal, entry.act ≠ .claimed proposal) : HeldOnce history := by
  induction history with
  | nil =>
    refine ⟨List.nodup_nil, fun _ member => absurd member List.not_mem_nil, ?_, ?_⟩
    · intro process proposal holds
      cases holds
    · intro process other proposal another holds
      cases holds
  | cons entry earlier ih =>
    obtain ⟨here, before⟩ := List.forall_mem_cons.mp owned
    obtain ⟨owner, act⟩ := entry
    by_cases claim : ∃ proposal, act = .claimed proposal
    · obtain ⟨proposal, rfl⟩ := claim
      obtain ⟨fresh, rest⟩ : proposal.id ∉ claimedIds earlier ∧ (claimedIds earlier).Nodup := List.nodup_cons.mp claims
      cases owner with
      | none => exact absurd rfl (here rfl proposal)
      | some process => exact (ih rest before).claim fresh
    · have unclaimed (found : PendingSqlProposal) : act ≠ .claimed found := fun same => claim ⟨found, same⟩
      have claimed : claimedIds (⟨owner, act⟩ :: earlier) = claimedIds earlier := by
        cases act <;> first | rfl | exact absurd rfl (unclaimed _)
      have once := ih (claimed ▸ claims) before
      cases ran : ranProposal earlier ⟨owner, act⟩ with
      | none => exact once.skip unclaimed ran claimed
      | some proposal =>
        obtain ⟨process, rfl, holds⟩ := of_ranProposal ran
        exact once.run unclaimed ran holds claimed

section
variable {Row : Type} {library : UuidLibrary}

theorem warranted_reached (store : LocalStore) (settings : McpSettings) (events : List (Programs.Event Launch (World Row) McpSettings)) :
    AllWarranted (Warranted library) (reached Row library store settings events).shared.history :=
  (orderly_reached store settings events).1.1

theorem consistent_reached (store : LocalStore) (settings : McpSettings) (events : List (Programs.Event Launch (World Row) McpSettings)) :
    Consistent (reached Row library store settings events).shared :=
  have orderly := @orderly_reached Row library store settings events
  orderly.1.2

/-- Where no id was drawn twice, every proposal is run at most once, however the calls that
confirm it interleave and wherever they end. -/
theorem proposals_run_once (library : UuidLibrary) (store : LocalStore) (settings : McpSettings)
    (events : List (Programs.Event Launch (World Row) McpSettings)) (distinct : Distinct (reached Row library store settings events).shared.history) :
    (confirmedIds (reached Row library store settings events).shared.history).Nodup := by
  refine (heldOnce_of_claims ((consistent_reached store settings events).once distinct).claims ?_).ran
  rintro ⟨owner, act⟩ member rfl proposal rfl
  obtain ⟨later, earlier, split⟩ := List.append_of_mem member
  have allowed : Warranted library earlier ⟨none, .claimed proposal⟩ :=
    AllWarranted.split (split ▸ warranted_reached store settings events)
  cases allowed

theorem proposals_run_once_confirmed :
    (confirmedIds (reached Unit plainUuids twoConnections unrestricted confirmation).shared.history).Nodup ∧
      confirmedIds (reached Unit plainUuids twoConnections unrestricted confirmation).shared.history = [⟨"p"⟩] :=
  ⟨proposals_run_once plainUuids twoConnections unrestricted confirmation (by unfold Distinct; decide +kernel), by decide +kernel⟩

/-! ### Restrictions -/

/-- What a tool does with a connection. -/
def Act.Reaches (connectionId : Uuid) : Act → Prop
  | .proposed proposal => proposal.connectionId = connectionId
  | .dispatched true _ request => request.connectionId = connectionId
  | _ => False

theorem inForce_append (later : History) (writer : Option Nat) (scope : McpConnectionScope) (earlier : History) :
    (∃ entry ∈ later, ∃ other, entry.act = .rescoped other ∧ inForce (later ++ ⟨writer, .rescoped scope⟩ :: earlier) = some other) ∨
      inForce (later ++ ⟨writer, .rescoped scope⟩ :: earlier) = some scope := by
  induction later with
  | nil => exact .inr rfl
  | cons entry later ih =>
    by_cases writes : ∃ other, entry.act = .rescoped other
    · obtain ⟨other, same⟩ := writes
      refine .inl ⟨entry, List.mem_cons_self, other, same, ?_⟩
      simp [inForce, same]
    · have skip : inForce (entry :: (later ++ ⟨writer, .rescoped scope⟩ :: earlier)) =
          inForce (later ++ ⟨writer, .rescoped scope⟩ :: earlier) := by
        rw [inForce, List.findSome?_cons]
        cases act : entry.act <;> first | rfl | exact absurd ⟨_, act⟩ writes
      rw [List.cons_append, skip]
      rcases ih with ⟨found, member, rest⟩ | same
      · exact .inl ⟨found, List.mem_cons_of_mem _ member, rest⟩
      · exact .inr same

section
variable {newer middle earlier history : History} {writer : Option Nat} {process : Nat} {scope : McpConnectionScope} {connectionId : Uuid}

/-- Nobody is granted a connection that stays outside the scope. -/
theorem ungranted {granted : McpConnectionScope} (warranted : AllWarranted (Warranted library) history)
    (split : history = newer ++ ⟨some process, .granted connectionId granted⟩ :: (middle ++ ⟨writer, .rescoped scope⟩ :: earlier))
    (excluded : scope.allows connectionId = false)
    (stays : ∀ entry ∈ middle, ∀ other, entry.act = .rescoped other → other.allows connectionId = false) : False := by
  have allowed : Warranted library (middle ++ ⟨writer, .rescoped scope⟩ :: earlier) ⟨some process, .granted connectionId granted⟩ :=
    AllWarranted.split (split ▸ warranted)
  cases allowed with
  | granted call names current allows =>
    rcases inForce_append middle writer scope earlier with
      ⟨entry, member, other, same, written⟩ | written
    · obtain rfl := Option.some.inj (current.symm.trans written)
      exact Bool.false_ne_true ((stays entry member _ same).symm.trans allows)
    · obtain rfl := Option.some.inj (current.symm.trans written)
      exact Bool.false_ne_true (excluded.symm.trans allows)

/-- What a process has done last behind an entry is behind it, or before it where it has done nothing since. -/
theorem session_split {entry : Entry Act} {act : Act} {acts : List Act}
    (same : sessionOf process (middle ++ entry :: earlier) = act :: acts) :
    (∃ before after, middle = before ++ ⟨some process, act⟩ :: after) ∨
      (∀ other ∈ middle, other.process ≠ some process) ∧ sessionOf process (entry :: earlier) = act :: acts := by
  induction middle with
  | nil => exact .inr ⟨fun _ member => absurd member List.not_mem_nil, same⟩
  | cons first middle ih =>
    by_cases own : first.process = some process
    · obtain ⟨owner, found⟩ := first
      obtain rfl : owner = some process := own
      have newest : found = act := by
        have head := congrArg List.head? same
        rw [List.cons_append, head_own] at head
        exact Option.some.inj head
      exact .inl ⟨[], middle, newest ▸ rfl⟩
    · rw [List.cons_append, sessionOf, session_other own] at same
      rcases ih same with ⟨before, after, rfl⟩ | ⟨others, same⟩
      · exact .inl ⟨first :: before, after, rfl⟩
      · exact .inr ⟨List.forall_mem_cons.mpr ⟨own, others⟩, same⟩

/-- A call that was granted an excluded connection was granted it before, and has done nothing since. -/
theorem granted_before {launch : Launch} {act : Act} {granted : McpConnectionScope}
    (warranted : AllWarranted (Warranted library) history)
    (split : history = newer ++ ⟨some process, act⟩ :: (middle ++ ⟨writer, .rescoped scope⟩ :: earlier))
    (excluded : scope.allows connectionId = false)
    (stays : ∀ entry ∈ middle, ∀ other, entry.act = .rescoped other → other.allows connectionId = false)
    (call : sessionOf process (middle ++ ⟨writer, .rescoped scope⟩ :: earlier) = [.granted connectionId granted, .started launch]) :
    (∀ entry ∈ middle, entry.process ≠ some process) ∧ sessionOf process earlier = [.granted connectionId granted, .started launch] := by
  rcases session_split call with ⟨before, after, rfl⟩ | ⟨others, same⟩
  · have again : history = (newer ++ ⟨some process, act⟩ :: before) ++
        ⟨some process, .granted connectionId granted⟩ :: (after ++ ⟨writer, .rescoped scope⟩ :: earlier) := by
      rw [split]
      simp
    exact (ungranted warranted again excluded fun entry member => stays entry (by simp [member])).elim
  · refine ⟨others, ?_⟩
    have other : writer ≠ some process := by
      rintro rfl
      have head := congrArg List.head? same
      rw [head_own] at head
      cases head
    rwa [sessionOf, session_other other] at same

end

/-- As long as a connection stays outside the scope, a tool reaches it only in a call that had
been granted it before, and only with the next act of that call. -/
theorem restriction_holds (library : UuidLibrary) (store : LocalStore) (settings : McpSettings)
    (events : List (Programs.Event Launch (World Row) McpSettings)) {newer middle earlier : History} {writer : Option Nat} {process : Nat}
    {scope : McpConnectionScope} {connectionId : Uuid} {act : Act}
    (split : (reached Row library store settings events).shared.history =
      newer ++ ⟨some process, act⟩ :: (middle ++ ⟨writer, .rescoped scope⟩ :: earlier))
    (excluded : scope.allows connectionId = false)
    (stays : ∀ entry ∈ middle, ∀ other, entry.act = .rescoped other → other.allows connectionId = false)
    (reaches : act.Reaches connectionId) :
    (∀ entry ∈ middle, entry.process ≠ some process) ∧
      ∃ granted launch, sessionOf process earlier = [.granted connectionId granted, .started launch] := by
  have warranted := @warranted_reached Row library store settings events
  have allowed : Warranted library (middle ++ ⟨writer, .rescoped scope⟩ :: earlier) ⟨some process, act⟩ := AllWarranted.split (split ▸ warranted)
  cases allowed with
  | proposed call =>
    obtain rfl : _ = connectionId := reaches
    obtain ⟨others, before⟩ := granted_before warranted split excluded stays call
    exact ⟨others, _, _, before⟩
  | readOnly call statement policy targets =>
    obtain rfl : _ = connectionId := targets.connection.symm.trans reaches
    obtain ⟨others, before⟩ := granted_before warranted split excluded stays call
    exact ⟨others, _, _, before⟩
  | started | listed | granted | claimed | confirmed | typed | rescoped => exact reaches.elim

end

/-- The query of the first call is behind a restriction by the second one. -/
def isOvertaken : History → Bool
  | ⟨some 0, .dispatched true _ request⟩ :: ⟨some 1, .rescoped scope⟩ :: _ => decide (request.connectionId = ⟨"c"⟩ ∧ scope = ⟨true, [⟨"d"⟩]⟩)
  | _ => false

theorem restriction_history : ∃ profile request earlier,
    (reached Unit plainUuids twoConnections unrestricted restriction).shared.history =
        [] ++ ⟨some 0, .dispatched true profile request⟩ :: ([] ++ ⟨some 1, .rescoped ⟨true, [⟨"d"⟩]⟩⟩ :: earlier) ∧
      request.connectionId = ⟨"c"⟩ := by
  have overtaken : isOvertaken (reached Unit plainUuids twoConnections unrestricted restriction).shared.history = true := by
    decide +kernel
  revert overtaken
  generalize (reached Unit plainUuids twoConnections unrestricted restriction).shared.history = history
  intro overtaken
  unfold isOvertaken at overtaken
  split at overtaken
  · next profile request scope earlier =>
    obtain ⟨same, rfl⟩ := of_decide_eq_true overtaken
    exact ⟨profile, request, earlier, rfl, same⟩
  · cases overtaken

theorem restriction_holds_late : ∃ profile request earlier,
    (reached Unit plainUuids twoConnections unrestricted restriction).shared.history =
        [] ++ ⟨some 0, .dispatched true profile request⟩ :: ([] ++ ⟨some 1, .rescoped ⟨true, [⟨"d"⟩]⟩⟩ :: earlier) ∧
      (∀ entry ∈ ([] : History), entry.process ≠ some 0) ∧
      ∃ granted launch, sessionOf 0 earlier = [.granted ⟨"c"⟩ granted, .started launch] := by
  obtain ⟨profile, request, earlier, split, same⟩ := restriction_history
  exact ⟨profile, request, earlier, split, restriction_holds plainUuids twoConnections unrestricted restriction split rfl
    (fun _ member => absurd member List.not_mem_nil) same⟩

/-! ### A call alone -/

/-- The store as a query of its own reads it. -/
def storeOf (faults : Faults) (store : LocalStore) : QueryRunner.LocalStore where
  listConnections := (ConnectionRepository.listConnections faults store).1.map (List.map SavedProfile.toConnectionProfile)
  getConnectionCredential connectionId := (ConnectionRepository.getConnectionCredential connectionId (faults 0) store).1

section
variable {ε α β Row : Type} {serve : (operation : Operation) → Shared → Reply Row operation × Shared} {shared : Shared}

theorem alone_decided {result : Except ε β} {next : β → Task Row ε α} :
    ((decided result >>= next : Task Row ε α).run.alone serve shared).1 = result.bind fun value => ((next value).run.alone serve shared).1 := by
  cases result <;> rfl

/-- An operation that leaves the state as it is hands on its reply. -/
theorem alone_reading {operation : Operation} {reply : Reply Row operation → Except ε β} {next : β → Task Row ε α}
    (same : (serve operation shared).2 = shared) :
    ((reading operation reply >>= next : Task Row ε α).run.alone serve shared).1 =
      (reply (serve operation shared).1).bind fun value => ((next value).run.alone serve shared).1 := by
  have step : (reading operation reply >>= next : Task Row ε α).run.alone serve shared =
      (decided (reply (serve operation shared).1) >>= next : Task Row ε α).run.alone serve (serve operation shared).2 := rfl
  rw [step, same, alone_decided]

end

/-- What is delivered of a query that the policy has let pass. -/
def delivered {Row : Type} (store : QueryRunner.LocalStore) (mysql : MySqlAdapter Row) (queryId connectionId : Uuid) (sql : String)
    (source : ExecutionSource) : Except AppError (List (QueryEvent Row)) := do
  let connections ← store.listConnections
  let profile ← match connections.find? (fun profile => profile.id = connectionId) with
    | some profile => pure profile
    | none => throw ConnectionRepository.connectionNotFoundError
  if profile.engine ≠ .mySql then
    throw {
      code := .validation
      message := "MCP query execution currently supports MySQL connections only"
      technicalDetails := some s!"engine={profile.engine.debug}"
      retryable := false }
  let password ← store.getConnectionCredential connectionId
  let (events, result) := mysql (source = .mcp) profile password { queryId, connectionId, sql, database := none }
  match result with
  | .ok () => return events
  | .error error => return events ++ [.failed queryId error]

theorem deliver_eq {Row : Type} (store : QueryRunner.LocalStore) (mysql : MySqlAdapter Row) (queryId connectionId : Uuid) (sql : String)
    (source : ExecutionSource) : deliver store mysql queryId connectionId sql source =
      (requirePolicy sql source).bind fun _ => delivered store mysql queryId connectionId sql source := by
  cases source with
  | ui => rfl
  | mcp =>
    unfold deliver requirePolicy
    cases SqlPolicy.mcpMayExecute (SqlPolicy.asBytes sql) <;> rfl

/-- A query that nothing disturbs is the one that the query runner makes. -/
theorem alone_executeCollected {Row : Type} (process : Nat) (world : World Row) (connectionId : Uuid) (sql : String)
    (source : ExecutionSource) (rowLimit : Nat) (shared : Shared) :
    ((executeCollected connectionId sql source rowLimit).run.alone (@serve Row process world) shared).1 =
      QueryRunner.executeCollected (storeOf world.faults shared.store) world.mysql world.uuid connectionId sql source rowLimit := by
  have ours : ((executeCollected connectionId sql source rowLimit).run.alone (@serve Row process world) shared).1 = (do
      requirePolicy sql source
      let profiles ← (ConnectionRepository.listConnections world.faults shared.store).1
      let profile ← findMySqlProfile profiles connectionId
      let password ← (ConnectionRepository.getConnectionCredential connectionId (world.faults 0) shared.store).1
      return collectQueryEvents rowLimit
        (deliveredEvents world (source = .mcp) profile password { queryId := world.uuid, connectionId, sql, database := none })) := by
    refine alone_decided.trans (congrArg (Except.bind _) (funext fun _ => ?_))
    refine (alone_reading rfl).trans (congrArg (Except.bind _) (funext fun profiles => ?_))
    refine alone_decided.trans (congrArg (Except.bind _) (funext fun profile => ?_))
    exact (alone_reading rfl).trans (congrArg (Except.bind _) (funext fun password => rfl))
  have stored : (storeOf world.faults shared.store).listConnections =
      (ConnectionRepository.listConnections world.faults shared.store).1.map (List.map SavedProfile.toConnectionProfile) := rfl
  rw [ours, QueryRunner.executeCollected, deliver_eq, delivered, stored]
  cases requirePolicy sql source with
  | error error => rfl
  | ok _ =>
    cases (ConnectionRepository.listConnections world.faults shared.store).1 with
    | error error => rfl
    | ok profiles =>
      have mapped : (profiles.map SavedProfile.toConnectionProfile).find? (fun profile => profile.id = connectionId) =
          (profiles.find? fun profile => profile.id = connectionId).map SavedProfile.toConnectionProfile := List.find?_map
      simp only [bind, Except.bind, pure, Except.pure, Except.map, throw, throwThe, MonadExceptOf.throw, mapped, findMySqlProfile]
      cases profiles.find? fun profile => profile.id = connectionId with
      | none => rfl
      | some profile =>
        by_cases engine : profile.engine = .mySql
        · simp only [Option.map_some, engine, ne_eq, not_true_eq_false, ↓reduceIte, storeOf, deliveredEvents]
          cases (ConnectionRepository.getConnectionCredential connectionId (world.faults 0) shared.store).1 with
          | error error => rfl
          | ok password =>
            dsimp only
            cases (world.mysql (source = .mcp) profile.toConnectionProfile password
              { queryId := world.uuid, connectionId, sql, database := none }).2 <;> rfl
        · simp only [Option.map_some, engine, ne_eq, not_false_eq_true, ↓reduceIte]

/-! ### The statements of the inspecting tools -/

section Statements
open SqlPolicy

/-- The byte of a back-quote belongs to the character. -/
theorem backquote_of_mem {c : Char} (member : 96 ∈ (String.utf8EncodeChar c).map UInt8.toNat) : c = '\x60' := by
  unfold String.utf8EncodeChar at member
  dsimp only at member
  split at member
  · next small =>
    simp only [List.map_cons, List.map_nil, List.mem_singleton, UInt8.toNat_ofNat'] at member
    apply Char.toNat_inj.mp
    show c.val.toNat = 96
    omega
  all_goals
    exfalso
    (try split at member) <;> (try split at member)
    all_goals
      simp only [List.map_cons, List.map_nil, UInt8.toNat_ofNat', List.mem_cons, List.not_mem_nil, or_false] at member
      omega

theorem consumeQuoted_doubled (bytes : List Nat) :
    consumeQuoted 96 false (SqlLexer.doubled false 96 bytes ++ [96]) = some [] := by
  induction bytes with
  | nil => rfl
  | cons byte bytes ih =>
    obtain ⟨next, rest, same⟩ : ∃ next rest, SqlLexer.doubled false 96 bytes ++ [96] = next :: rest :=
      List.exists_cons_of_ne_nil (by simp)
    by_cases quote : byte = 96
    · have shape : SqlLexer.doubled false 96 (byte :: bytes) ++ [96] = 96 :: 96 :: (SqlLexer.doubled false 96 bytes ++ [96]) := by
        simp [SqlLexer.doubled, quote]
      rw [shape, consumeQuoted, if_neg (by simp), if_pos rfl, if_pos rfl]
      exact ih
    · have shape : SqlLexer.doubled false 96 (byte :: bytes) ++ [96] = byte :: (SqlLexer.doubled false 96 bytes ++ [96]) := by
        simp [SqlLexer.doubled, quote]
      rw [shape, same, consumeQuoted, if_neg (by simp), if_neg quote, ← same]
      exact ih

theorem doubled_plain {bytes : List Nat} (plain : 96 ∉ bytes) : SqlLexer.doubled false 96 bytes = bytes := by
  induction bytes with
  | nil => rfl
  | cons byte bytes ih =>
    have here : byte ≠ 96 := fun same => plain (by simp [same])
    have rest := ih fun member => plain (List.mem_cons_of_mem _ member)
    rw [SqlLexer.doubled] at rest ⊢
    rw [List.flatMap_cons, if_neg (by simp [here]), rest]
    rfl

theorem asBytes_toList (text : String) :
    asBytes text = text.toList.flatMap fun c => (String.utf8EncodeChar c).map UInt8.toNat := by
  have bytes : Text.utf8 text = text.toList.flatMap String.utf8EncodeChar := by rw [← Text.utf8_ofList, String.ofList_toList]
  rw [Indexed.asBytes_eq, bytes, List.map_flatMap]

theorem asBytes_append (first second : String) : asBytes (first ++ second) = asBytes first ++ asBytes second := by
  simp only [asBytes_toList, String.toList_append, List.flatMap_append]

theorem asBytes_quoted (name : String) : asBytes (quoteIdentifier name) = SqlWriting.columnText (asBytes name) := by
  have replaced : asBytes (Text.replace '\x60' "\x60\x60" name) = SqlLexer.doubled false 96 (asBytes name) := by
    rw [asBytes_toList, asBytes_toList, Text.replace, String.toList_ofList]
    induction name.toList with
    | nil => rfl
    | cons c rest ih =>
      rw [List.flatMap_cons, List.flatMap_append, List.flatMap_cons, ih]
      rw [SqlLexer.doubled, SqlLexer.doubled, List.flatMap_append]
      congr 1
      by_cases quote : c = '\x60'
      · subst quote
        decide +kernel
      · have plain : 96 ∉ (String.utf8EncodeChar c).map UInt8.toNat := fun member => quote (backquote_of_mem member)
        have same := doubled_plain plain
        rw [SqlLexer.doubled] at same
        rw [if_neg quote, same, List.flatMap_singleton]
  have mark : asBytes "\x60" = [96] := by decide +kernel
  rw [quoteIdentifier, asBytes_append, asBytes_append, mark, replaced]
  rfl

theorem lex_described (name : String) (escapes : Bool) :
    lexMysql (asBytes ("DESCRIBE " ++ quoteIdentifier name)) escapes = some [.word (ascii "DESCRIBE"), .atom] := by
  have command : asBytes "DESCRIBE " = [68, 69, 83, 67, 82, 73, 66, 69, 32] := by decide +kernel
  rw [asBytes_append, command, asBytes_quoted, SqlWriting.columnText]
  generalize doubled_ : SqlLexer.doubled false 96 (asBytes name) ++ [96] = quoted
  have word : lexStep escapes 68 ([69, 83, 67, 82, 73, 66, 69, 32] ++ 96 :: quoted) =
      some (some (.word (ascii "DESCRIBE")), 32 :: 96 :: quoted) := rfl
  have blank : lexStep escapes 32 (96 :: quoted) = some (none, 96 :: quoted) := rfl
  have name_ : lexStep escapes 96 quoted = some (some .atom, []) := by
    have reads : lexStep escapes 96 quoted = (consumeQuoted 96 false quoted).map (some .atom, ·) := rfl
    rw [reads, ← doubled_, consumeQuoted_doubled]
    rfl
  rw [List.cons_append, lexMysql_step word, lexMysql_step blank, lexMysql_step name_]
  rfl

/-- The statement that describes a table passes the policy whatever the table is called, and
a server reads it as the description of that table. -/
theorem describe_allowed (rules : SqlLexer.Rules) (name : String) :
    mcpMayExecute (asBytes ("DESCRIBE " ++ quoteIdentifier name)) = .ok () ∧
      ∃ text, SqlLexer.tokens rules (SqlLexer.units ("DESCRIBE " ++ quoteIdentifier name)) =
          some [.word (SqlLexer.units "DESCRIBE"), .quoted text] ∧
        SqlBoolean.quotedName text = SqlLexer.units name := by
  have lexed : lexConsistently (asBytes ("DESCRIBE " ++ quoteIdentifier name)) = some [.word (ascii "DESCRIBE"), .atom] := by
    rw [lexConsistently, lex_described, lex_described]
    rfl
  have harmless : containsDangerousSqlKeyword (asBytes ("DESCRIBE " ++ quoteIdentifier name)) = false := by
    rw [containsDangerousSqlKeyword, lexed]
    decide
  have reads : classifySql (asBytes ("DESCRIBE " ++ quoteIdentifier name)) = .read := by
    rw [classifySql, lexed]
    decide
  refine ⟨?_, SqlWriting.columnText (SqlLexer.units name), ?_, SqlWriting.quotedName_text _⟩
  · rw [mcpMayExecute, harmless, reads]
    rfl
  · have command : SqlLexer.ReadsBefore rules SqlLexer.isWordEnd (SqlLexer.units "DESCRIBE") [SqlLexer.keyword "DESCRIBE"] :=
      SqlLexer.readsBefore_keyword (by decide)
    have whole := (command.spaced rfl (SqlLexer.readsBefore_quoted (SqlLexer.units name))).whole
    have parts : SqlLexer.units ("DESCRIBE " ++ quoteIdentifier name) =
        SqlLexer.units "DESCRIBE" ++ 32 :: SqlWriting.columnText (SqlLexer.units name) := by
      rw [SqlLexer.units_append, quoteIdentifier_units]
      rfl
    rw [parts]
    exact whole

end Statements

end Pipa.McpService
