import Mathlib.Data.List.Nodup
import Pipa.Proofs.McpQueueEffects

/-! Safety of the proposal queue over all interleavings of its lock sections. The
statuses in the queue, the log of successful claims and the executions in flight
determine each other; one invariant ties them together. -/

namespace Pipa
open McpQueue

/-- Statuses, successful claims and executions in flight determine each other:
a proposal was claimed exactly when it is no longer pending, and an execution in
flight holds an executing proposal. -/
structure McpSound (issued claimed : List Uuid) (state : McpState) : Prop where
  within : state.queue.proposals.length ≤ mcpProposalLimit
  distinct : (state.queue.proposals.map PendingSqlProposal.id).Nodup
  known : ∀ proposal ∈ state.queue.proposals, proposal.id ∈ issued
  once : claimed.Nodup
  claimsKnown : ∀ id ∈ claimed, id ∈ issued
  moved : ∀ proposal ∈ state.queue.proposals, proposal.id ∈ claimed ↔ proposal.status ≠ .pending
  flying : state.executing.Nodup
  holds : ∀ id ∈ state.executing, ∃ proposal ∈ state.queue.proposals, proposal.id = id ∧ proposal.status = .executing

section Steps
variable {issued claimed : List Uuid} {before after : McpState} {event : McpEvent}

theorem McpSound.unique (sound : McpSound issued claimed before) {first second : PendingSqlProposal}
    (member : first ∈ before.queue.proposals) (member' : second ∈ before.queue.proposals) (same : first.id = second.id) :
    first = second :=
  List.inj_on_of_nodup_map sound.distinct member member' same

private theorem McpSound.mono (sound : McpSound issued claimed before) (more : List Uuid) :
    McpSound (issued ++ more) claimed before :=
  { sound with
    known := fun proposal member => List.mem_append_left _ (sound.known proposal member)
    claimsKnown := fun id claim => List.mem_append_left _ (sound.claimsKnown id claim) }

private theorem McpSound.admit (sound : McpSound issued claimed before) {proposal : PendingSqlProposal}
    {kept : List PendingSqlProposal} (fresh : proposal.id ∉ issued) (pending : proposal.status = .pending)
    (queue : after.queue.proposals = proposal :: kept) (keeps : Keeps before.queue.proposals kept)
    (executing : after.executing = before.executing) : McpSound (issued ++ [proposal.id]) claimed after := by
  have old : ∀ item ∈ kept, item ∈ before.queue.proposals := fun item member => keeps.sublist.subset member
  refine ⟨?_, ?_, ?_, sound.once, fun id member => List.mem_append_left _ (sound.claimsKnown id member), ?_, ?_, ?_⟩
  · rw [queue]
    exact keeps.room
  · rw [queue, List.map_cons, List.nodup_cons]
    refine ⟨?_, sound.distinct.sublist (keeps.sublist.map _)⟩
    intro repeated
    obtain ⟨item, member, same⟩ := List.mem_map.mp repeated
    exact fresh (same ▸ sound.known item (old item member))
  · rw [queue]
    refine List.forall_mem_cons.mpr ⟨by simp, ?_⟩
    intro item member
    exact List.mem_append_left _ (sound.known item (old item member))
  · rw [queue]
    refine List.forall_mem_cons.mpr ⟨?_, fun item member => sound.moved item (old item member)⟩
    exact ⟨fun claim => absurd (sound.claimsKnown _ claim) fresh, fun moved => absurd pending moved⟩
  · rw [executing]
    exact sound.flying
  · rw [executing, queue]
    intro id flying
    obtain ⟨item, member, same, status⟩ := sound.holds id flying
    have stays : item ∈ kept := by
      by_contra absent
      have terminal := keeps.evicted item member absent
      rw [status] at terminal
      cases terminal
    exact ⟨item, List.mem_cons_of_mem _ stays, same, status⟩

/-- An edit of one proposal in place keeps the shape of the queue. -/
private theorem edit_shape (sound : McpSound issued claimed before) {id : Uuid}
    {edit : PendingSqlProposal → PendingSqlProposal} (same : ∀ item, (edit item).id = item.id)
    (queue : after.queue.proposals = modifyFirst id edit before.queue.proposals) :
    after.queue.proposals.length ≤ mcpProposalLimit ∧ (after.queue.proposals.map PendingSqlProposal.id).Nodup ∧
      ∀ proposal ∈ after.queue.proposals, proposal.id ∈ issued := by
  refine ⟨?_, ?_, ?_⟩
  · rw [queue, modifyFirst_length]
    exact sound.within
  · rw [queue, modifyFirst_ids same]
    exact sound.distinct
  · intro proposal member
    have listed := List.mem_map_of_mem member (f := PendingSqlProposal.id)
    rw [queue, modifyFirst_ids same] at listed
    obtain ⟨original, inside, here⟩ := List.mem_map.mp listed
    exact here ▸ sound.known original inside

/-- Executions of other proposals keep what they hold. -/
private theorem edit_holds (sound : McpSound issued claimed before) {id other : Uuid}
    {edit : PendingSqlProposal → PendingSqlProposal}
    (queue : after.queue.proposals = modifyFirst id edit before.queue.proposals)
    (flying : other ∈ before.executing) (different : other ≠ id) :
    ∃ proposal ∈ after.queue.proposals, proposal.id = other ∧ proposal.status = .executing := by
  obtain ⟨item, member, same, status⟩ := sound.holds other flying
  refine ⟨item, ?_, same, status⟩
  rw [queue, mem_modifyFirst sound.distinct]
  exact Or.inl ⟨member, same ▸ different⟩

private theorem McpSound.claim (sound : McpSound issued claimed before) {proposal : PendingSqlProposal}
    {edit : PendingSqlProposal → PendingSqlProposal} (member : proposal ∈ before.queue.proposals)
    (pending : proposal.status = .pending) (same : ∀ item, (edit item).id = item.id)
    (queue : after.queue.proposals = modifyFirst proposal.id edit before.queue.proposals)
    (status : (edit proposal).status = .executing ∧ after.executing = proposal.id :: before.executing ∨
      (edit proposal).status = .dismissed ∧ after.executing = before.executing) :
    McpSound issued (claimed ++ [proposal.id]) after := by
  obtain ⟨within, distinct, listed⟩ := edit_shape sound same queue
  have unclaimed : proposal.id ∉ claimed := fun claim => (sound.moved proposal member).mp claim pending
  have grounded : proposal.id ∉ before.executing := by
    intro flying
    obtain ⟨item, inside, here, executing⟩ := sound.holds _ flying
    rw [sound.unique inside member here, pending] at executing
    cases executing
  have here : edit proposal ∈ after.queue.proposals := by
    rw [queue, mem_modifyFirst sound.distinct]
    exact Or.inr ⟨proposal, member, rfl, rfl⟩
  have others : ∀ id ∈ before.executing, ∃ item ∈ after.queue.proposals, item.id = id ∧ item.status = .executing :=
    fun id flying => edit_holds sound queue flying fun equal => grounded (equal ▸ flying)
  refine ⟨within, distinct, listed, ?_, ?_, ?_, ?_, ?_⟩
  · rw [List.nodup_append]
    refine ⟨sound.once, by simp, ?_⟩
    intro id claim other inside equal
    rw [List.mem_singleton] at inside
    exact unclaimed (inside ▸ equal ▸ claim)
  · intro id claim
    rcases List.mem_append.mp claim with early | last
    · exact sound.claimsKnown id early
    · exact List.mem_singleton.mp last ▸ sound.known proposal member
  · intro item inside
    rw [queue, mem_modifyFirst sound.distinct] at inside
    rcases inside with ⟨old, different⟩ | ⟨original, old, equal, rfl⟩
    · simp [← sound.moved item old, different]
    · obtain rfl := sound.unique old member equal
      rcases status with ⟨executing, -⟩ | ⟨dismissed, -⟩
      · simp [same, executing]
      · simp [same, dismissed]
  · rcases status with ⟨-, flying⟩ | ⟨-, flying⟩
    · rw [flying]
      exact List.nodup_cons.mpr ⟨grounded, sound.flying⟩
    · rw [flying]
      exact sound.flying
  · rcases status with ⟨executing, flying⟩ | ⟨-, flying⟩
    · rw [flying]
      exact List.forall_mem_cons.mpr ⟨⟨edit proposal, here, same proposal, executing⟩, others⟩
    · rw [flying]
      exact others

private theorem McpSound.report (sound : McpSound issued claimed before) {id : Uuid}
    {edit : PendingSqlProposal → PendingSqlProposal} (flying : id ∈ before.executing)
    (same : ∀ item, (edit item).id = item.id)
    (queue : after.queue.proposals = modifyFirst id edit before.queue.proposals)
    (executing : after.executing = before.executing.erase id)
    (status : ∀ item, (edit item).status.isTerminal = true) : McpSound issued claimed after := by
  obtain ⟨within, distinct, listed⟩ := edit_shape sound same queue
  refine ⟨within, distinct, listed, sound.once, sound.claimsKnown, ?_, ?_, ?_⟩
  · intro item inside
    rw [queue, mem_modifyFirst sound.distinct] at inside
    rcases inside with ⟨old, -⟩ | ⟨original, old, equal, rfl⟩
    · exact sound.moved item old
    · obtain ⟨held, member, here, running⟩ := sound.holds id flying
      have claim : original.id ∈ claimed := by
        rw [sound.moved original old, sound.unique old member (equal.trans here.symm), running]
        decide
      refine ⟨fun _ waiting => ?_, fun _ => (same original).symm ▸ claim⟩
      have terminal := status original
      rw [waiting] at terminal
      cases terminal
  · rw [executing]
    exact sound.flying.erase id
  · rw [executing]
    intro other still
    obtain ⟨different, inside⟩ := (List.Nodup.mem_erase_iff sound.flying).mp still
    exact edit_holds sound queue inside different

/-- One lock section keeps the invariant, as long as a new proposal gets a new id. -/
theorem McpSound.step (sound : McpSound issued claimed before)
    (fresh : ∀ id, event.proposed = some id → id ∉ issued) :
    McpSound (issued ++ event.proposed.toList) (claimed ++ (before.claims event).toList) (before.step event) := by
  cases McpState.step_effect sound.within event with
  | idle queue executing claims =>
    rw [claims, Option.toList_none, List.append_nil]
    obtain ⟨within, distinct, known, once, claimsKnown, moved, flying, holds⟩ := sound.mono event.proposed.toList
    exact ⟨queue ▸ within, queue ▸ distinct, queue ▸ known, once, claimsKnown, queue ▸ moved, executing ▸ flying,
      queue ▸ executing ▸ holds⟩
  | admits proposal kept proposed pending queue keeps executing claims =>
    rw [claims, proposed, Option.toList_none, List.append_nil]
    exact sound.admit (fresh _ proposed) pending queue keeps executing
  | claims proposal edit member pending same queue claims status =>
    rw [claims]
    exact (sound.claim member pending same queue status).mono _
  | reports id edit member same queue executing claims status =>
    rw [claims, Option.toList_none, List.append_nil]
    exact (sound.report member same queue executing status).mono _

end Steps

/-- A terminal proposal is the only one of its id and stays as it is: no claim
takes it, no execution holds it, and its id is never drawn again. -/
private theorem terminal_step {issued claimed : List Uuid} {before : McpState} {event : McpEvent}
    (sound : McpSound issued claimed before) (fresh : ∀ id, event.proposed = some id → id ∉ issued)
    {proposal : PendingSqlProposal} (terminal : proposal.status.isTerminal = true) (known : proposal.id ∈ issued)
    (fixed : ∀ current ∈ before.queue.proposals, current.id = proposal.id → current = proposal) :
    ∀ current ∈ (before.step event).queue.proposals, current.id = proposal.id → current = proposal := by
  intro current member same
  cases McpState.step_effect sound.within event with
  | idle queue => exact fixed current (queue ▸ member) same
  | admits admitted kept proposed _ queue keeps =>
    rw [queue] at member
    rcases List.mem_cons.mp member with rfl | old
    · exact absurd (same ▸ known) (fresh _ proposed)
    · exact fixed current (keeps.sublist.subset old) same
  | claims claimedOne edit inside pending edited queue =>
    rw [queue, mem_modifyFirst sound.distinct] at member
    rcases member with ⟨old, -⟩ | ⟨original, old, here, rfl⟩
    · exact fixed current old same
    · have taken := fixed claimedOne inside (by rw [← here, ← edited original, same])
      rw [← taken, pending] at terminal
      cases terminal
  | reports id edit flying edited queue =>
    rw [queue, mem_modifyFirst sound.distinct] at member
    rcases member with ⟨old, -⟩ | ⟨original, old, here, rfl⟩
    · exact fixed current old same
    · obtain ⟨held, inside, holds, executing⟩ := sound.holds id flying
      have taken := fixed held inside (by rw [holds, ← here, ← edited original, same])
      rw [← taken, executing] at terminal
      cases terminal

/-- A proposal that is not terminal stays in the queue. -/
private theorem live_step {issued claimed : List Uuid} {before : McpState} (sound : McpSound issued claimed before)
    (event : McpEvent) {proposal : PendingSqlProposal} (member : proposal ∈ before.queue.proposals)
    (live : proposal.status.isTerminal = false) :
    ∃ current ∈ (before.step event).queue.proposals, current.id = proposal.id := by
  have edited {id : Uuid} {edit : PendingSqlProposal → PendingSqlProposal} (same : ∀ item, (edit item).id = item.id)
      (queue : (before.step event).queue.proposals = modifyFirst id edit before.queue.proposals) :
      ∃ current ∈ (before.step event).queue.proposals, current.id = proposal.id := by
    have listed := List.mem_map_of_mem (f := PendingSqlProposal.id) member
    rw [← modifyFirst_ids same, ← queue] at listed
    exact List.mem_map.mp listed
  cases McpState.step_effect sound.within event with
  | idle queue => exact ⟨proposal, queue ▸ member, rfl⟩
  | admits admitted kept _ _ queue keeps =>
    refine ⟨proposal, ?_, rfl⟩
    rw [queue]
    apply List.mem_cons_of_mem
    by_contra absent
    rw [keeps.evicted proposal member absent] at live
    cases live
  | claims _ _ _ _ same queue => exact edited same queue
  | reports _ _ _ same queue => exact edited same queue

/-- The ids drawn for the proposals of a history. -/
def proposedIn (history : List McpEvent) : List Uuid := history.filterMap McpEvent.proposed

/-- The successful claims of a history, in order. -/
def claimedIn (history : List McpEvent) : List Uuid := Runs.outputs McpState.step McpState.claims .new history

/-- The queue and the executions in flight after a history. -/
abbrev mcpAfter (history : List McpEvent) : McpState := Runs.run McpState.step .new history

/-- The safety of a run, at every moment of it. -/
structure McpSafe (events : List McpEvent) : Prop where
  claimedOnce : (claimedIn events).Nodup
  terminalFixed : ∀ before later, events = before ++ later →
    ∀ proposal ∈ (mcpAfter before).queue.proposals, proposal.status.isTerminal = true →
      ∀ current ∈ (mcpAfter events).queue.proposals, current.id = proposal.id → current.status = proposal.status
  neverEvicted : ∀ before event later, events = before ++ event :: later →
    ∀ proposal ∈ (mcpAfter before).queue.proposals, proposal.status.isTerminal = false →
      ∃ current ∈ (mcpAfter (before ++ [event])).queue.proposals, current.id = proposal.id
  bounded : ∀ before later, events = before ++ later → (mcpAfter before).queue.proposals.length ≤ mcpProposalLimit
  refusedUnchanged : ∀ before later, events = before ++ later →
    ∀ id connectionId sql risk sourceTool createdAt error,
      ((mcpAfter before).queue.propose id connectionId sql risk sourceTool createdAt).1 = .error error →
        ((mcpAfter before).queue.propose id connectionId sql risk sourceTool createdAt).2 = (mcpAfter before).queue

theorem proposedIn_concat (history : List McpEvent) (event : McpEvent) :
    proposedIn (history ++ [event]) = proposedIn history ++ event.proposed.toList := by
  cases proposed : event.proposed <;> simp [proposedIn, proposed]

/-- An event of a run with distinct ids draws an id that is new to its history. -/
private theorem fresh_last {history : List McpEvent} {event : McpEvent}
    (distinct : (proposedIn (history ++ [event])).Nodup) : ∀ id, event.proposed = some id → id ∉ proposedIn history := by
  intro id drawn repeated
  rw [proposedIn_concat, drawn] at distinct
  exact (List.nodup_append.mp distinct).2.2 id repeated id (by simp) rfl

private theorem distinct_initial {history later : List McpEvent} (distinct : (proposedIn (history ++ later)).Nodup) :
    (proposedIn history).Nodup := by
  rw [proposedIn, List.filterMap_append] at distinct
  exact (List.nodup_append.mp distinct).1

/-- Every reachable state is sound. -/
theorem mcpAfter_sound {events : List McpEvent} (distinct : (proposedIn events).Nodup) :
    McpSound (proposedIn events) (claimedIn events) (mcpAfter events) := by
  refine @Runs.run_history _ _ McpState.step .new (fun history state =>
    (proposedIn history).Nodup → McpSound (proposedIn history) (claimedIn history) state) ?_ ?_ events distinct
  · intro _
    constructor <;> simp [McpState.new, claimedIn, Runs.outputs]
  · intro history event sound distinct
    rw [proposedIn_concat, claimedIn, Runs.outputs_concat]
    exact (sound (distinct_initial distinct)).step (fresh_last distinct)

/-- Every interleaving is safe, as long as no id is drawn twice. -/
theorem mcp_queue_safe (events : List McpEvent) (distinct : (proposedIn events).Nodup) : McpSafe events := by
  refine ⟨(mcpAfter_sound distinct).once, ?_, ?_, ?_, ?_⟩
  · rintro before later rfl proposal member terminal
    have start := mcpAfter_sound (distinct_initial distinct)
    suffices fixed : ∀ current ∈ (mcpAfter (before ++ later)).queue.proposals,
        current.id = proposal.id → current = proposal by
      intro current inside same
      rw [fixed current inside same]
    induction later using List.reverseRecOn with
    | nil =>
      rw [List.append_nil]
      exact fun current inside same => start.unique inside member same
    | append_singleton later event ih =>
      rw [← List.append_assoc] at distinct ⊢
      have initial := distinct_initial distinct
      have known : proposal.id ∈ proposedIn (before ++ later) := by
        rw [proposedIn, List.filterMap_append]
        exact List.mem_append_left _ (start.known proposal member)
      rw [mcpAfter, Runs.run_concat]
      exact terminal_step (mcpAfter_sound initial) (fresh_last distinct) terminal known (ih initial)
  · rintro before event later rfl proposal member live
    rw [mcpAfter, Runs.run_concat]
    exact live_step (mcpAfter_sound (distinct_initial distinct)) event member live
  · rintro before later rfl
    exact (mcpAfter_sound (distinct_initial distinct)).within
  · rintro before later rfl id connectionId sql risk sourceTool createdAt error failed
    have within := (mcpAfter_sound (distinct_initial distinct)).within
    rcases propose_cases within id connectionId sql risk sourceTool createdAt with ⟨reason, refused⟩ | ⟨kept, admitted, -⟩
    · rw [refused]
    · rw [admitted] at failed
      cases failed

/-- A proposal is executed; the late dismissal and the second execution are refused. -/
theorem mcp_queue_safe_executed_once :
    McpSafe [.propose ⟨"p1"⟩ ⟨"c1"⟩ "DELETE FROM orders" .writeData "mysql_execute" "2026-01-01T00:00:00Z",
      .claimForExecute ⟨"p1"⟩, .claimForDismiss ⟨"p1"⟩, .report ⟨"p1"⟩ true "1 row", .claimForExecute ⟨"p1"⟩] :=
  mcp_queue_safe _ (by decide)

end Pipa
