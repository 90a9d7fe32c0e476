import Mathlib.Data.List.Nodup
import Pipa.McpQueue

/-! What one lock section can do to the proposal queue: nothing, admit a proposal,
or move one proposal to its next status. -/

namespace Pipa
open McpQueue

namespace McpQueue

section Edits
variable {id : Uuid} {edit : PendingSqlProposal → PendingSqlProposal}

@[simp]
theorem modifyFirst_length (items : List PendingSqlProposal) : (modifyFirst id edit items).length = items.length := by
  induction items with
  | nil => rfl
  | cons item items ih =>
    rw [modifyFirst]
    split <;> simp [ih]

theorem modifyFirst_ids (same : ∀ item, (edit item).id = item.id) (items : List PendingSqlProposal) :
    (modifyFirst id edit items).map PendingSqlProposal.id = items.map PendingSqlProposal.id := by
  induction items with
  | nil => rfl
  | cons item items ih =>
    rw [modifyFirst]
    split <;> simp [ih, same]

/-- Among distinct ids the edit reaches the one proposal of that id and no other. -/
theorem mem_modifyFirst {items : List PendingSqlProposal}
    (distinct : (items.map PendingSqlProposal.id).Nodup) {item : PendingSqlProposal} :
    item ∈ modifyFirst id edit items ↔
      item ∈ items ∧ item.id ≠ id ∨ ∃ original ∈ items, original.id = id ∧ item = edit original := by
  induction items with
  | nil => simp [modifyFirst]
  | cons first items ih =>
    obtain ⟨fresh, rest⟩ := List.nodup_cons.mp distinct
    have others (other : PendingSqlProposal) (member : other ∈ items) : other.id ≠ first.id := by
      intro same
      exact fresh (same ▸ List.mem_map_of_mem member)
    rw [modifyFirst]
    split
    next here =>
      subst id
      constructor
      · intro member
        rcases List.mem_cons.mp member with rfl | later
        · exact Or.inr ⟨first, List.mem_cons_self, rfl, rfl⟩
        · exact Or.inl ⟨List.mem_cons_of_mem _ later, others item later⟩
      · rintro (⟨member, other⟩ | ⟨original, member, same, rfl⟩)
        · rcases List.mem_cons.mp member with rfl | later
          · exact absurd rfl other
          · exact List.mem_cons_of_mem _ later
        · rcases List.mem_cons.mp member with rfl | later
          · exact List.mem_cons_self
          · exact absurd same (others original later)
    next other =>
      rw [List.mem_cons, ih rest]
      constructor
      · rintro (rfl | ⟨member, different⟩ | ⟨original, member, same, rfl⟩)
        · exact Or.inl ⟨List.mem_cons_self, other⟩
        · exact Or.inl ⟨List.mem_cons_of_mem _ member, different⟩
        · exact Or.inr ⟨original, List.mem_cons_of_mem _ member, same, rfl⟩
      · rintro (⟨member, different⟩ | ⟨original, member, same, rfl⟩)
        · rcases List.mem_cons.mp member with rfl | later
          · exact Or.inl rfl
          · exact Or.inr (Or.inl ⟨later, different⟩)
        · rcases List.mem_cons.mp member with rfl | later
          · exact absurd same other
          · exact Or.inr (Or.inr ⟨original, later, same, rfl⟩)

end Edits

theorem rposition_none {test : α → Bool} {items : List α} (missing : rposition test items = none) :
    ∀ item ∈ items, test item = false := by
  induction items with
  | nil => simp
  | cons first items ih =>
    rw [rposition] at missing
    cases later : rposition test items with
    | some position => simp [later] at missing
    | none =>
      have unsatisfied : test first = false := by simpa [later] using missing
      exact List.forall_mem_cons.mpr ⟨unsatisfied, ih later⟩

theorem trimTerminalProposals_within {proposals : List PendingSqlProposal}
    (within : proposals.length ≤ mcpProposalLimit) : trimTerminalProposals proposals = proposals := by
  rw [trimTerminalProposals, if_neg (by omega)]

/-- One proposal above the limit: the last terminal one goes, if there is one. -/
theorem trimTerminalProposals_over {proposals : List PendingSqlProposal}
    (exceeded : proposals.length = mcpProposalLimit + 1) :
    ((∀ item ∈ proposals, item.status.isTerminal = false) ∧ trimTerminalProposals proposals = proposals) ∨
      ∃ before evicted after, proposals = before ++ evicted :: after ∧ evicted.status.isTerminal = true ∧
        trimTerminalProposals proposals = before ++ after := by
  rw [trimTerminalProposals, if_pos (by omega)]
  split
  next missing => exact Or.inl ⟨rposition_none missing, rfl⟩
  next index found =>
    obtain ⟨before, evicted, after, rfl, rfl, terminal⟩ := rposition_some found
    refine Or.inr ⟨before, evicted, after, rfl, terminal, ?_⟩
    have removed : (before ++ evicted :: after).eraseIdx before.length = before ++ after := by
      simp [List.eraseIdx_append_of_length_le]
    rw [removed]
    apply trimTerminalProposals_within
    simp only [List.length_append, List.length_cons] at exceeded ⊢
    omega

/-- What stays in the queue when a proposal is admitted: all but terminal proposals. -/
structure Keeps (before kept : List PendingSqlProposal) : Prop where
  sublist : kept.Sublist before
  evicted : ∀ item ∈ before, item ∉ kept → item.status.isTerminal = true
  room : kept.length + 1 ≤ mcpProposalLimit

/-- A proposal is admitted in front of what is kept, or refused without a trace. -/
theorem propose_cases {self : McpQueue} (within : self.proposals.length ≤ mcpProposalLimit)
    (id connectionId : Uuid) (sql : String) (risk : SqlRisk) (sourceTool createdAt : String) :
    let proposal : PendingSqlProposal :=
      { id, connectionId, sql, risk, sourceTool, createdAt, status := .pending, resultSummary := none }
    (∃ error, self.propose id connectionId sql risk sourceTool createdAt = (.error error, self)) ∨
      ∃ kept, self.propose id connectionId sql risk sourceTool createdAt = (.ok proposal, ⟨proposal :: kept⟩) ∧
        Keeps self.proposals kept := by
  intro proposal
  rcases Nat.lt_or_ge self.proposals.length mcpProposalLimit with room | full
  · right
    have within : (proposal :: self.proposals).length ≤ mcpProposalLimit := room
    have trimmed := trimTerminalProposals_within within
    refine ⟨self.proposals, ?_, .refl _, fun item member absent => absurd member absent, room⟩
    simp only [propose]
    rw [trimmed, if_neg (by omega)]
  · have exceeded : (proposal :: self.proposals).length = mcpProposalLimit + 1 := by
      simp only [List.length_cons]
      omega
    rcases trimTerminalProposals_over exceeded with ⟨-, same⟩ | ⟨before, evicted, after, split_, terminal, trimmed⟩
    · left
      simp only [propose]
      rw [same, if_pos (by omega)]
      exact ⟨_, rfl⟩
    · right
      cases before with
      | nil =>
        obtain ⟨rfl, -⟩ := List.cons.inj split_
        cases terminal
      | cons first before =>
        obtain ⟨rfl, same⟩ : proposal = first ∧ self.proposals = before ++ evicted :: after := List.cons.inj split_
        have kept : (before ++ after).length + 1 = self.proposals.length := by
          rw [same]
          simp only [List.length_append, List.length_cons]
          omega
        refine ⟨before ++ after, ?_, ?_, ?_, by omega⟩
        · simp only [propose]
          rw [trimmed, if_neg]
          · rfl
          · simp only [List.cons_append, List.length_cons]
            omega
        · rw [same]
          exact (List.Sublist.refl before).append (List.sublist_cons_self evicted after)
        · intro item member absent
          rw [same, List.mem_append, List.mem_cons] at member
          rw [List.mem_append, not_or] at absent
          rcases member with early | here | late
          · exact absurd early absent.1
          · rw [here]
            exact terminal
          · exact absurd late absent.2

/-- A claim takes a pending proposal, or is refused without a trace. -/
theorem claim_cases (self : McpQueue) (proposalId : Uuid) (refusal : String)
    (edit : PendingSqlProposal → PendingSqlProposal) :
    (∃ error, self.claim proposalId refusal edit = (.error error, self)) ∨
      ∃ proposal ∈ self.proposals, proposal.id = proposalId ∧ proposal.status = .pending ∧
        self.claim proposalId refusal edit = (.ok (edit proposal), ⟨modifyFirst proposalId edit self.proposals⟩) := by
  unfold claim
  cases found : self.proposals.find? (fun item => item.id = proposalId) with
  | none => exact Or.inl ⟨_, rfl⟩
  | some proposal =>
    have same : proposal.id = proposalId := by simpa using List.find?_some found
    cases pending : proposal.status.isPending with
    | false => exact Or.inl ⟨_, by simp only [pending, Bool.not_false, ↓reduceIte]; rfl⟩
    | true =>
      refine Or.inr ⟨proposal, List.mem_of_find?_eq_some found, same, ?_, ?_⟩
      · simpa [ProposalStatus.isPending] using pending
      · simp only [pending, Bool.not_true, Bool.false_eq_true, ↓reduceIte]

end McpQueue

/-- What one event did: nothing, or it admitted one proposal, or it moved one
proposal to its next status. -/
inductive McpEffect (event : McpEvent) (before after : McpState) : Prop where
  | idle (queue : after.queue = before.queue) (executing : after.executing = before.executing)
      (claims : before.claims event = none)
  | admits (proposal : PendingSqlProposal) (kept : List PendingSqlProposal)
      (proposed : event.proposed = some proposal.id) (pending : proposal.status = .pending)
      (queue : after.queue.proposals = proposal :: kept) (keeps : Keeps before.queue.proposals kept)
      (executing : after.executing = before.executing) (claims : before.claims event = none)
  | claims (proposal : PendingSqlProposal) (edit : PendingSqlProposal → PendingSqlProposal)
      (member : proposal ∈ before.queue.proposals) (pending : proposal.status = .pending)
      (same : ∀ item, (edit item).id = item.id)
      (queue : after.queue.proposals = modifyFirst proposal.id edit before.queue.proposals)
      (claims : before.claims event = some proposal.id)
      (status : (edit proposal).status = .executing ∧ after.executing = proposal.id :: before.executing ∨
        (edit proposal).status = .dismissed ∧ after.executing = before.executing)
  | reports (id : Uuid) (edit : PendingSqlProposal → PendingSqlProposal)
      (member : id ∈ before.executing) (same : ∀ item, (edit item).id = item.id)
      (queue : after.queue.proposals = modifyFirst id edit before.queue.proposals)
      (executing : after.executing = before.executing.erase id) (claims : before.claims event = none)
      (status : ∀ item, (edit item).status.isTerminal = true)

theorem McpState.step_effect {self : McpState} (within : self.queue.proposals.length ≤ mcpProposalLimit)
    (event : McpEvent) : McpEffect event self (self.step event) := by
  cases event with
  | propose id connectionId sql risk sourceTool createdAt =>
    let proposal : PendingSqlProposal :=
      { id, connectionId, sql, risk, sourceTool, createdAt, status := .pending, resultSummary := none }
    rcases propose_cases within id connectionId sql risk sourceTool createdAt with ⟨error, refused⟩ | ⟨kept, admitted, keeps⟩
    · exact .idle (by simp [step, refused]) rfl rfl
    · exact .admits proposal kept rfl rfl (by simp only [step, admitted, proposal]) keeps rfl rfl
  | claimForExecute proposalId =>
    rcases claim_cases self.queue proposalId "Only pending proposals can be executed" markExecuting with
      ⟨error, refused⟩ | ⟨proposal, member, rfl, pending, claimed⟩
    · exact .idle (by simp [step, claimForExecute, refused]) (by simp [step, claimForExecute, refused])
        (by simp [McpState.claims, claimForExecute, refused, Except.toOption])
    · exact .claims proposal markExecuting member pending (fun _ => rfl) (by simp [step, claimForExecute, claimed])
        (by simp [McpState.claims, claimForExecute, claimed, Except.toOption, markExecuting])
        (Or.inl ⟨rfl, by simp [step, claimForExecute, claimed, markExecuting]⟩)
  | claimForDismiss proposalId =>
    rcases claim_cases self.queue proposalId "Only pending proposals can be dismissed" markDismissed with
      ⟨error, refused⟩ | ⟨proposal, member, rfl, pending, claimed⟩
    · exact .idle (by simp [step, claimForDismiss, refused]) rfl
        (by simp [McpState.claims, claimForDismiss, refused, Except.toOption])
    · exact .claims proposal markDismissed member pending (fun _ => rfl) (by simp [step, claimForDismiss, claimed])
        (by simp [McpState.claims, claimForDismiss, claimed, Except.toOption, markDismissed])
        (Or.inr ⟨rfl, rfl⟩)
  | report proposalId ok detail =>
    let edit := markReported (if ok then .executed else .failed) (some detail)
    by_cases held : proposalId ∈ self.executing
    · exact .reports proposalId edit held (fun _ => rfl) (by simp [step, held, updateProposal, edit])
        (by simp [step, held]) rfl (fun _ => by cases ok <;> rfl)
    · exact .idle (by simp [step, held]) (by simp [step, held]) rfl

end Pipa
