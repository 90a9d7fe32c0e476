import Mathlib.Data.List.Forall2
import Pipa.Proofs.AssemblerEffects

/-! Physical ranges. The extent of a transaction is the list of event locations
that fell into it while it was open; its reported start and end are the first
start and the last end of that extent. -/

namespace Pipa
open TransactionAssembler

/-- The extents of the transactions closed so far and of the open one. -/
structure Extents where
  opened : List EventLocation
  closed : List (List EventLocation)

namespace Extents

/-- Where an event falls is read off the assembler: a step that reports a
transaction and leaves another open displaced the reported one, so the event
belongs to the successor. -/
def absorb (self : Extents) (before after : TransactionAssembler) (event : AssemblerEvent) : Extents :=
  match event.location? with
  | none => self
  | some location =>
    if after.transactions.length = before.transactions.length then
      if after.pending.isSome then { self with opened := self.opened ++ [location] } else self
    else if after.pending.isSome then { opened := [location], closed := self.closed ++ [self.opened] }
    else { opened := [], closed := self.closed ++ [self.opened ++ [location]] }

end Extents

def observe (state : TransactionAssembler × Extents) (event : AssemblerEvent) : TransactionAssembler × Extents :=
  (state.1.step event, state.2.absorb state.1 (state.1.step event) event)

/-- The range reported for an extent: from its first start to its last end. -/
def Spans (extent : List EventLocation) (fileName : String) (start last : Nat) : Prop :=
  ∃ first final, extent.head? = some first ∧ extent.getLast? = some final ∧
    first.fileName = fileName ∧ first.startPosition = start ∧ final.endPosition = last

/-- Locations of one file arrive in order: none ends before it starts, nor before
an earlier one of the same file starts. -/
structure InFileOrder (locations : List EventLocation) : Prop where
  forward : ∀ location ∈ locations, location.startPosition ≤ location.endPosition
  ordered : locations.Pairwise fun earlier later =>
    earlier.fileName = later.fileName → earlier.startPosition ≤ later.endPosition

theorem InFileOrder.sublist {part whole : List EventLocation} (ordered : InFileOrder whole)
    (sub : part.Sublist whole) : InFileOrder part :=
  ⟨fun location member => ordered.forward location (sub.subset member), ordered.ordered.sublist sub⟩

/-- An ordered extent inside one file has a forward range. -/
theorem Spans.forward {extent : List EventLocation} {fileName : String} {start last : Nat}
    (spans : Spans extent fileName start last) (ordered : InFileOrder extent)
    (inside : ∀ location ∈ extent, location.fileName = fileName) : start ≤ last := by
  obtain ⟨first, final, head, tail, -, rfl, rfl⟩ := spans
  cases extent with
  | nil => cases head
  | cons location rest =>
    obtain rfl := Option.some.inj head
    have forward := ordered.forward location (by simp)
    have member := List.mem_of_getLast? tail
    rcases List.mem_cons.mp member with rfl | later
    · exact forward
    · have sameFile : location.fileName = final.fileName := by
        rw [inside location (by simp), inside final member]
      exact (List.pairwise_cons.mp ordered.ordered).1 final later sameFile

/-- The range of the open transaction is that of its extent so far. -/
def OpenSpans (extent : List EventLocation) : Option PendingTransaction → Prop
  | none => extent = []
  | some pending => Spans extent pending.fileName pending.startPosition pending.endPosition

/-- A further location extends the range of the transaction it falls into. -/
theorem OpenSpans.extend {location : EventLocation} {before : Option PendingTransaction}
    {after : PendingTransaction} {extent : List EventLocation} (spanned : OpenSpans extent before)
    (extended : Extended (some location) before after) : OpenSpans (extent ++ [location]) (some after) := by
  cases before with
  | none =>
    obtain ⟨file, start, last⟩ := extended
    obtain rfl : extent = [] := spanned
    exact ⟨location, location, rfl, rfl, file.symm, start.symm, last.symm⟩
  | some pending =>
    obtain ⟨file, start, last⟩ := extended
    obtain ⟨first, final, head, -, sameFile, sameStart, -⟩ := spanned
    refine ⟨first, location, ?_, by simp, sameFile.trans file.symm, sameStart.trans start.symm, last.symm⟩
    simp [List.head?_append, head]

/-- A reported transaction covers its extent. -/
def Covers (extent : List EventLocation) (transaction : BinlogTransaction) : Prop :=
  Spans extent transaction.fileName transaction.startPosition transaction.endPosition

/-- What the extents say about the assembler after a history. -/
structure Ledger (history : List AssemblerEvent) (state : TransactionAssembler × Extents) : Prop where
  closed : List.Forall₂ Covers state.2.closed state.1.transactions
  opened : OpenSpans state.2.opened state.1.pending
  located : (state.2.closed.flatten ++ state.2.opened).Sublist (history.filterMap AssemblerEvent.location?)

private theorem located_append {history : List AssemblerEvent} {extents : Extents}
    (located : (extents.closed.flatten ++ extents.opened).Sublist (history.filterMap AssemblerEvent.location?))
    {event : AssemblerEvent} {location : EventLocation} (placed : event.location? = some location) :
    (extents.closed.flatten ++ (extents.opened ++ [location])).Sublist
      ((history ++ [event]).filterMap AssemblerEvent.location?) := by
  rw [← List.append_assoc, List.filterMap_append]
  exact located.append (by simp [placed])

private theorem located_weaken {history : List AssemblerEvent} {locations : List EventLocation}
    (located : locations.Sublist (history.filterMap AssemblerEvent.location?)) (event : AssemblerEvent) :
    locations.Sublist ((history ++ [event]).filterMap AssemblerEvent.location?) := by
  rw [List.filterMap_append]
  exact located.trans (List.sublist_append_left _ _)

/-- A retained RowsQuery text changes neither the transactions nor their ranges. -/
private theorem Ledger.rowsQuery {history : List AssemblerEvent} {state : TransactionAssembler × Extents}
    (ledger : Ledger history state) (query : String) :
    Ledger (history ++ [.rowsQuery query]) (observe state (.rowsQuery query)) :=
  ⟨ledger.closed, ledger.opened, located_weaken ledger.located _⟩

/-- One step keeps the ledger, whichever of its three effects the event has. -/
private theorem Ledger.placed {history : List AssemblerEvent} {state : TransactionAssembler × Extents}
    (ledger : Ledger history state) {event : AssemblerEvent} {location : EventLocation}
    (placed : event.location? = some location) : Ledger (history ++ [event]) (observe state event) := by
  obtain ⟨before, extents⟩ := state
  obtain ⟨closed, opened, located⟩ := ledger
  obtain ⟨absorbed, -, effect⟩ := before.step_effect event
  rw [placed] at effect
  simp only [Pipa.observe, Extents.absorb, placed]
  cases effect with
  | keeps _ transactions _ _ kept extended =>
    cases held : (before.step event).pending with
    | none =>
      have idle : before.pending = none := by
        cases was : before.pending with
        | none => rfl
        | some pending => simp [was, held] at kept
      simp only [transactions, ↓reduceIte, Option.isSome_none, Bool.false_eq_true]
      refine ⟨by simpa only [transactions] using closed, ?_, located_weaken located event⟩
      simpa only [held, idle] using opened
    | some pending =>
      simp only [transactions, ↓reduceIte, Option.isSome_some]
      refine ⟨by simpa only [transactions] using closed, ?_, located_append located placed⟩
      simpa only [held] using opened.extend (extended pending held)
  | settles pending status _ _ extended _ transactions _ emptied =>
    have reported : (before.step event).transactions.length ≠ before.transactions.length := by
      simp [transactions]
    simp only [reported, ↓reduceIte, emptied, Option.isSome_none, Bool.false_eq_true]
    refine ⟨?_, by rw [emptied]; rfl, ?_⟩
    · rw [transactions]
      exact List.rel_append closed (.cons (opened.extend extended) .nil)
    · simpa using located_append located placed
  | displaces pending held _ _ transactions _ _ successor =>
    obtain ⟨next, current, extended⟩ := successor
    have reported : (before.step event).transactions.length ≠ before.transactions.length := by
      simp [transactions]
    simp only [reported, ↓reduceIte, current, Option.isSome_some]
    refine ⟨?_, ?_, ?_⟩
    · rw [transactions]
      rw [held] at opened
      exact List.rel_append closed (.cons opened .nil)
    · have fresh : OpenSpans [] none := rfl
      rw [current]
      exact fresh.extend extended
    · simpa using located_append located placed

end Pipa
