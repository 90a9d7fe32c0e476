import Pipa.BinlogWorkspace
import Pipa.Proofs.AssemblerConservation
import Pipa.Proofs.BinlogPages

/-! The timeline across imports, filters and late replies. Every effect takes a generation of
its own, and of the current one at most one request is under way, for the page that comes next. -/

namespace Pipa.BinlogWorkspace
open BinlogRepository Runs

/-! ### One generation -/

/-- What the current analysis has under a filter. -/
def matching (timeline : Timeline) (filter : TimelineFilter) : List BinlogTransactionSummary :=
  timeline.transactions.filterMap (summarizeTransaction · (transactionFilter filter none))

/-- The rows that are shown, and the cursor, once the first page has come. -/
def Reached (timeline : Timeline) (filter : TimelineFilter) : List BinlogTransactionSummary → Option String → Prop :=
  Pages.Reached (fun cursor => behind timeline (transactionFilter filter none) (cursorSequence cursor)) Issued

/-- How far the requests of one generation have got: those under way, the rows, the next cursor
and whether they are shown as loading. -/
inductive Progress (analysisId : Uuid) (timeline : Timeline) (generation : Nat) (filter : TimelineFilter) (failed : List Nat) :
    List ListRequest → List BinlogTransactionSummary → Option String → Bool → Prop where
  | opening : Progress analysisId timeline generation filter failed
      [⟨generation, analysisId, transactionFilter filter none, false⟩] [] none true
  | refused (loading : Bool) (listed : generation ∈ failed) : Progress analysisId timeline generation filter failed [] [] none loading
  | shown {rows : List BinlogTransactionSummary} {cursor : Option String} (loading : Bool)
      (reached : Reached timeline filter rows cursor) :
      Progress analysisId timeline generation filter failed [] rows cursor loading
  | extending {rows : List BinlogTransactionSummary} {cursor : String} (reached : Reached timeline filter rows (some cursor)) :
      Progress analysisId timeline generation filter failed
        [⟨generation, analysisId, transactionFilter filter (some cursor), true⟩] rows (some cursor) true

/-- Every page that is asked for with an issued cursor accounts for what that leaves open. -/
theorem paginate_accounts (timeline : Timeline) (filter : TimelineFilter) {cursor : Option String} (issued : Issued cursor)
    {page : BinlogTransactionPage} (answered : paginateTransactions timeline.transactions (transactionFilter filter cursor) = .ok page) :
    Pages.Accounts (fun cursor => behind timeline (transactionFilter filter none) (cursorSequence cursor)) Issued cursor
      ⟨page.items, page.nextCursor⟩ := by
  obtain ⟨other, fetched, -, accounts⟩ :=
    fetch_accounts timeline (transactionFilter filter none) (fun _ => some pageSize) 0 issued
  have asked : paginateTransactions timeline.transactions { transactionFilter filter none with cursor, limit := some pageSize } =
      .ok page := answered
  have same : fetch timeline (transactionFilter filter none) (fun _ => some pageSize) 0 cursor = some ⟨page.items, page.nextCursor⟩ := by
    simp only [fetch, asked]
  rw [same] at fetched
  rw [Option.some.inj fetched]
  exact accounts

section
variable {analysisId : Uuid} {timeline : Timeline} {generation : Nat} {filter : TimelineFilter} {failed : List Nat}
  {asked : List ListRequest} {rows : List BinlogTransactionSummary} {cursor : Option String} {loading : Bool}

/-- At most one request is under way, of the current analysis. -/
theorem Progress.single (progress : Progress analysisId timeline generation filter failed asked rows cursor loading)
    {request : ListRequest} (member : request ∈ asked) : asked = [request] ∧ request.analysisId = analysisId := by
  cases progress with
  | opening =>
    obtain rfl := List.mem_singleton.mp member
    exact ⟨rfl, rfl⟩
  | refused | shown => cases member
  | extending =>
    obtain rfl := List.mem_singleton.mp member
    exact ⟨rfl, rfl⟩

/-- A page is put where it belongs. -/
theorem Progress.accept {request : ListRequest} {page : BinlogTransactionPage}
    (progress : Progress analysisId timeline generation filter failed [request] rows cursor loading)
    (answered : paginateTransactions timeline.transactions request.request = .ok page) :
    Progress analysisId timeline generation filter failed []
      (if request.more then rows ++ page.items else page.items) page.nextCursor false := by
  cases progress with
  | opening =>
    have accounts := paginate_accounts timeline filter (by simp [Issued]) answered
    exact .shown false (.first accounts)
  | extending reached =>
    obtain ⟨issued, -⟩ := reached.more _ rfl
    have accounts := paginate_accounts timeline filter issued answered
    exact .shown false (reached.extend accounts)

theorem Progress.reject {request : ListRequest} {failed' : List Nat}
    (progress : Progress analysisId timeline generation filter failed [request] rows cursor loading) (listed : generation ∈ failed') :
    Progress analysisId timeline generation filter failed' [] rows cursor false := by
  cases progress with
  | opening => exact .refused false listed
  | extending reached => exact .shown false reached

/-- Another page is asked for behind the rows that are shown. -/
theorem Progress.extend {next : String}
    (progress : Progress analysisId timeline generation filter failed asked rows (some next) false) :
    asked = [] ∧ Progress analysisId timeline generation filter failed
      [⟨generation, analysisId, transactionFilter filter (some next), true⟩] rows (some next) true := by
  cases progress with
  | shown _ reached => exact ⟨rfl, .extending reached⟩

theorem Progress.listed {failed' : List Nat} (kept : ∀ generation ∈ failed, generation ∈ failed')
    (progress : Progress analysisId timeline generation filter failed asked rows cursor loading) :
    Progress analysisId timeline generation filter failed' asked rows cursor loading := by
  cases progress with
  | opening => exact .opening
  | refused _ listed => exact .refused _ (kept _ listed)
  | shown _ reached => exact .shown _ reached
  | extending reached => exact .extending reached

/-- With nothing under way and nothing refused, what is shown has been reached. -/
theorem Progress.reached (progress : Progress analysisId timeline generation filter failed [] rows cursor loading)
    (unfailed : generation ∉ failed) : Reached timeline filter rows cursor := by
  cases progress with
  | refused _ listed => exact absurd listed unfailed
  | shown _ reached => exact reached

end

/-! ### The invariant -/

/-- The requests of one generation. -/
def asked (generation : Nat) (pending : List ListRequest) : List ListRequest :=
  pending.filter fun request => decide (request.generation = generation)

def State.Progresses (analysisId : Uuid) (timeline : Timeline) (state : State) : Prop :=
  Progress analysisId timeline state.timelineGeneration state.filter state.failed
    (asked state.timelineGeneration state.pending) state.transactions state.nextCursor state.timelineLoading

structure Consistent (analysisOf : Nat → Uuid) (state : State) : Prop where
  generations : ∀ request ∈ state.pending, request.generation ≤ state.timelineGeneration
  hydrating : ∀ run ∈ state.hydrating, run ≤ state.activeRun ∧ state.analyses (analysisOf run) ≠ none
  hydrated : state.mounted = true → state.activeRun ∈ state.hydrating → state.analysisId = some (analysisOf state.activeRun)
  ready : state.mounted = true → state.phase = .ready →
    state.analysisId = some (analysisOf state.activeRun) ∧ state.analyses (analysisOf state.activeRun) ≠ none
  progress : state.mounted = true → state.phase = .ready → state.effectDue = false →
    ∀ timeline, state.analyses (analysisOf state.activeRun) = some timeline →
      state.Progresses (analysisOf state.activeRun) timeline

variable {analysisOf : Nat → Uuid} {state : State}

theorem consistent_initial : Consistent analysisOf {} := by
  refine ⟨?_, ?_, ?_, ?_, ?_⟩
  · intro request member
    cases member
  · intro run member
    cases member
  · intro _ member
    cases member
  · intro _ ready
    cases ready
  · intro _ ready
    cases ready

theorem Consistent.setPhase (consistent : Consistent analysisOf state) {phase : ImportPhase} (unready : phase ≠ .ready) :
    Consistent analysisOf (state.setPhase phase) := by
  refine ⟨consistent.generations, consistent.hydrating, consistent.hydrated, ?_, ?_⟩
  · intro _ ready
    exact absurd ready unready
  · intro _ ready
    exact absurd ready unready

theorem Consistent.setAnalysisId (consistent : Consistent analysisOf state) :
    Consistent analysisOf (state.setAnalysisId (some (analysisOf state.activeRun))) := by
  refine ⟨consistent.generations, consistent.hydrating, fun _ _ => rfl, ?_, ?_⟩
  · intro mounted ready
    exact ⟨rfl, (consistent.ready mounted ready).2⟩
  · intro mounted ready settled
    exact consistent.progress mounted ready (Bool.or_eq_false_iff.mp settled).1

theorem Consistent.setFilter (consistent : Consistent analysisOf state) (filter : TimelineFilter) :
    Consistent analysisOf (state.setFilter filter) := by
  refine ⟨consistent.generations, consistent.hydrating, consistent.hydrated, consistent.ready, ?_⟩
  intro _ _ settled
  cases settled

theorem Consistent.beginImport (consistent : Consistent analysisOf state) : Consistent analysisOf state.beginImport := by
  rw [State.beginImport]
  split
  next =>
    refine ⟨consistent.generations, ?_, ?_, ?_, ?_⟩
    · intro run member
      obtain ⟨earlier, known⟩ := consistent.hydrating run member
      exact ⟨Nat.le_succ_of_le earlier, known⟩
    · intro _ member
      exact absurd (consistent.hydrating _ member).1 (Nat.not_succ_le_self _)
    · intro _ ready
      cases ready
    · intro _ ready
      cases ready
  next => exact consistent

theorem Consistent.retained (consistent : Consistent analysisOf state) {analysisId : Uuid} (fresh : state.analyses analysisId = none)
    (timeline : Timeline) :
    Consistent analysisOf { state with analyses := Function.update state.analyses analysisId (some timeline) } := by
  have kept {other : Uuid} (known : state.analyses other ≠ none) :
      Function.update state.analyses analysisId (some timeline) other = state.analyses other := by
    apply Function.update_of_ne
    intro same
    rw [same] at known
    exact known fresh
  refine ⟨consistent.generations, ?_, consistent.hydrated, ?_, ?_⟩
  · intro run member
    obtain ⟨earlier, known⟩ := consistent.hydrating run member
    refine ⟨earlier, ?_⟩
    change Function.update state.analyses analysisId (some timeline) (analysisOf run) ≠ none
    rw [kept known]
    exact known
  · intro mounted ready
    obtain ⟨identified, known⟩ := consistent.ready mounted ready
    refine ⟨identified, ?_⟩
    change Function.update state.analyses analysisId (some timeline) (analysisOf state.activeRun) ≠ none
    rw [kept known]
    exact known
  · intro mounted ready settled other found
    obtain ⟨-, known⟩ := consistent.ready mounted ready
    change Function.update state.analyses analysisId (some timeline) (analysisOf state.activeRun) = some other at found
    rw [kept known] at found
    exact consistent.progress mounted ready settled other found

theorem Consistent.completed (consistent : Consistent analysisOf state) (known : state.analyses (analysisOf state.activeRun) ≠ none) :
    Consistent analysisOf { (state.setAnalysisId (some (analysisOf state.activeRun))).setPhase .loading with
      hydrating := state.activeRun :: state.hydrating } := by
  refine ⟨consistent.generations, ?_, fun _ _ => rfl, ?_, ?_⟩
  · intro run member
    rcases List.mem_cons.mp member with same | later
    · rw [same]
      exact ⟨Nat.le_refl _, known⟩
    · exact consistent.hydrating run later
  · intro _ ready
    cases ready
  · intro _ ready
    cases ready

/-- The summary makes the analysis ready, and its timeline is read unless it was ready before. -/
theorem Consistent.loaded (consistent : Consistent analysisOf state) (mounted : state.mounted = true)
    (reading : state.activeRun ∈ state.hydrating) :
    Consistent analysisOf { state.setPhase .ready with hydrating := state.hydrating.erase state.activeRun } := by
  obtain ⟨-, known⟩ := consistent.hydrating _ reading
  refine ⟨consistent.generations, ?_, ?_, ?_, ?_⟩
  · intro run member
    exact consistent.hydrating run (List.mem_of_mem_erase member)
  · intro _ _
    exact consistent.hydrated mounted reading
  · intro _ _
    exact ⟨consistent.hydrated mounted reading, known⟩
  · intro _ _ settled
    obtain ⟨settled, same⟩ := Bool.or_eq_false_iff.mp settled
    have ready : state.phase = .ready := by simpa using same
    exact consistent.progress mounted ready settled

theorem Consistent.erased (consistent : Consistent analysisOf state) (run : Nat) :
    Consistent analysisOf { state with hydrating := state.hydrating.erase run } := by
  refine ⟨consistent.generations, ?_, ?_, consistent.ready, consistent.progress⟩
  · intro other member
    exact consistent.hydrating other (List.mem_of_mem_erase member)
  · intro mounted member
    exact consistent.hydrated mounted (List.mem_of_mem_erase member)

/-! ### Requests and replies -/

theorem asked_other {pending : List ListRequest} {generation : Nat} (older : ∀ request ∈ pending, request.generation ≤ generation) :
    asked (generation + 1) pending = [] := by
  rw [asked, List.filter_eq_nil_iff]
  intro request member
  have earlier := older request member
  simp only [decide_eq_true_eq]
  omega

theorem asked_concat (pending : List ListRequest) (request : ListRequest) :
    asked request.generation (pending ++ [request]) = asked request.generation pending ++ [request] := by
  rw [asked, List.filter_append]
  simp [asked]

/-- A reply takes its own request away and no other. -/
theorem asked_erase {pending : List ListRequest} {index : Nat} {request : ListRequest} (found : pending[index]? = some request)
    (generation : Nat) :
    request.generation = generation ∧ (∃ before after, asked generation pending = before ++ request :: after ∧
      asked generation (pending.eraseIdx index) = before ++ after) ∨
    request.generation ≠ generation ∧ asked generation (pending.eraseIdx index) = asked generation pending := by
  have split : pending = pending.take index ++ request :: pending.drop (index + 1) := by
    obtain ⟨bound, same⟩ := List.getElem?_eq_some_iff.mp found
    rw [← same, List.getElem_cons_drop, List.take_append_drop]
  rw [List.eraseIdx_eq_take_drop_succ]
  by_cases current : request.generation = generation
  · refine .inl ⟨current, asked generation (pending.take index), asked generation (pending.drop (index + 1)), ?_, ?_⟩
    · conv_lhs => rw [split]
      simp [asked, current]
    · rw [asked, List.filter_append]
      rfl
  · refine .inr ⟨current, ?_⟩
    conv_rhs => rw [split]
    simp [asked, current]

/-- The effect starts a generation of which nothing is under way but the first page. -/
theorem Consistent.timelineEffect (consistent : Consistent analysisOf state) (mounted : state.mounted = true) :
    Consistent analysisOf state.timelineEffect := by
  rw [State.timelineEffect]
  split
  next due =>
    split
    next analysisId identified =>
      split
      next ready =>
        obtain ⟨same, known⟩ := consistent.ready mounted ready
        rw [identified] at same
        obtain rfl := Option.some.inj same
        refine ⟨?_, consistent.hydrating, consistent.hydrated, consistent.ready, ?_⟩
        · intro request member
          rcases List.mem_append.mp member with earlier | last
          · exact Nat.le_succ_of_le (consistent.generations request earlier)
          · rw [List.mem_singleton.mp last]
        · intro _ _ _ timeline _
          have alone := asked_concat state.pending ⟨state.timelineGeneration + 1, analysisOf state.activeRun,
            transactionFilter state.filter none, false⟩
          rw [asked_other consistent.generations, List.nil_append] at alone
          change Progress _ timeline (state.timelineGeneration + 1) state.filter state.failed (asked _ _) [] none true
          rw [alone]
          exact .opening
      next unready =>
        refine ⟨consistent.generations, consistent.hydrating, consistent.hydrated, consistent.ready, ?_⟩
        intro _ ready
        exact absurd ready unready
    next missing =>
      refine ⟨consistent.generations, consistent.hydrating, consistent.hydrated, consistent.ready, ?_⟩
      intro mounted ready
      rw [(consistent.ready mounted ready).1] at missing
      cases missing
  next => exact consistent

theorem Consistent.loadMoreTransactions (consistent : Consistent analysisOf state) :
    Consistent analysisOf state.loadMoreTransactions := by
  rw [State.loadMoreTransactions]
  split
  next analysisId nextCursor identified following =>
    split
    next => exact consistent
    next allowed =>
      refine ⟨?_, consistent.hydrating, consistent.hydrated, consistent.ready, ?_⟩
      · intro request member
        rcases List.mem_append.mp member with earlier | last
        · exact consistent.generations request earlier
        · rw [List.mem_singleton.mp last]
      · intro mounted ready settled timeline known
        have idle : state.timelineLoading = false := by
          simpa using (not_or.mp allowed).2
        obtain ⟨same, -⟩ := consistent.ready mounted ready
        rw [identified] at same
        obtain rfl := Option.some.inj same
        have progress := consistent.progress mounted ready settled timeline known
        rw [State.Progresses, following, idle] at progress
        obtain ⟨quiet, extended⟩ := progress.extend
        have alone := asked_concat state.pending ⟨state.timelineGeneration, analysisOf state.activeRun,
          transactionFilter state.filter (some nextCursor), true⟩
        rw [quiet, List.nil_append] at alone
        change Progress _ timeline state.timelineGeneration state.filter state.failed (asked _ _) state.transactions state.nextCursor true
        rw [alone, following]
        exact extended
  next => exact consistent

/-- In a ready workspace a reply that is awaited is the only one, and is the current analysis'. -/
theorem Consistent.awaited (consistent : Consistent analysisOf state) {index : Nat} {request : ListRequest}
    (found : state.pending[index]? = some request) (current : request.generation = state.timelineGeneration)
    (mounted : state.mounted = true) (ready : state.phase = .ready) (settled : state.effectDue = false) {timeline : Timeline}
    (known : state.analyses (analysisOf state.activeRun) = some timeline) :
    asked state.timelineGeneration (state.pending.eraseIdx index) = [] ∧ request.analysisId = analysisOf state.activeRun ∧
      Progress (analysisOf state.activeRun) timeline state.timelineGeneration state.filter state.failed [request]
        state.transactions state.nextCursor state.timelineLoading := by
  have progress := consistent.progress mounted ready settled timeline known
  rw [State.Progresses] at progress
  obtain ⟨-, before, after, split, erased⟩ | ⟨stale, -⟩ := asked_erase found state.timelineGeneration
  · rw [split] at progress
    obtain ⟨alone, identified⟩ := progress.single (List.mem_append_right before List.mem_cons_self)
    rw [alone] at progress
    obtain ⟨rfl, rest⟩ := List.append_eq_singleton_iff.mp alone |>.resolve_right (by simp)
    obtain rfl := (List.cons.inj rest).2
    exact ⟨erased, identified, progress⟩
  · exact absurd current stale

theorem Consistent.replied (consistent : Consistent analysisOf state) {index : Nat} {request : ListRequest}
    (found : state.pending[index]? = some request) {page : BinlogTransactionPage}
    (answered : state.listBinlogTransactions request = .ok page) :
    Consistent analysisOf { (state.acceptPage request page) with pending := state.pending.eraseIdx index } := by
  rw [State.acceptPage]
  split
  next awaits =>
    refine ⟨fun other member => consistent.generations other (List.mem_of_mem_eraseIdx member), consistent.hydrating,
      consistent.hydrated, consistent.ready, ?_⟩
    intro mounted ready settled timeline known
    obtain ⟨quiet, identified, progress⟩ := consistent.awaited found awaits.2 mounted ready settled known
    change state.analyses (analysisOf state.activeRun) = some timeline at known
    rw [State.listBinlogTransactions, identified, known] at answered
    have accepted := progress.accept answered
    change Progress _ timeline state.timelineGeneration state.filter state.failed (asked _ _) _ page.nextCursor false
    rw [quiet]
    exact accepted
  next ignored =>
    refine ⟨fun other member => consistent.generations other (List.mem_of_mem_eraseIdx member), consistent.hydrating,
      consistent.hydrated, consistent.ready, ?_⟩
    intro mounted ready settled timeline known
    have progress := consistent.progress mounted ready settled timeline known
    obtain ⟨current, -⟩ | ⟨-, same⟩ := asked_erase found state.timelineGeneration
    · exact absurd ⟨mounted, current⟩ ignored
    · change Progress _ timeline state.timelineGeneration state.filter state.failed (asked _ _) state.transactions _ _
      rw [same]
      exact progress

theorem Consistent.refused (consistent : Consistent analysisOf state) {index : Nat} {request : ListRequest}
    (found : state.pending[index]? = some request) (message : String) :
    Consistent analysisOf { (state.rejectPage request message) with
      pending := state.pending.eraseIdx index, failed := request.generation :: state.failed } := by
  rw [State.rejectPage]
  split
  next awaits =>
    refine ⟨fun other member => consistent.generations other (List.mem_of_mem_eraseIdx member), consistent.hydrating,
      consistent.hydrated, consistent.ready, ?_⟩
    intro mounted ready settled timeline known
    obtain ⟨quiet, -, progress⟩ := consistent.awaited found awaits.2 mounted ready settled known
    have listed : state.timelineGeneration ∈ request.generation :: state.failed := by
      rw [awaits.2]
      exact List.mem_cons_self
    have rejected := progress.reject listed
    change Progress _ timeline state.timelineGeneration state.filter _ (asked _ _) state.transactions state.nextCursor false
    rw [quiet]
    exact rejected
  next ignored =>
    refine ⟨fun other member => consistent.generations other (List.mem_of_mem_eraseIdx member), consistent.hydrating,
      consistent.hydrated, consistent.ready, ?_⟩
    intro mounted ready settled timeline known
    have progress := consistent.progress mounted ready settled timeline known
    obtain ⟨current, -⟩ | ⟨-, same⟩ := asked_erase found state.timelineGeneration
    · exact absurd ⟨mounted, current⟩ ignored
    · change Progress _ timeline state.timelineGeneration state.filter _ (asked _ _) state.transactions _ _
      rw [same]
      exact progress.listed fun _ => List.mem_cons_of_mem _

/-! ### Runs -/

theorem consistent_step (state : State) (event : Event) (consistent : Consistent analysisOf state) :
    Consistent analysisOf (step analysisOf state event) := by
  cases event with
  | beginImport => exact consistent.beginImport
  | retained analysisId timeline =>
    rw [step]
    split
    next fresh => exact consistent.retained fresh timeline
    next => exact consistent
  | reported run =>
    rw [step]
    split
    next current =>
      rw [current.2]
      exact consistent.setAnalysisId
    next => exact consistent
  | completed run =>
    rw [step]
    split
    next allowed =>
      obtain ⟨⟨-, rfl⟩, known⟩ := allowed
      exact consistent.completed known
    next => exact consistent
  | hydrated run loaded =>
    rw [step]
    split
    next allowed =>
      obtain ⟨reading, mounted, rfl⟩ := allowed
      cases loaded with
      | true => exact consistent.loaded mounted reading
      | false => exact (consistent.setPhase (by decide)).erased state.activeRun
    next => exact consistent
  | ended run canceled =>
    rw [step]
    split
    next current =>
      rw [current.2]
      refine consistent.setAnalysisId.setPhase ?_
      cases canceled <;> decide
    next => exact consistent
  | startFailed run =>
    rw [step]
    split
    next => exact consistent.setPhase (by decide)
    next => exact consistent
  | pickerFailed =>
    rw [step]
    split
    next => exact consistent.setPhase (by decide)
    next => exact consistent
  | setDatabase database => exact consistent.setFilter _
  | setTable table => exact consistent.setFilter _
  | setOperation operation => exact consistent.setFilter _
  | reload =>
    refine ⟨consistent.generations, consistent.hydrating, consistent.hydrated, consistent.ready, ?_⟩
    intro _ _ settled
    cases settled
  | timelineEffect =>
    rw [step]
    split
    next mounted => exact consistent.timelineEffect mounted
    next => exact consistent
  | loadMoreTransactions => exact consistent.loadMoreTransactions
  | replied index =>
    rw [step]
    split
    next request found =>
      split
      next page answered => exact consistent.replied found answered
      next => exact consistent
    next => exact consistent
  | refused index message =>
    rw [step]
    split
    next request found => exact consistent.refused found message
    next => exact consistent
  | unmount =>
    refine ⟨?_, ?_, ?_, ?_, ?_⟩
    · intro request member
      exact Nat.le_succ_of_le (consistent.generations request member)
    · intro run member
      obtain ⟨earlier, known⟩ := consistent.hydrating run member
      exact ⟨Nat.le_succ_of_le earlier, known⟩
    all_goals
      intro mounted
      cases mounted

theorem consistent_run (analysisOf : Nat → Uuid) (events : List Event) :
    Consistent analysisOf (run (step analysisOf) {} events) :=
  @run_preserves State Event (step analysisOf) {} (Consistent analysisOf) consistent_initial consistent_step events

/-- No list request of the current generation is under way or has failed. One that the effect of
a render is still to send is under way from the change on. -/
def State.Quiet (state : State) : Prop :=
  state.effectDue = false ∧ (∀ request ∈ state.pending, request.generation ≠ state.timelineGeneration) ∧
    state.timelineGeneration ∉ state.failed

instance (state : State) : Decidable state.Quiet := inferInstanceAs (Decidable (_ ∧ _ ∧ _))

/-- The rows are the front of what matches, in order and each once, and all of it when there is
no next cursor. -/
structure ShowsMatching (timeline : Timeline) (state : State) : Prop where
  front : state.transactions <+: matching timeline state.filter
  sequences : state.transactions.map BinlogTransactionSummary.sequence <+:
    (timeline.transactions.filter (Matches (transactionFilter state.filter none))).map BinlogTransaction.sequence
  ordered : state.transactions.Pairwise fun earlier later => earlier.sequence < later.sequence
  once : state.transactions.Nodup
  complete : state.transactions = matching timeline state.filter ↔ state.nextCursor = none

theorem Reached.showsMatching {timeline : Timeline} (reached : Reached timeline state.filter state.transactions state.nextCursor) :
    ShowsMatching timeline state := by
  have whole : behind timeline (transactionFilter state.filter none) (cursorSequence none) = matching timeline state.filter :=
    behind_zero timeline (transactionFilter state.filter none)
  have front := reached.isPrefix
  have complete := reached.complete_iff
  simp only [whole] at front complete
  have ordered : state.transactions.Pairwise fun earlier later => earlier.sequence < later.sequence := by
    apply List.Pairwise.sublist front.sublist
    rw [← whole]
    exact behind_increasing timeline (transactionFilter state.filter none) 0
  refine ⟨front, ?_, ordered, ?_, complete⟩
  · rw [← behind_zero_sequences, behind_zero]
    exact front.map _
  · apply ordered.imp
    intro earlier later less same
    rw [same] at less
    exact Nat.lt_irrefl _ less

/-- Whatever the order of imports, filters, reloads, pages, replies and failures, a ready
workspace in which no list request of the current generation is under way or has failed shows
the matching transactions of the current analysis. -/
theorem timeline_shows_matching (analysisOf : Nat → Uuid) (events : List Event)
    (mounted : (run (step analysisOf) {} events).mounted = true) (ready : (run (step analysisOf) {} events).phase = .ready)
    (quiet : (run (step analysisOf) {} events).Quiet) :
    ∃ analysisId timeline, (run (step analysisOf) {} events).analysisId = some analysisId ∧
      (run (step analysisOf) {} events).analyses analysisId = some timeline ∧
      ShowsMatching timeline (run (step analysisOf) {} events) := by
  have consistent := consistent_run analysisOf events
  obtain ⟨identified, known⟩ := consistent.ready mounted ready
  obtain ⟨timeline, retained⟩ := Option.ne_none_iff_exists'.mp known
  refine ⟨_, timeline, identified, retained, ?_⟩
  obtain ⟨settled, answered, unfailed⟩ := quiet
  have progress := consistent.progress mounted ready settled timeline retained
  have none : asked (run (step analysisOf) {} events).timelineGeneration (run (step analysisOf) {} events).pending = [] := by
    rw [asked, List.filter_eq_nil_iff]
    intro request member
    simpa using answered request member
  rw [State.Progresses, none] at progress
  exact (progress.reached unfailed).showsMatching

/-- The transactions that an assembler makes, as long as their numbers fit into 64 bits. -/
def assembled (analysisId : Uuid) (events : List AssemblerEvent) (fits : (assemble analysisId events).length < 18446744073709551615) :
    Timeline where
  transactions := assemble analysisId events
  increasing := by
    rw [← List.pairwise_map, assemble_sequences]
    exact List.pairwise_lt_range'
  positive := by
    intro transaction member
    have numbered := List.mem_map_of_mem member (f := BinlogTransaction.sequence)
    rw [assemble_sequences] at numbered
    exact (List.mem_range'_1.mp numbered).1
  small := by
    intro transaction member
    have numbered := List.mem_map_of_mem member (f := BinlogTransaction.sequence)
    rw [assemble_sequences] at numbered
    have bound := (List.mem_range'_1.mp numbered).2
    omega

/-- More commits than one page shows. -/
def commits : List AssemblerEvent :=
  (List.range 51).map fun index => .xid index ⟨"2024-01-01T00:00:00Z", 1, "mysql-bin.000001", 4 + index, 120⟩

def commitTimeline : Timeline := assembled ⟨"a1"⟩ commits (by decide +kernel)

/-- A filter is set while the first page is read, whose reply comes late, and a second page is read. -/
def pagedCommits : List Event :=
  [.beginImport, .reported 1, .retained ⟨"a1"⟩ commitTimeline, .completed 1, .hydrated 1 true, .timelineEffect,
    .setOperation none, .timelineEffect, .replied 0, .replied 0, .loadMoreTransactions, .replied 0]

theorem timeline_shows_matching_paged :
    ∃ analysisId timeline, (run (step fun _ => ⟨"a1"⟩) {} pagedCommits).analysisId = some analysisId ∧
      (run (step fun _ => ⟨"a1"⟩) {} pagedCommits).analyses analysisId = some timeline ∧
      ShowsMatching timeline (run (step fun _ => ⟨"a1"⟩) {} pagedCommits) :=
  timeline_shows_matching (fun _ => ⟨"a1"⟩) pagedCommits (by decide +kernel) (by decide +kernel) (by decide +kernel)

end Pipa.BinlogWorkspace
