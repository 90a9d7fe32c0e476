import Pipa.QueryRunner

/-! What the collector makes of a query. Only the events up to the first terminal one
are received; the rows, the truncation and the error are functions of those. -/

namespace Pipa.QueryRunner

variable {Row : Type}

def isTerminal : QueryEvent Row → Bool
  | .completed .. | .canceled _ | .failed .. => true
  | .started _ | .schema .. | .batch .. => false

def rowsOf : QueryEvent Row → List Row
  | .batch _ rows => rows
  | _ => []

/-- The events up to the first terminal one, which is the last one received. -/
def received : List (QueryEvent Row) → List (QueryEvent Row)
  | [] => []
  | event :: later => if isTerminal event then [event] else event :: received later

def receivedRows (delivered : List (QueryEvent Row)) : List Row := (received delivered).flatMap rowsOf

/-- The terminal event received, unless the channel closes without one. -/
def conclusion (delivered : List (QueryEvent Row)) : Option (QueryEvent Row) := delivered.find? isTerminal

def Completes (delivered : List (QueryEvent Row)) : Prop :=
  ∃ queryId affectedRows, .completed queryId affectedRows ∈ received delivered

theorem conclusion_received {delivered : List (QueryEvent Row)} {event : QueryEvent Row} :
    conclusion delivered = some event ↔ event ∈ received delivered ∧ isTerminal event = true := by
  induction delivered with
  | nil => simp [conclusion, received]
  | cons first later ih =>
    rw [conclusion] at ih ⊢
    cases terminal : isTerminal first with
    | true =>
      rw [List.find?_cons_of_pos terminal, received, if_pos terminal, List.mem_singleton, Option.some_inj]
      constructor
      · rintro rfl
        exact ⟨rfl, terminal⟩
      · rintro ⟨rfl, -⟩
        rfl
    | false =>
      rw [List.find?_cons_of_neg (by simp [terminal]), ih, received, if_neg (by simp [terminal]), List.mem_cons]
      constructor
      · rintro ⟨member, ends⟩
        exact ⟨Or.inr member, ends⟩
      · rintro ⟨rfl | member, ends⟩
        · rw [terminal] at ends
          cases ends
        · exact ⟨member, ends⟩

theorem completes_conclusion {delivered : List (QueryEvent Row)} :
    Completes delivered ↔ ∃ queryId affectedRows, conclusion delivered = some (.completed queryId affectedRows) := by
  simp [Completes, conclusion_received, isTerminal]

/-! ### The collector -/

/-- The collector holds the first rows of all it was given, and knows whether there were more. -/
structure Collector.Holds (rowLimit : Nat) (rows : List Row) (collector : Collector Row) : Prop where
  first : collector.rows = rows.take rowLimit
  exceeded : collector.truncated = true ↔ rowLimit < rows.length
  stopped : collector.canceledForLimit = collector.truncated

variable {rowLimit : Nat} {rows : List Row} {collector : Collector Row}

theorem Collector.Holds.push (holds : collector.Holds rowLimit rows) (more : List Row) :
    (collector.pushRows rowLimit more).Holds rowLimit (rows ++ more) := by
  induction more generalizing collector rows with
  | nil => simpa [pushRows] using holds
  | cons row more ih =>
    have size : collector.rows.length = min rowLimit rows.length := by rw [holds.first, List.length_take]
    rw [pushRows]
    split
    next full =>
      have reached : rowLimit ≤ rows.length := by omega
      refine ⟨?_, ?_, rfl⟩
      · change collector.rows = _
        rw [holds.first, List.take_append_of_le_length reached]
      · simp only [List.length_append, List.length_cons, true_iff]
        omega
    next room =>
      have below : rows.length < rowLimit := by omega
      have kept : collector.truncated = false := by
        rw [← Bool.not_eq_true, holds.exceeded]
        omega
      rw [List.append_cons]
      apply ih
      refine ⟨?_, ?_, holds.stopped⟩
      · change collector.rows ++ [row] = _
        rw [holds.first, List.take_of_length_le (by omega), List.take_of_length_le (by simp; omega)]
      · change collector.truncated = true ↔ _
        simp only [kept, List.length_append, List.length_singleton, Bool.false_eq_true, false_iff]
        omega

theorem pushRows_error (more : List Row) : (collector.pushRows rowLimit more).error = collector.error := by
  induction more generalizing collector with
  | nil => rfl
  | cons row more ih =>
    rw [Collector.pushRows]
    split
    · rfl
    · rw [ih]

theorem receivedRows_cons {event : QueryEvent Row} (later : List (QueryEvent Row)) (continues : isTerminal event = false) :
    receivedRows (event :: later) = rowsOf event ++ receivedRows later := by
  simp [receivedRows, received, continues]

theorem conclusion_cons {event : QueryEvent Row} (later : List (QueryEvent Row)) (continues : isTerminal event = false) :
    conclusion (event :: later) = conclusion later := by
  simp [conclusion, continues]

/-- What the error of a query is when its terminal event is this one. -/
def reported (exceeds : Prop) [Decidable exceeds] : Option (QueryEvent Row) → Option String
  | some (.canceled _) => if exceeds then none else some "Query was canceled"
  | some (.failed _ error) => some error.message
  | _ => none

theorem receive_holds (holds : collector.Holds rowLimit rows) (clean : collector.error = none)
    (delivered : List (QueryEvent Row)) :
    (collector.receive rowLimit delivered).Holds rowLimit (rows ++ receivedRows delivered) ∧
      (collector.receive rowLimit delivered).error =
        reported (rowLimit < (rows ++ receivedRows delivered).length) (conclusion delivered) := by
  induction delivered generalizing collector rows with
  | nil => simpa [Collector.receive, receivedRows, received, conclusion, reported, clean] using holds
  | cons event later ih =>
    cases event with
    | started queryId =>
      rw [receivedRows_cons later rfl, conclusion_cons later rfl]
      exact ih holds clean
    | schema queryId columns =>
      rw [receivedRows_cons later rfl, conclusion_cons later rfl]
      exact ih ⟨holds.first, holds.exceeded, holds.stopped⟩ clean
    | batch queryId more =>
      rw [receivedRows_cons later rfl, conclusion_cons later rfl, ← List.append_assoc]
      exact ih (holds.push more) (by rw [pushRows_error, clean])
    | completed queryId affectedRows =>
      have empty : receivedRows (.completed queryId affectedRows :: later) = [] := rfl
      rw [empty, List.append_nil]
      exact ⟨⟨holds.first, holds.exceeded, holds.stopped⟩, clean⟩
    | canceled queryId =>
      have empty : receivedRows (.canceled queryId :: later) = [] := rfl
      have ends : conclusion (.canceled queryId :: later) = some (.canceled queryId) := rfl
      rw [empty, List.append_nil, ends, Collector.receive, reported, holds.stopped]
      by_cases exceeds : rowLimit < rows.length
      · rw [if_pos (holds.exceeded.mpr exceeds), if_pos exceeds]
        exact ⟨holds, clean⟩
      · rw [if_neg (fun stopped => exceeds (holds.exceeded.mp stopped)), if_neg exceeds]
        exact ⟨⟨holds.first, holds.exceeded, rfl⟩, rfl⟩
    | failed queryId error =>
      have empty : receivedRows (.failed queryId error :: later) = [] := rfl
      rw [empty, List.append_nil]
      exact ⟨⟨holds.first, holds.exceeded, holds.stopped⟩, rfl⟩

theorem holds_new : (Collector.new : Collector Row).Holds rowLimit [] := ⟨by simp [Collector.new], by simp [Collector.new], rfl⟩

theorem collect_rows (delivered : List (QueryEvent Row)) :
    (collectQueryEvents rowLimit delivered).rows = (receivedRows delivered).take rowLimit :=
  (receive_holds holds_new rfl delivered).1.first

theorem collect_truncated (delivered : List (QueryEvent Row)) :
    (collectQueryEvents rowLimit delivered).truncated = true ↔ rowLimit < (receivedRows delivered).length :=
  (receive_holds holds_new rfl delivered).1.exceeded

theorem collect_error (delivered : List (QueryEvent Row)) :
    (collectQueryEvents rowLimit delivered).error =
      reported (rowLimit < (receivedRows delivered).length) (conclusion delivered) :=
  (receive_holds holds_new rfl delivered).2

/-! ### The outcome -/

/-- The collected rows are the first received, and an unreported query completed or was
stopped by the collector at its limit. -/
structure Faithful (rowLimit : Nat) (delivered : List (QueryEvent Row)) (result : CollectedQueryResult Row) : Prop where
  first : result.rows = (receivedRows delivered).take rowLimit
  exceeded : result.truncated = true ↔ rowLimit < (receivedRows delivered).length
  unreported : result.error = none → Completes delivered ∨ rowLimit < (receivedRows delivered).length

/-- The query of a proposal that the confirmation claims. -/
def Runs (queue : McpQueue) (store : LocalStore) (mysql : MySqlAdapter Row) (queryId proposalId : Uuid)
    (delivered : List (QueryEvent Row)) : Prop :=
  ∃ proposal, (queue.claimForExecute proposalId).1 = .ok proposal ∧
    deliver store mysql queryId proposal.connectionId proposal.sql .ui = .ok delivered

/-- The channel does not close before a terminal event. -/
def Concludes (delivered : List (QueryEvent Row)) : Prop := ∃ event ∈ delivered, isTerminal event = true

/-- The cancellation of the collector was not the end of the query. -/
def Uncanceled (rowLimit : Nat) (delivered : List (QueryEvent Row)) : Prop :=
  ∀ queryId, conclusion delivered = some (.canceled queryId) → (receivedRows delivered).length ≤ rowLimit

theorem concludes_iff {delivered : List (QueryEvent Row)} : Concludes delivered ↔ conclusion delivered ≠ none := by
  simp [Concludes, conclusion]

theorem faithful_iff (delivered : List (QueryEvent Row)) :
    Faithful rowLimit delivered (collectQueryEvents rowLimit delivered) ↔
      Concludes delivered ∨ rowLimit < (receivedRows delivered).length := by
  constructor
  · intro faithful
    by_contra silent
    rw [not_or, concludes_iff, ne_eq, not_not] at silent
    obtain ⟨closes, within⟩ := silent
    have clean : (collectQueryEvents rowLimit delivered).error = none := by
      rw [collect_error, closes]
      rfl
    have unreported := faithful.unreported clean
    rcases unreported with completes | exceeds
    · rw [completes_conclusion, closes] at completes
      obtain ⟨queryId, affectedRows, impossible⟩ := completes
      cases impossible
    · exact within exceeds
  · intro condition
    refine ⟨collect_rows delivered, collect_truncated delivered, ?_⟩
    intro clean
    rw [collect_error] at clean
    rcases condition with concludes | exceeds
    · obtain ⟨event, ends⟩ := Option.ne_none_iff_exists'.mp (concludes_iff.mp concludes)
      rw [ends] at clean
      cases event with
      | completed queryId affectedRows => exact Or.inl (completes_conclusion.mpr ⟨_, _, ends⟩)
      | canceled queryId =>
        rw [reported] at clean
        exact Or.inr (by_contra fun within => by simp [within] at clean)
      | failed queryId error => cases clean
      | _ => cases (conclusion_received.mp ends).2
    · exact Or.inr exceeds

/-- A query leaves no error exactly when it completes, closes silently, or is canceled beyond the limit. -/
theorem clean_completes_iff (delivered : List (QueryEvent Row)) :
    ((collectQueryEvents rowLimit delivered).error = none → Completes delivered) ↔
      Concludes delivered ∧ Uncanceled rowLimit delivered := by
  rw [collect_error, completes_conclusion, concludes_iff, Uncanceled]
  cases ends : conclusion delivered with
  | none => simp [reported]
  | some event =>
    cases event with
    | completed queryId affectedRows => simp
    | canceled queryId => simp [reported]
    | failed queryId error => simp [reported]
    | _ => cases (conclusion_received.mp ends).2

theorem marked_executed {queue : McpQueue} {store : LocalStore} {mysql : MySqlAdapter Row}
    {meanwhile : McpQueue → McpQueue} {queryId proposalId : Uuid} :
    (mcpExecuteProposal queue store mysql meanwhile queryId proposalId).marked = some .executed ↔
      ∃ delivered, Runs queue store mysql queryId proposalId delivered ∧
        (collectQueryEvents mcpReadonlyRowLimit delivered).error = none := by
  simp only [Runs, mcpExecuteProposal]
  obtain ⟨claimed, after⟩ := queue.claimForExecute proposalId
  cases claimed with
  | error error => simp
  | ok proposal =>
    simp only [executeCollected]
    cases ran : deliver store mysql queryId proposal.connectionId proposal.sql .ui with
    | error error => simp [Except.map, proposalOutcome, ran]
    | ok delivered =>
      cases clean : (collectQueryEvents mcpReadonlyRowLimit delivered).error <;>
        simp [Except.map, proposalOutcome, clean, ran]

/-- A collected query is reported faithfully exactly when its channel does not close
before a terminal event, unless the collector stopped it; and a confirmed proposal is
marked executed only after its whole text completed exactly when its query ends in a
terminal event that is not the collector's own cancellation. -/
theorem collected_outcome_iff (rowLimit : Nat) (delivered : List (QueryEvent Row)) (queue : McpQueue)
    (store : LocalStore) (mysql : MySqlAdapter Row) (meanwhile : McpQueue → McpQueue) (queryId proposalId : Uuid) :
    (Faithful rowLimit delivered (collectQueryEvents rowLimit delivered) ∧
        ((mcpExecuteProposal queue store mysql meanwhile queryId proposalId).marked = some .executed →
          ∃ ran, Runs queue store mysql queryId proposalId ran ∧ Completes ran)) ↔
      (Concludes delivered ∨ rowLimit < (receivedRows delivered).length) ∧
        ∀ ran, Runs queue store mysql queryId proposalId ran → Concludes ran ∧ Uncanceled mcpReadonlyRowLimit ran := by
  rw [faithful_iff, marked_executed]
  refine and_congr_right fun _ => ?_
  have only : ∀ {first second}, Runs queue store mysql queryId proposalId first →
      Runs queue store mysql queryId proposalId second → first = second := by
    rintro first second ⟨proposal, claimed, ran⟩ ⟨proposal', claimed', ran'⟩
    obtain rfl := Except.ok.inj (claimed.symm.trans claimed')
    exact Except.ok.inj (ran.symm.trans ran')
  constructor
  · intro completes ran runs
    rw [← clean_completes_iff]
    intro clean
    obtain ⟨other, runs', completed⟩ := completes ⟨ran, runs, clean⟩
    exact only runs' runs ▸ completed
  · rintro condition ⟨ran, runs, clean⟩
    exact ⟨ran, runs, (clean_completes_iff ran).mpr (condition ran runs) clean⟩

/-- A proposal whose first statement returns more rows than are collected. -/
def longProposal : PendingSqlProposal :=
  { id := ⟨"p"⟩, connectionId := ⟨"c"⟩, sql := "SELECT * FROM log; DELETE FROM log", risk := .unknown
    sourceTool := "propose_sql", createdAt := "", status := .pending, resultSummary := none }

def longStore : LocalStore :=
  ⟨.ok [{ id := ⟨"c"⟩, name := "c", engine := .mySql, database := none }], fun _ => .ok ""⟩

/-- The adapter at a batch of 256 rows, before the second statement runs. -/
def longQuery : MySqlAdapter Unit := fun _ _ _ request =>
  ([.started request.queryId, .schema request.queryId [], .batch request.queryId (List.replicate 256 ()),
    .canceled request.queryId], .ok ())

/-- A channel that closes silently leaves no error, and a proposal whose second
statement never ran is marked executed. -/
theorem unfinished_query_executed :
    ¬ (∀ (rowLimit : Nat) (delivered : List (QueryEvent Unit)),
        Faithful rowLimit delivered (collectQueryEvents rowLimit delivered)) ∧
      ¬ (∀ (queue : McpQueue) (store : LocalStore) (mysql : MySqlAdapter Unit) (meanwhile : McpQueue → McpQueue)
        (queryId proposalId : Uuid),
        (mcpExecuteProposal queue store mysql meanwhile queryId proposalId).marked = some .executed →
          ∃ ran, Runs queue store mysql queryId proposalId ran ∧ Completes ran) := by
  constructor
  · intro faithful
    have unreported := (faithful 1 []).unreported rfl
    simp [Completes, received, receivedRows] at unreported
  · intro executed
    obtain ⟨ran, ⟨proposal, claimed, delivered⟩, completes⟩ :=
      executed ⟨[longProposal]⟩ longStore longQuery id ⟨"q"⟩ ⟨"p"⟩ (by decide +kernel)
    have same : deliver longStore longQuery ⟨"q"⟩ ⟨"c"⟩ proposal.sql .ui = .ok ran := by
      obtain rfl := Except.ok.inj claimed
      exact delivered
    obtain rfl := Except.ok.inj same
    obtain ⟨queryId, affectedRows, ends⟩ := completes_conclusion.mp completes
    cases ends

end Pipa.QueryRunner
