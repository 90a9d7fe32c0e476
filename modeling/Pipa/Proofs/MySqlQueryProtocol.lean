import Pipa.MySqlQuery

/-! The protocol of one MySQL query: which words its events form, and how the batches
relate to the rows that the driver produced. -/

namespace Pipa.MySqlQuery
open Sending

/-- The rows before the first other item. -/
def leadingRows : List DriverItem → List MySqlRow
  | .row row :: items => row :: leadingRows items
  | _ => []

def behindLeading : List DriverItem → List DriverItem
  | .row _ :: items => behindLeading items
  | items => items

/-- The rows of the first statement that produced any. -/
def firstRows : List DriverItem → List MySqlRow
  | [] => []
  | .row row :: items => row :: leadingRows items
  | .result _ :: items | .failed _ :: items => firstRows items

def allRows (items : List DriverItem) : List MySqlRow :=
  items.filterMap fun
    | .row row => some row
    | .result _ | .failed _ => none

/-- The rows of all statements behind the first that produced any. -/
def laterRows : List DriverItem → List MySqlRow
  | [] => []
  | .row _ :: items => allRows (behindLeading items)
  | .result _ :: items | .failed _ :: items => laterRows items

/-- The events that end a query without completing it. -/
inductive Failure (queryId : Uuid) : QueryEvent Cells → Prop
  | canceled : Failure queryId (.canceled queryId)
  | failed (error : AppError) : Failure queryId (.failed queryId error)

def Sized (batches : List (List Cells)) : Prop := ∀ batch ∈ batches, 1 ≤ batch.length ∧ batch.length ≤ maxBatchRows

/-- What the loop has sent of the expected rows, and how it left. -/
inductive Streamed (queryId : Uuid) (expected : List (Except SqlxError Cells)) (later : List MySqlRow) :
    List (QueryEvent Cells) → Option Streaming → Prop
  | stopped (batches : List (List Cells)) (last : QueryEvent Cells) (failure : Failure queryId last) (sized : Sized batches)
      (front : batches.flatten.map Except.ok <+: expected) :
      Streamed queryId expected later (batches.map (.batch queryId) ++ [last]) none
  | ended (batches : List (List Cells)) (state : Streaming) (sized : Sized batches) (small : state.batch.length < maxBatchRows)
      (whole : (batches.flatten ++ state.batch).map Except.ok = expected) (nothing : later = []) :
      Streamed queryId expected later (batches.map (.batch queryId)) (some state)

theorem Streamed.failed {queryId : Uuid} {expected : List (Except SqlxError Cells)} {later : List MySqlRow}
    {last : QueryEvent Cells} (failure : Failure queryId last) : Streamed queryId expected later [last] none :=
  .stopped [] last failure (fun _ member => nomatch member) List.nil_prefix

/-- A batch that goes out in front of what the rest of the loop sends. -/
theorem Streamed.batch {queryId : Uuid} {expected : List (Except SqlxError Cells)} {later : List MySqlRow}
    {events : List (QueryEvent Cells)} {result : Option Streaming} (streamed : Streamed queryId expected later events result)
    {rows : List Cells} (some_ : 1 ≤ rows.length) (small : rows.length ≤ maxBatchRows) :
    Streamed queryId (rows.map Except.ok ++ expected) later (.batch queryId rows :: events) result := by
  have sizes {batches : List (List Cells)} (sized : Sized batches) : Sized (rows :: batches) := by
    intro batch member
    rcases List.mem_cons.mp member with rfl | inside
    · exact ⟨some_, small⟩
    · exact sized batch inside
  cases streamed with
  | stopped batches last failure sized front =>
    refine .stopped (rows :: batches) last failure (sizes sized) ?_
    rw [List.flatten_cons, List.map_append]
    exact (List.prefix_append_right_inj _).mpr front
  | ended batches state sized small whole nothing =>
    refine .ended (rows :: batches) state (sizes sized) small ?_ nothing
    rw [List.flatten_cons, List.append_assoc, List.map_append, whole]

section Loop
variable {queryId : Uuid} {password : String} {cancelAt : Option Nat}

/-- A turn of the loop sees the cancelled token, or takes an item and goes on. -/
theorem stream_cons {turn : Nat} {state : Streaming} {item : DriverItem} {items : List DriverItem}
    {post : List (QueryEvent Cells) → Option Streaming → Prop} {taken : List (QueryEvent Cells) → Option Streaming → Prop}
    (canceled : post [.canceled queryId] none) (takes : Emits (takeItem queryId password state item) taken)
    (left : ∀ events, taken events none → post events none)
    (goes : ∀ events next, taken events (some next) →
      Emits (stream queryId password cancelAt (turn + 1) next items) fun later result => post (events ++ later) result) :
    Emits (stream queryId password cancelAt turn state (item :: items)) post := by
  unfold stream
  split
  · exact Emits.send_bind (Emits.pure canceled)
  · refine takes.bind ?_
    intro events result holds
    cases result with
    | none => exact Emits.pure (by rw [List.append_nil]; exact left events holds)
    | some next => exact goes events next holds

theorem stream_nil {turn : Nat} {state : Streaming} {post : List (QueryEvent Cells) → Option Streaming → Prop}
    (canceled : post [.canceled queryId] none) (done : post [] (some state)) :
    Emits (stream queryId password cancelAt turn state []) post := by
  unfold stream
  split
  · exact Emits.send_bind (Emits.pure canceled)
  · exact Emits.pure done

theorem takeItem_failed (state : Streaming) (error : SqlxError) :
    Emits (takeItem queryId password state (.failed error))
      fun events result => events = [.failed queryId (mapQueryError error password)] ∧ result = none :=
  Emits.send_bind (Emits.pure ⟨rfl, rfl⟩)

/-- A result that no row precedes only counts the affected rows. -/
theorem takeItem_result {state : Streaming} (between : state.currentResultHasRows = false) (rowsAffected : Nat) :
    Emits (takeItem queryId password state (.result rowsAffected))
      fun events result => events = [] ∧ ∃ affectedRows, result = some { state with affectedRows } := by
  simp only [takeItem, between]
  exact Emits.pure ⟨rfl, _, rfl⟩

theorem emits_flush (batch : List Cells) :
    Emits (flush queryId batch) fun events _ => events = if batch = [] then [] else [.batch queryId batch] := by
  cases batch with
  | nil => exact Emits.pure rfl
  | cons cells batch => exact Emits.send rfl

/-- A result behind rows sends what is left of them and closes their set. -/
theorem takeItem_boundary {state : Streaming} (rows : state.currentResultHasRows = true) (rowsAffected : Nat) :
    Emits (takeItem queryId password state (.result rowsAffected)) fun events result =>
      events = (if state.batch = [] then [] else [.batch queryId state.batch]) ∧ ∃ affectedRows, result = some
        { state with batch := [], currentResultHasRows := false, completedRowResult := true, affectedRows } := by
  simp only [takeItem, rows]
  refine (emits_flush state.batch).bind fun events _ sent => ?_
  exact Emits.pure ⟨by rw [List.append_nil, sent], _, rfl⟩

theorem takeItem_later {state : Streaming} (completed : state.completedRowResult = true) (row : MySqlRow) :
    Emits (takeItem queryId password state (.row row))
      fun events result => events = [.failed queryId multipleResultSets] ∧ result = none := by
  simp only [takeItem, completed]
  exact Emits.send_bind (Emits.pure ⟨rfl, rfl⟩)

/-- Behind the first row set only results may follow; a row or an error ends the query. -/
theorem stream_completed {turn : Nat} {state : Streaming} (items : List DriverItem) (completed : state.completedRowResult = true)
    (between : state.currentResultHasRows = false) (empty : state.batch = []) :
    Emits (stream queryId password cancelAt turn state items) (Streamed queryId [] (allRows items)) := by
  induction items generalizing turn state with
  | nil => exact stream_nil (.failed .canceled) (.ended [] state (fun _ member => nomatch member) (by rw [empty]; decide) (by rw [empty]; rfl) rfl)
  | cons item items ih =>
    cases item with
    | failed error =>
      refine stream_cons (.failed .canceled) (takeItem_failed state error) ?_ (fun _ _ holds => nomatch holds.2)
      rintro _ ⟨rfl, _⟩
      exact .failed (.failed _)
    | row row =>
      refine stream_cons (.failed .canceled) (takeItem_later completed row) ?_ (fun _ _ holds => nomatch holds.2)
      rintro _ ⟨rfl, _⟩
      exact .failed (.failed _)
    | result rowsAffected =>
      refine stream_cons (.failed .canceled) (takeItem_result between rowsAffected) (fun _ holds => ?_) ?_
      · obtain ⟨_, _, impossible⟩ := holds
        cases impossible
      · rintro _ _ ⟨rfl, affectedRows, shape⟩
        obtain rfl := Option.some.inj shape
        exact ih completed between empty

/-- What becomes of a row: it fails to convert, fills the batch, or joins it. -/
inductive Collected (queryId : Uuid) (password : String) (state : Streaming) (row : MySqlRow) :
    List (QueryEvent Cells) → Option Streaming → Prop
  | refused (error : SqlxError) (converted : convertRow row = .error error) :
      Collected queryId password state row [.failed queryId (mapQueryError error password)] none
  | full (cells : Cells) (converted : convertRow row = .ok cells) (size : (state.batch ++ [cells]).length = maxBatchRows) :
      Collected queryId password state row [.batch queryId (state.batch ++ [cells])]
        (some { state with currentResultHasRows := true, schemaSent := true, batch := [] })
  | kept (cells : Cells) (converted : convertRow row = .ok cells) (size : (state.batch ++ [cells]).length ≠ maxBatchRows) :
      Collected queryId password state row []
        (some { state with currentResultHasRows := true, schemaSent := true, batch := state.batch ++ [cells] })

theorem emits_collect (state : Streaming) (row : MySqlRow) :
    Emits (collect queryId password state row) (Collected queryId password state row) := by
  unfold collect
  split
  case h_1 error converted => exact Emits.send_bind (Emits.pure (.refused error converted))
  case h_2 cells converted =>
    simp only
    split
    case isTrue full => exact Emits.send_bind (Emits.pure (.full cells converted full))
    case isFalse room => exact Emits.pure (.kept cells converted room)

/-- The first row of a query brings the schema with it. -/
theorem takeItem_row {state : Streaming} (completed : state.completedRowResult = false) (row : MySqlRow) :
    Emits (takeItem queryId password state (.row row)) fun events result =>
      ∃ sent, events = (if state.schemaSent then [] else [.schema queryId (queryColumns row)]) ++ sent ∧
        Collected queryId password state row sent result := by
  have collected : Emits (collect queryId password state row) (Collected queryId password state row) := emits_collect state row
  simp only [takeItem]
  rw [if_neg (by rw [completed]; exact Bool.false_ne_true)]
  cases schema : state.schemaSent with
  | true => exact Emits.mono collected fun sent result holds => ⟨sent, rfl, holds⟩
  | false => exact Emits.send_bind (Emits.mono collected fun sent result holds => ⟨sent, rfl, holds⟩)

/-- Within a row set the batch and the rows to come are what the loop still sends. -/
theorem stream_rows {turn : Nat} {state : Streaming} (items : List DriverItem) (schema : state.schemaSent = true)
    (within : state.currentResultHasRows = true) (first : state.completedRowResult = false) (small : state.batch.length < maxBatchRows) :
    Emits (stream queryId password cancelAt turn state items)
      (Streamed queryId (state.batch.map Except.ok ++ (leadingRows items).map convertRow) (allRows (behindLeading items))) := by
  induction items generalizing turn state with
  | nil => exact stream_nil (.failed .canceled) (.ended [] state (fun _ member => nomatch member) small (by simp [leadingRows]) rfl)
  | cons item items ih =>
    cases item with
    | failed error =>
      refine stream_cons (.failed .canceled) (takeItem_failed state error) ?_ (fun _ _ holds => nomatch holds.2)
      rintro _ ⟨rfl, _⟩
      exact .failed (.failed _)
    | result rowsAffected =>
      refine stream_cons (.failed .canceled) (takeItem_boundary within rowsAffected) (fun _ holds => ?_) ?_
      · obtain ⟨_, _, impossible⟩ := holds
        cases impossible
      · rintro _ _ ⟨rfl, affectedRows, shape⟩
        obtain rfl := Option.some.inj shape
        refine (stream_completed items rfl rfl rfl).mono fun events result streamed => ?_
        change Streamed queryId (state.batch.map Except.ok ++ []) (allRows items) _ _
        by_cases empty : state.batch = []
        · rw [if_pos empty, empty]
          exact streamed
        · rw [if_neg empty]
          exact streamed.batch (List.length_pos_iff.mpr empty) (Nat.le_of_lt small)
    | row row =>
      refine stream_cons (.failed .canceled) (takeItem_row first row) (fun events taken => ?_) (fun events next taken => ?_)
      · obtain ⟨sent, shape, collected⟩ := taken
        rw [schema] at shape
        cases collected
        rw [shape]
        exact .failed (.failed _)
      · obtain ⟨sent, shape, collected⟩ := taken
        rw [schema] at shape
        have expected {cells : Cells} (converted : convertRow row = .ok cells) :
            state.batch.map Except.ok ++ (leadingRows (.row row :: items)).map convertRow =
              (state.batch ++ [cells]).map Except.ok ++ (leadingRows items).map convertRow := by
          simp [leadingRows, converted]
        cases collected with
        | full cells converted size =>
          refine Emits.mono (ih rfl rfl first (by decide : 0 < maxBatchRows)) fun later result streamed => ?_
          rw [shape, expected converted]
          exact streamed.batch (by simp) (Nat.le_of_eq size)
        | kept cells converted size =>
          have less : (state.batch ++ [cells]).length < maxBatchRows := by
            rw [List.length_append, List.length_singleton] at size ⊢
            omega
          refine Emits.mono (ih rfl rfl first less) fun later result streamed => ?_
          rw [shape, expected converted]
          exact streamed

/-- Before any row the loop has sent nothing; what it sends then begins with the schema. -/
theorem stream_start {turn : Nat} {state : Streaming} (items : List DriverItem) (schema : state.schemaSent = false)
    (between : state.currentResultHasRows = false) (first : state.completedRowResult = false) (empty : state.batch = []) :
    Emits (stream queryId password cancelAt turn state items) fun events result =>
      (∃ columns later, events = .schema queryId columns :: later ∧
        Streamed queryId ((firstRows items).map convertRow) (laterRows items) later result) ∨
      (∃ last, Failure queryId last ∧ events = [last] ∧ result = none) ∨
      (events = [] ∧ firstRows items = [] ∧ laterRows items = [] ∧ ∃ state, result = some state ∧ state.batch = []) := by
  induction items generalizing turn state with
  | nil => exact stream_nil (Or.inr (Or.inl ⟨_, .canceled, rfl, rfl⟩)) (Or.inr (Or.inr ⟨rfl, rfl, rfl, state, rfl, empty⟩))
  | cons item items ih =>
    cases item with
    | failed error =>
      refine stream_cons (Or.inr (Or.inl ⟨_, .canceled, rfl, rfl⟩)) (takeItem_failed state error) ?_
        (fun _ _ holds => nomatch holds.2)
      rintro _ ⟨rfl, _⟩
      exact Or.inr (Or.inl ⟨_, .failed _, rfl, rfl⟩)
    | result rowsAffected =>
      refine stream_cons (Or.inr (Or.inl ⟨_, .canceled, rfl, rfl⟩)) (takeItem_result between rowsAffected) (fun _ holds => ?_) ?_
      · obtain ⟨_, _, impossible⟩ := holds
        cases impossible
      · rintro _ _ ⟨rfl, affectedRows, shape⟩
        obtain rfl := Option.some.inj shape
        exact ih schema between first empty
    | row row =>
      refine stream_cons (Or.inr (Or.inl ⟨_, .canceled, rfl, rfl⟩)) (takeItem_row first row) (fun events taken => ?_)
        (fun events next taken => ?_)
      · obtain ⟨sent, shape, collected⟩ := taken
        rw [schema] at shape
        cases collected
        exact Or.inl ⟨_, _, shape, .failed (.failed _)⟩
      · obtain ⟨sent, shape, collected⟩ := taken
        rw [schema] at shape
        cases collected with
        | full cells converted size =>
          rw [empty] at size
          exact absurd size (by decide : (1 : Nat) ≠ maxBatchRows)
        | kept cells converted size =>
          have less : (state.batch ++ [cells]).length < maxBatchRows := by
            rw [empty]
            exact (by decide : 1 < maxBatchRows)
          refine Emits.mono (stream_rows items rfl rfl first less) fun later result streamed => Or.inl ⟨_, _, by rw [shape]; rfl, ?_⟩
          have expected : (firstRows (.row row :: items)).map convertRow =
              (state.batch ++ [cells]).map Except.ok ++ (leadingRows items).map convertRow := by
            simp [firstRows, converted, empty]
          rw [expected]
          exact streamed

end Loop

/-- The events that end a query. -/
inductive Terminal (queryId : Uuid) : QueryEvent Cells → Prop
  | completed (affectedRows : Nat) : Terminal queryId (.completed queryId affectedRows)
  | failure {last : QueryEvent Cells} (failure : Failure queryId last) : Terminal queryId last

/-- The words of the protocol, with their batches and their last event. -/
inductive Word (queryId : Uuid) : List (QueryEvent Cells) → List (List Cells) → QueryEvent Cells → Prop
  | bare (last : QueryEvent Cells) : Word queryId [last] [] last
  | unshown (last : QueryEvent Cells) : Word queryId [.started queryId, last] [] last
  | shown (columns : List QueryColumn) (batches : List (List Cells)) (last : QueryEvent Cells) :
      Word queryId (.started queryId :: .schema queryId columns :: (batches.map (.batch queryId) ++ [last])) batches last

/-- The rows in the batches: the front of the first row set, and all of it on completion. -/
structure Shows (queryId : Uuid) (items : List DriverItem) (batches : List (List Cells)) (last : QueryEvent Cells) : Prop where
  terminal : Terminal queryId last
  sized : Sized batches
  front : batches.flatten.map Except.ok <+: (firstRows items).map convertRow
  whole : ∀ affectedRows, last = .completed queryId affectedRows →
    batches.flatten.map Except.ok = (firstRows items).map convertRow ∧ laterRows items = []

section Execution
variable {queryId : Uuid} {password : String}

theorem Shows.failure {items : List DriverItem} {batches : List (List Cells)} {last : QueryEvent Cells}
    (failure : Failure queryId last) (sized : Sized batches)
    (front : batches.flatten.map Except.ok <+: (firstRows items).map convertRow) : Shows queryId items batches last := by
  refine ⟨.failure failure, sized, front, ?_⟩
  rintro affectedRows rfl
  cases failure

theorem emits_finish (readOnly : Bool) (session : DriverSession) (state : Streaming) :
    Emits (finish queryId password readOnly session state) fun events _ =>
      ∃ last, Terminal queryId last ∧ events = (if state.batch = [] then [] else [.batch queryId state.batch]) ++ [last] := by
  refine (emits_flush state.batch).bind fun events _ sent => ?_
  subst sent
  split
  · exact Emits.send ⟨_, .failure (.failed _), rfl⟩
  · exact Emits.send ⟨_, .completed _, rfl⟩

/-- The stream and what follows it form the rest of a word behind the first event. -/
theorem emits_rest (readOnly : Bool) (session : DriverSession) (cancelAt : Option Nat) :
    Emits (do
      match ← stream queryId password cancelAt 0 .start session.items with
      | none => return
      | some state => finish queryId password readOnly session state : M Unit) fun events _ =>
      ∃ batches last, Word queryId (.started queryId :: events) batches last ∧ Shows queryId session.items batches last := by
  refine (stream_start session.items rfl rfl rfl rfl).bind fun events result streamed => ?_
  rcases streamed with ⟨columns, later, rfl, streamed⟩ | ⟨last, failure, rfl, rfl⟩ | ⟨rfl, first, none_later, state, rfl, empty⟩
  · cases streamed with
    | stopped batches last failure sized front =>
      exact Emits.pure ⟨batches, last, by rw [List.append_nil]; exact .shown columns batches last, .failure failure sized front⟩
    | ended batches state sized small whole nothing =>
      refine Emits.mono (emits_finish readOnly session state) ?_
      rintro events _ ⟨last, terminal, rfl⟩
      by_cases empty : state.batch = []
      · rw [empty, List.append_nil] at whole
        refine ⟨batches, last, by rw [if_pos empty]; exact .shown columns batches last, terminal, sized, whole ▸ List.prefix_rfl, ?_⟩
        exact fun _ _ => ⟨whole, nothing⟩
      · have flat : (batches ++ [state.batch]).flatten.map Except.ok = (firstRows session.items).map convertRow := by
          rw [List.flatten_append, List.flatten_singleton, whole]
        refine ⟨batches ++ [state.batch], last, ?_, terminal, ?_, flat ▸ List.prefix_rfl, fun _ _ => ⟨flat, nothing⟩⟩
        · have split : batches.map (.batch queryId) ++ ([.batch queryId state.batch] ++ [last]) =
              (batches ++ [state.batch]).map (.batch queryId) ++ [last] := by
            rw [List.map_append, List.append_assoc]
            rfl
          rw [if_neg empty, List.cons_append, split]
          exact .shown columns _ last
        · intro batch member
          rcases List.mem_append.mp member with inside | final
          · exact sized batch inside
          · obtain rfl := List.mem_singleton.mp final
            exact ⟨List.length_pos_iff.mpr empty, Nat.le_of_lt small⟩
  · exact Emits.pure ⟨[], last, .unshown last, .failure failure (fun _ member => nomatch member) List.nil_prefix⟩
  · refine Emits.mono (emits_finish readOnly session state) ?_
    rintro events _ ⟨last, terminal, rfl⟩
    rw [if_pos empty]
    refine ⟨[], last, .unshown last, terminal, (fun _ member => nomatch member), List.nil_prefix, fun _ _ => ⟨?_, none_later⟩⟩
    rw [first]
    rfl

end Execution

/-- What a query delivers to a live receiver, an error of the adapter being its last
event: a word of the protocol, in which the batches show the first row set. -/
theorem executeQuery_protocol (queryId : Uuid) (password : String) (readOnly : Bool) (session : DriverSession)
    (cancelAt : Option Nat) :
    let (events, outcome) := deliver none (executeQuery queryId password readOnly session cancelAt)
    let delivered := match outcome with
      | .ok () => events
      | .error error => events ++ [.failed queryId error]
    ∃ batches last, Word queryId delivered batches last ∧ Shows queryId session.items batches last := by
  cases acquired : session.acquire with
  | error error =>
    have refused : deliver none (executeQuery queryId password readOnly session cancelAt) =
        ([], .error (mapConnectionError error password)) := by
      unfold executeQuery
      rw [acquired]
      rfl
    rw [refused]
    exact ⟨[], _, .bare _, .failure (.failed _) (fun _ member => nomatch member) List.nil_prefix⟩
  | ok _ =>
    have emits : Emits (executeQuery queryId password readOnly session cancelAt) fun events _ =>
        ∃ batches last, Word queryId events batches last ∧ Shows queryId session.items batches last := by
      unfold executeQuery
      rw [acquired]
      refine Emits.send_bind ?_
      split
      case h_1 error _ =>
        exact Emits.send ⟨[], _, .unshown _, .failure (.failed _) (fun _ member => nomatch member) List.nil_prefix⟩
      case h_2 => exact emits_rest _ session cancelAt
    obtain ⟨events, _, delivered, word⟩ := emits.delivers
    rw [delivered]
    exact word

end Pipa.MySqlQuery
