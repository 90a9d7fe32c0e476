import Mathlib.Logic.Relation
import Pipa.BinlogParser
import Pipa.Library.Outcomes

/-! What the binlog parser does, step by step. Every invariant of the parser is an
invariant of these steps; after the token was seen to be cancelled, only payloads are
left, and the token is asked again. -/

namespace Pipa.BinlogParser
open Outcomes

/-- The token was seen to be cancelled. -/
def Observed (moments : List Moment) : Prop := .asked true ∈ moments

/-- A cancelled answer of the token. -/
def Moment.granted : Moment → Bool
  | .asked cancelled => cancelled
  | _ => false

theorem any_granted {moments : List Moment} : moments.any Moment.granted = true ↔ Observed moments := by
  rw [List.any_eq_true]
  constructor
  · intro ⟨moment, member, granted⟩
    cases moment with
    | asked cancelled =>
      obtain rfl : cancelled = true := granted
      exact member
    | entered | left | unread | decompressed | handed | diagnosed => cases granted
  · intro observed
    exact ⟨.asked true, observed, rfl⟩

instance (moments : List Moment) : Decidable (Observed moments) := decidable_of_iff _ any_granted

/-- A payload failed to be read on after the token was seen to be cancelled. -/
def Broken (moments : List Moment) : Prop :=
  ∃ before after, moments = before ++ .asked true :: after ∧ .unread ∈ after

theorem Broken.observed {moments : List Moment} (broken : Broken moments) : Observed moments := by
  obtain ⟨before, after, rfl, -⟩ := broken
  exact List.mem_append_right _ List.mem_cons_self

section Moments
variable {moments : List Moment} {moment : Moment}

theorem observed_concat : Observed (moments ++ [moment]) ↔ Observed moments ∨ moment = .asked true := by
  rw [Observed, List.mem_append, List.mem_singleton]
  exact or_congr_right eq_comm

theorem broken_concat : Broken (moments ++ [moment]) ↔ Broken moments ∨ Observed moments ∧ moment = .unread := by
  constructor
  · intro ⟨before, after, same, unread⟩
    rcases List.eq_nil_or_concat after with rfl | ⟨after, last, rfl⟩
    · cases unread
    · rw [List.concat_eq_append] at same unread
      rw [← List.cons_append, ← List.append_assoc] at same
      obtain ⟨rfl, last⟩ := List.append_inj' same rfl
      obtain rfl := (List.cons.inj last).1
      rcases List.mem_append.mp unread with earlier | here
      · exact .inl ⟨before, after, rfl, earlier⟩
      · exact .inr ⟨List.mem_append_right _ List.mem_cons_self, (List.mem_singleton.mp here).symm⟩
  · rintro (⟨before, after, rfl, unread⟩ | ⟨observed, rfl⟩)
    · exact ⟨before, after ++ [moment], by simp, List.mem_append_left _ unread⟩
    · obtain ⟨before, after, rfl⟩ := List.append_of_mem observed
      exact ⟨before, after ++ [.unread], by simp, List.mem_append_right _ (List.mem_singleton_self _)⟩

end Moments

section Steps
variable {Reader Rows : Type} (mysql : MysqlCommon Reader Rows) (cancelAfter : Option Nat)

/-- What a decoded rows event can come to. -/
def FromRows (change : BinlogChange) (location : EventLocation) : Prop :=
  ∃ reader rows, change = (mysql.decodeRowsEvent reader rows location).1

/-- A diagnostic of the parser itself, or of the decoding of rows. -/
def Produced (diagnostic : BinlogDiagnostic) : Prop :=
  diagnostic.severity = .warning ∨ ∃ reader rows location, diagnostic ∈ (mysql.decodeRowsEvent reader rows location).2

/-- One step of the parser. -/
inductive Moves (parsing : Parsing Reader) : Parsing Reader → Prop
  | asked : Moves parsing (parsing.ask cancelAfter).2
  | left (inside : 0 < parsing.state.transactionPayloadDepth) :
      Moves parsing { parsing with
        state := parsing.state.leaveTransactionPayload
        moments := parsing.moments ++ [.left parsing.state.leaveTransactionPayload.transactionPayloadDepth] }
  | unread : Moves parsing { parsing with moments := parsing.moments ++ [.unread] }
  | read (free : ¬Observed parsing.moments) (reader : Reader) : Moves parsing { parsing with reader }
  | counted (free : ¬Observed parsing.moments) (timestamp : Nat) :
      Moves parsing { parsing with
        state := { parsing.state with eventCount := parsing.state.eventCount + 1 }.observeTimestamp timestamp }
  | entered (free : ¬Observed parsing.moments) (shallow : parsing.state.transactionPayloadDepth < maxTransactionPayloadDepth) :
      Moves parsing { parsing with
        state := { parsing.state with transactionPayloadDepth := parsing.state.transactionPayloadDepth + 1 }
        moments := parsing.moments ++ [.entered (parsing.state.transactionPayloadDepth + 1)] }
  | decompressed (free : ¬Observed parsing.moments) (frame : List UInt8)
      (few : parsing.state.decompressedPayloadEvents < maxDecompressedPayloadEvents)
      (small : parsing.state.decompressedPayloadBytes + frame.length ≤ maxDecompressedPayloadBytes) :
      Moves parsing { parsing with
        state := { parsing.state with
          decompressedPayloadBytes := parsing.state.decompressedPayloadBytes + frame.length
          decompressedPayloadEvents := parsing.state.decompressedPayloadEvents + 1 }
        moments := parsing.moments ++ [.decompressed frame] }
  | handed (free : ¬Observed parsing.moments) (event : AssemblerEvent)
      (decoded : ∀ change location, event = .rows change location → FromRows mysql change location) :
      Moves parsing { parsing with
        state := { parsing.state with assembler := parsing.state.assembler.step event }
        moments := parsing.moments ++ [.handed event] }
  | diagnosed (free : ¬Observed parsing.moments) (diagnostic : BinlogDiagnostic) (produced : Produced mysql diagnostic) :
      Moves parsing { parsing with
        state := parsing.state.pushDiagnostic diagnostic
        moments := parsing.moments ++ [.diagnosed diagnostic] }

/-- Any number of steps. -/
abbrev Reaches : Parsing Reader → Parsing Reader → Prop := Relation.ReflTransGen (Moves mysql cancelAfter)

/-- Once it was seen to be cancelled, the token is cancelled at every later check. -/
def Timed (parsing : Parsing Reader) : Prop :=
  Observed parsing.moments → cancelAfter.any (· ≤ parsing.checks) = true

variable {mysql cancelAfter} {start finish : Parsing Reader}

theorem Moves.timed (moves : Moves mysql cancelAfter start finish) (timed : Timed cancelAfter start) : Timed cancelAfter finish := by
  have kept {moment : Moment} (other : moment ≠ .asked true) (observed : Observed (start.moments ++ [moment])) :
      cancelAfter.any (· ≤ start.checks) = true :=
    timed ((observed_concat.mp observed).resolve_right other)
  cases moves with
  | asked =>
    intro observed
    have now : cancelAfter.any (· ≤ start.checks) = true := by
      rcases observed_concat.mp observed with earlier | here
      · exact timed earlier
      · exact Moment.asked.inj here
    obtain ⟨after, found, due⟩ := (Option.any_eq_true _ _).mp now
    refine (Option.any_eq_true _ _).mpr ⟨after, found, decide_eq_true ?_⟩
    exact Nat.le_succ_of_le (of_decide_eq_true due)
  | left | unread | entered | decompressed | handed | diagnosed => exact kept nofun
  | read | counted => exact timed

theorem Reaches.timed (reaches : Reaches mysql cancelAfter start finish) (timed : Timed cancelAfter start) :
    Timed cancelAfter finish := by
  induction reaches with
  | refl => exact timed
  | tail _ moves ih => exact moves.timed ih

end Steps

section Steadiness
variable {Reader Rows : Type} {mysql : MysqlCommon Reader Rows} {cancelAfter : Option Nat} {α β : Type}

/-- A failure comes with an error diagnostic. -/
def Severe (outcome : Except BinlogImportFailure α) : Prop :=
  ∀ failure, outcome = .error failure → failure.diagnostic.severity = .error

theorem severe_ok (value : α) : Severe (.ok value) := nofun

theorem severe_error {failure : BinlogImportFailure} (severe : failure.diagnostic.severity = .error) :
    Severe (.error failure : Except BinlogImportFailure α) := by
  intro other same
  rw [← Except.error.inj same]
  exact severe

/-- The payload depth is afterwards what it was before, and a failure is a severe one. -/
def Steady (action : ParseM Reader α) : Prop :=
  ∀ start, Ends action start fun outcome finish =>
    finish.state.transactionPayloadDepth = start.state.transactionPayloadDepth ∧ Severe outcome

theorem steady_bind {first : ParseM Reader α} {next : α → ParseM Reader β} (steady : Steady first)
    (steady' : ∀ value, Steady (next value)) : Steady (first >>= next) := by
  intro start
  apply ends_bind (steady start)
  · intro error state ⟨same, severe⟩
    exact ⟨same, severe_error (severe error rfl)⟩
  · intro value state ⟨same, _⟩
    exact ends_weaken (steady' value state) fun _ _ later => ⟨later.1.trans same, later.2⟩

theorem steady_pure (value : α) : Steady (pure value : ParseM Reader α) := fun _ => ⟨rfl, severe_ok _⟩

theorem steady_throw {failure : BinlogImportFailure} (severe : failure.diagnostic.severity = .error) :
    Steady (throw failure : ParseM Reader α) :=
  fun _ => ⟨rfl, severe_error severe⟩

theorem steady_get : Steady (get : ParseM Reader (Parsing Reader)) := fun _ => ⟨rfl, severe_ok _⟩

theorem steady_note (moment : ParserState → Moment) : Steady (note moment : ParseM Reader Unit) := fun _ => ⟨rfl, severe_ok _⟩

theorem steady_modifyState {edit : ParserState → ParserState}
    (keeps : ∀ state, (edit state).transactionPayloadDepth = state.transactionPayloadDepth) :
    Steady (modifyState edit : ParseM Reader Unit) :=
  fun start => ⟨keeps start.state, severe_ok _⟩

theorem tryState_ok {edit : ParserState → Except BinlogImportFailure ParserState} {start : Parsing Reader} {state : ParserState}
    (ok : edit start.state = .ok state) : (tryState edit : ParseM Reader Unit).run start = (.ok (), { start with state }) := by
  rw [tryState, run_get_bind, ok]
  rfl

theorem tryState_error {edit : ParserState → Except BinlogImportFailure ParserState} {start : Parsing Reader}
    {error : BinlogImportFailure} (failed : edit start.state = .error error) :
    (tryState edit : ParseM Reader Unit).run start = (.error error, start) := by
  rw [tryState, run_get_bind, failed]
  rfl

theorem isCancelled_run {start : Parsing Reader} : (isCancelled cancelAfter : ParseM Reader Bool).run start =
    (.ok (start.ask cancelAfter).1, (start.ask cancelAfter).2) := rfl

theorem verifyChecksum_severe (event : Event Rows) (name : String) (position : Nat) : Severe (verifyChecksum event name position) := by
  rw [verifyChecksum]
  dsimp only
  split
  · exact severe_error rfl
  · split
    · exact severe_error rfl
    · split
      · exact severe_error rfl
      · exact severe_ok _
  · exact severe_ok _

theorem readEventFrame_severe (input : ByteStream) (fileSize : Option Nat) (name : String) (position limit : Nat) :
    Severe (readEventFrame input fileSize name position limit) := by
  rw [readEventFrame]
  dsimp only
  split
  · exact severe_error rfl
  · exact severe_ok _
  split
  · exact severe_error rfl
  split
  · exact severe_error rfl
  split
  · exact severe_error rfl
  split
  · split <;> exact severe_error rfl
  split
  · exact severe_error rfl
  split
  · exact severe_error rfl
  · exact severe_ok _

/-- Decoding a frame changes the reader at most. -/
theorem parseEventFrame_reader {start : Parsing Reader} (frame : List UInt8) (decompressed : Bool) (name : String) (position : Nat) :
    Ends (parseEventFrame mysql frame decompressed name position) start fun outcome finish =>
      (∃ reader, finish = { start with reader }) ∧ Severe outcome := by
  rw [parseEventFrame]
  refine ends_then rfl ?_
  refine ends_then rfl ?_
  split
  · exact ⟨⟨_, rfl⟩, severe_error rfl⟩
  · exact ⟨⟨_, rfl⟩, severe_error rfl⟩
  · exact ⟨⟨_, rfl⟩, severe_error rfl⟩
  next event _ =>
    split
    · have severe := verifyChecksum_severe event name position
      split
      next failed => exact ⟨⟨_, rfl⟩, severe_error (severe _ failed)⟩
      · exact ⟨⟨_, rfl⟩, severe_ok _⟩
    · exact ⟨⟨_, rfl⟩, severe_ok _⟩

theorem steady_parseEventFrame (frame : List UInt8) (decompressed : Bool) (name : String) (position : Nat) :
    Steady (parseEventFrame mysql frame decompressed name position) := by
  intro start
  refine ends_weaken (parseEventFrame_reader frame decompressed name position) ?_
  intro outcome finish ⟨⟨reader, same⟩, severe⟩
  exact ⟨by rw [same], severe⟩

theorem observeTimestamp_keeps (state : ParserState) (timestamp : Nat) :
    ∃ firstTimestamp lastTimestamp, state.observeTimestamp timestamp = { state with firstTimestamp, lastTimestamp } := by
  rw [ParserState.observeTimestamp]
  split
  · exact ⟨_, _, rfl⟩
  · exact ⟨_, _, rfl⟩

theorem recordDecompressedEvent_ok {state recorded : ParserState} {frameSize : Nat} {location : EventLocation}
    (ok : state.recordDecompressedEvent frameSize location = .ok recorded) :
    state.decompressedPayloadEvents < maxDecompressedPayloadEvents ∧
      state.decompressedPayloadBytes + frameSize ≤ maxDecompressedPayloadBytes ∧
      recorded = { state with
        decompressedPayloadBytes := state.decompressedPayloadBytes + frameSize
        decompressedPayloadEvents := state.decompressedPayloadEvents + 1 } := by
  rw [ParserState.recordDecompressedEvent] at ok
  split at ok
  · cases ok
  next few =>
    dsimp only at ok
    split at ok
    · cases ok
    · split at ok
      · cases ok
      next small => exact ⟨Nat.lt_of_not_le few, Nat.le_of_not_lt small, (Except.ok.inj ok).symm⟩

theorem recordDecompressedEvent_severe (state : ParserState) (frameSize : Nat) (location : EventLocation) :
    Severe (state.recordDecompressedEvent frameSize location) := by
  rw [ParserState.recordDecompressedEvent]
  dsimp only
  split
  · exact severe_error rfl
  split
  · exact severe_error rfl
  split
  · exact severe_error rfl
  · exact severe_ok _

theorem enterTransactionPayload_severe (state : ParserState) (declaredSize : Nat) (location : EventLocation) :
    Severe (state.enterTransactionPayload declaredSize location) := by
  rw [ParserState.enterTransactionPayload]
  dsimp only
  split
  · exact severe_error rfl
  split
  · exact severe_error rfl
  · exact severe_ok _

theorem pushDiagnostic_keeps (state : ParserState) (diagnostic : BinlogDiagnostic) :
    ∃ diagnostics diagnosticsTruncated, state.pushDiagnostic diagnostic = { state with diagnostics, diagnosticsTruncated } := by
  rw [ParserState.pushDiagnostic]
  split
  · exact ⟨_, _, rfl⟩
  · split
    · exact ⟨_, _, rfl⟩
    · exact ⟨_, _, rfl⟩

theorem enterTransactionPayload_ok {state entered : ParserState} {declaredSize : Nat} {location : EventLocation}
    (ok : state.enterTransactionPayload declaredSize location = .ok entered) :
    state.transactionPayloadDepth < maxTransactionPayloadDepth ∧
      entered = { state with transactionPayloadDepth := state.transactionPayloadDepth + 1 } := by
  rw [ParserState.enterTransactionPayload] at ok
  split at ok
  · cases ok
  next shallow =>
    dsimp only at ok
    split at ok
    · cases ok
    · exact ⟨Nat.lt_of_not_le shallow, (Except.ok.inj ok).symm⟩

theorem steady_counted (timestamp : Nat) : Steady (modifyState fun state =>
    { state with eventCount := state.eventCount + 1 }.observeTimestamp timestamp : ParseM Reader Unit) := by
  apply steady_modifyState
  intro state
  obtain ⟨firstTimestamp, lastTimestamp, same⟩ :=
    observeTimestamp_keeps { state with eventCount := state.eventCount + 1 } timestamp
  rw [same]

theorem steady_diagnose (diagnostic : BinlogDiagnostic) : Steady (diagnose diagnostic : ParseM Reader Unit) := by
  refine steady_bind (steady_modifyState ?_) fun _ => steady_note _
  intro state
  obtain ⟨diagnostics, truncated, same⟩ := pushDiagnostic_keeps state diagnostic
  rw [same]

theorem steady_hand (event : AssemblerEvent) : Steady (hand event : ParseM Reader Unit) :=
  steady_bind (steady_modifyState fun _ => rfl) fun _ => steady_note _

theorem steady_reports (diagnostics : List BinlogDiagnostic) :
    Steady (diagnostics.forM diagnose : ParseM Reader Unit) := by
  induction diagnostics with
  | nil => exact steady_pure _
  | cons diagnostic diagnostics ih => exact steady_bind (steady_diagnose diagnostic) fun _ => ih

theorem steady_recorded (size : Nat) (location : EventLocation) :
    Steady (tryState (·.recordDecompressedEvent size location) : ParseM Reader Unit) := by
  intro start
  cases recorded : start.state.recordDecompressedEvent size location with
  | error error =>
    rw [Ends, tryState_error recorded]
    exact ⟨rfl, severe_error (recordDecompressedEvent_severe _ _ _ error recorded)⟩
  | ok state =>
    rw [Ends, tryState_ok recorded]
    obtain ⟨-, -, rfl⟩ := recordDecompressedEvent_ok recorded
    exact ⟨rfl, severe_ok _⟩

theorem steady_payload {process : Event Rows → EventLocation → ParseM Reader Unit}
    (steady : ∀ event location, Steady (process event location)) (payload : ByteStream) (outer : EventLocation) :
    Steady (processTransactionPayload mysql cancelAfter process payload outer) := by
  induction size : payload.bytes.length using Nat.strong_induction_on generalizing payload with
  | _ size ih =>
  rw [processTransactionPayload]
  cases payload.hasDataLeft with
  | error error => exact steady_bind (steady_note _) fun _ => steady_throw rfl
  | ok left =>
  cases left with
  | false => exact steady_pure _
  | true =>
  refine steady_bind (fun _ => ⟨rfl, severe_ok _⟩) fun cancelled => ?_
  split
  · exact steady_pure _
  refine steady_bind steady_get fun parsing => ?_
  dsimp only
  split
  next failed framing => exact steady_throw (readEventFrame_severe _ _ _ _ _ failed framing)
  · exact steady_throw rfl
  next frame rest framing =>
    refine steady_bind (steady_recorded _ _) fun _ => ?_
    refine steady_bind (steady_note _) fun _ => ?_
    refine steady_bind (steady_parseEventFrame _ _ _ _) fun inner => ?_
    refine steady_bind (steady_counted _) fun _ => ?_
    refine steady_bind (steady _ _) fun _ => ?_
    exact ih _ (size ▸ (readEventFrame_some framing).shorter) rest rfl

/-- A payload that is entered is left, whatever its processing comes to. -/
theorem depth_left {computation : ParseM Reader Unit} (steady : Steady computation) (entered : Parsing Reader) :
    Ends (tryFinally computation do
      modifyState ParserState.leaveTransactionPayload
      note fun state => .left state.transactionPayloadDepth) entered
      fun outcome finish => finish.state.transactionPayloadDepth = entered.state.transactionPayloadDepth - 1 ∧ Severe outcome :=
  ends_finally (fun _ => rfl) (ends_weaken (steady entered) fun _ _ held => ⟨congrArg (· - 1) held.1, held.2⟩)

theorem steady_processEvent (levels : Nat) (event : Event Rows) (location : EventLocation) :
    Steady (processEvent mysql cancelAfter levels event location) := by
  induction levels using Nat.strong_induction_on generalizing event location with
  | _ levels ih =>
  rw [processEvent]
  split
  case h_1 error data => exact steady_throw rfl
  case h_2 data => exact steady_diagnose _
  case h_3 schema query data => exact steady_hand _
  case h_4 xid data => exact steady_hand _
  case h_5 sid tag gno data => exact steady_hand _
  case h_6 query data => exact steady_hand _
  case h_7 rows data =>
    exact steady_bind steady_get fun _ => steady_bind (steady_reports _) fun _ => steady_hand _
  case h_8 size decompressed data =>
    intro start
    cases entered : start.state.enterTransactionPayload size location with
    | error error =>
      exact ends_stop (tryState_error entered) ⟨rfl, severe_error (enterTransactionPayload_severe _ _ _ error entered)⟩
    | ok state =>
    obtain ⟨-, rfl⟩ := enterTransactionPayload_ok entered
    refine ends_then (tryState_ok entered) (ends_then rfl (depth_left ?_ _))
    split
    · exact steady_throw rfl
    · exact steady_pure _
    next levels payload => exact steady_payload (fun event location => ih levels (Nat.lt_succ_self _) event location) _ _
  case h_9 version data =>
    split
    · exact steady_throw rfl
    · exact steady_pure _
  case h_10 message data => exact steady_diagnose _
  case h_11 data => exact steady_diagnose _
  case h_12 data => exact steady_hand _

end Steadiness

section Processing
variable {Reader Rows : Type} {mysql : MysqlCommon Reader Rows} {cancelAfter : Option Nat} {start mid : Parsing Reader}

/-- What processing comes to: where the token was seen to be cancelled it fails only because a
payload failed to be read on, and it counts only so many events ahead of the frames that it
takes from payloads. -/
structure Processed (mysql : MysqlCommon Reader Rows) (cancelAfter : Option Nat) (ahead : Nat) (start : Parsing Reader)
    (outcome : Except BinlogImportFailure Unit) (finish : Parsing Reader) : Prop where
  reaches : Reaches mysql cancelAfter start finish
  ended : Observed finish.moments → (outcome ≠ .ok () ↔ Broken finish.moments)
  counted : finish.state.eventCount + start.state.decompressedPayloadEvents ≤
    start.state.eventCount + finish.state.decompressedPayloadEvents + ahead

namespace Processed
variable {ahead : Nat} {outcome : Except BinlogImportFailure Unit} {finish : Parsing Reader}

theorem whole (processed : Processed mysql cancelAfter ahead start (.ok ()) finish) : ¬Broken finish.moments :=
  fun broken => (processed.ended broken.observed).mpr broken rfl

theorem behind {front : Nat} (reaches : Reaches mysql cancelAfter start mid)
    (counted : mid.state.eventCount + start.state.decompressedPayloadEvents + ahead ≤
      start.state.eventCount + mid.state.decompressedPayloadEvents + front)
    (processed : Processed mysql cancelAfter ahead mid outcome finish) : Processed mysql cancelAfter front start outcome finish := by
  refine ⟨reaches.trans processed.reaches, processed.ended, ?_⟩
  have later := processed.counted
  omega

theorem after {first : Except BinlogImportFailure Unit} (earlier : Processed mysql cancelAfter 0 start first mid)
    (later : Processed mysql cancelAfter ahead mid outcome finish) : Processed mysql cancelAfter ahead start outcome finish :=
  later.behind earlier.reaches (by have counted := earlier.counted; omega)

theorem free (free : ¬Observed start.moments) : Processed mysql cancelAfter ahead start outcome start :=
  ⟨.refl, fun observed => absurd observed free, Nat.le_add_right _ _⟩

end Processed

/-- Asking a token that turns out not to be cancelled shows that it was not before. -/
theorem Timed.free (timed : Timed cancelAfter start) (granted : (start.ask cancelAfter).1 = false) :
    ¬Observed (start.ask cancelAfter).2.moments := by
  intro observed
  rcases observed_concat.mp observed with earlier | here
  · exact Bool.false_ne_true (granted.symm.trans (timed earlier))
  · exact Bool.false_ne_true (granted.symm.trans (Moment.asked.inj here))

/-- A frame is decoded and counted before its event is processed. -/
theorem decoded_processed {next : Event Rows → ParseM Reader Unit}
    (nexts : ∀ event start, ¬Observed start.moments → Timed cancelAfter start →
      Ends (next event) start (Processed mysql cancelAfter 0 start))
    (frame : List UInt8) (decompressed : Bool) (name : String) (position : Nat) (free : ¬Observed start.moments)
    (timed : Timed cancelAfter start) :
    Ends (do
      let event ← parseEventFrame mysql frame decompressed name position
      modifyState fun state => { state with eventCount := state.eventCount + 1 }.observeTimestamp event.timestamp
      next event) start (Processed mysql cancelAfter 1 start) := by
  apply ends_bind (parseEventFrame_reader frame decompressed name position)
  · intro error state ⟨⟨reader, same⟩, _⟩
    subst same
    exact Processed.behind (.single (.read free reader)) (Nat.le_succ _)
      (show Processed mysql cancelAfter 0 _ _ _ from .free free)
  · intro event state ⟨⟨reader, same⟩, _⟩
    subst same
    refine ends_then rfl ?_
    have reads : Moves mysql cancelAfter start { start with reader } := .read free reader
    have counts : Moves mysql cancelAfter { start with reader } { start with
        reader
        state := { start.state with eventCount := start.state.eventCount + 1 }.observeTimestamp event.timestamp } :=
      .counted (show ¬Observed { start with reader }.moments from free) event.timestamp
    refine ends_weaken (nexts event _ free (counts.timed (reads.timed timed))) ?_
    intro outcome finish processed
    have kept := observeTimestamp_keeps { start.state with eventCount := start.state.eventCount + 1 } event.timestamp
    obtain ⟨firstTimestamp, lastTimestamp, same⟩ := kept
    refine processed.behind ((Relation.ReflTransGen.single reads).tail counts) ?_
    simp only [same]
    omega

theorem payload_processed {process : Event Rows → EventLocation → ParseM Reader Unit}
    (processes : ∀ event location start, ¬Observed start.moments → Timed cancelAfter start →
      Ends (process event location) start (Processed mysql cancelAfter 0 start))
    (payload : ByteStream) (outer : EventLocation) (whole : ¬Broken start.moments) (timed : Timed cancelAfter start) :
    Ends (processTransactionPayload mysql cancelAfter process payload outer) start (Processed mysql cancelAfter 0 start) := by
  induction size : payload.bytes.length using Nat.strong_induction_on generalizing payload start with
  | _ size ih =>
  rw [processTransactionPayload]
  cases more : payload.hasDataLeft with
  | error error =>
    refine ends_then rfl (ends_throw ⟨.single .unread, ?_, Nat.le_refl _⟩)
    intro observed
    refine iff_of_true (fun same => by cases same) (broken_concat.mpr (.inr ⟨?_, rfl⟩))
    exact (observed_concat.mp observed).resolve_right fun same => by cases same
  | ok left =>
  cases left with
  | false => exact ends_pure ⟨.refl, fun _ => iff_of_false (fun failed => failed rfl) whole, Nat.le_refl _⟩
  | true =>
  refine ends_then isCancelled_run ?_
  have asks : Reaches mysql cancelAfter start (start.ask cancelAfter).2 := .single .asked
  cases cancelled : (start.ask cancelAfter).1 with
  | true =>
    refine ends_pure (Processed.mk asks (fun _ => iff_of_false (fun failed => failed rfl) ?_) (Nat.le_refl _))
    intro broken
    rcases broken_concat.mp broken with earlier | ⟨_, other⟩
    · exact whole earlier
    · cases other
  | false =>
  have free := timed.free cancelled
  refine Outcomes.ends_weaken ?_ fun outcome finish processed => Processed.behind asks (Nat.le_refl _) processed
  have timed' := asks.timed timed
  generalize (start.ask cancelAfter).2 = asked at free timed' ⊢
  rw [if_neg Bool.false_ne_true]
  refine ends_then rfl ?_
  dsimp only
  split
  next error framing => exact ends_throw (.free free)
  next framing => exact ends_throw (.free free)
  next frame rest framing =>
    have again : ∀ {mid : Parsing Reader}, ¬Broken mid.moments → Timed cancelAfter mid →
        Ends (processTransactionPayload mysql cancelAfter process rest outer) mid (Processed mysql cancelAfter 0 mid) :=
      fun whole timed => ih _ (size ▸ (readEventFrame_some framing).shorter) rest whole timed rfl
    cases recorded : asked.state.recordDecompressedEvent frame.length outer with
    | error error => exact ends_stop (tryState_error recorded) (.free free)
    | ok state =>
    obtain ⟨few, small, rfl⟩ := recordDecompressedEvent_ok recorded
    refine ends_then (tryState_ok recorded) ?_
    refine ends_then rfl ?_
    have takes : Moves mysql cancelAfter asked _ := .decompressed free frame few small
    have timed' := takes.timed timed'
    have free : ¬Observed (asked.moments ++ [.decompressed frame]) := fun observed =>
      (observed_concat.mp observed).elim free fun same => by cases same
    have counted {outcome : Except BinlogImportFailure Unit} {finish : Parsing Reader}
        (processed : Processed mysql cancelAfter 1 _ outcome finish) : Processed mysql cancelAfter 0 asked outcome finish :=
      processed.behind (.single takes) (Nat.le_refl _)
    refine ends_weaken ?_ fun outcome finish => counted
    refine decoded_processed ?_ frame true outer.fileName outer.startPosition free timed'
    intro inner mid free timed
    apply ends_bind (processes inner _ mid free timed)
    · intro error state processed
      exact processed
    · intro _ state processed
      refine ends_weaken (again processed.whole (processed.reaches.timed timed)) ?_
      intro outcome finish later
      exact processed.after later

theorem Processed.moved {finish : Parsing Reader} {outcome : Except BinlogImportFailure Unit} (moves : Moves mysql cancelAfter start finish)
    (free : ¬Observed finish.moments) (events : finish.state.eventCount = start.state.eventCount)
    (taken : finish.state.decompressedPayloadEvents = start.state.decompressedPayloadEvents) :
    Processed mysql cancelAfter 0 start outcome finish :=
  ⟨.single moves, fun observed => absurd observed free, by omega⟩

theorem free_concat {moments : List Moment} {moment : Moment} (free : ¬Observed moments) (other : moment ≠ .asked true) :
    ¬Observed (moments ++ [moment]) :=
  fun observed => (observed_concat.mp observed).elim free other

theorem hand_processed (free : ¬Observed start.moments) (event : AssemblerEvent)
    (decoded : ∀ change location, event = .rows change location → FromRows mysql change location) :
    Ends (hand event) start (Processed mysql cancelAfter 0 start) :=
  Processed.moved (.handed free event decoded) (free_concat free nofun) rfl rfl

theorem diagnose_processed (free : ¬Observed start.moments) (diagnostic : BinlogDiagnostic) (produced : Produced mysql diagnostic) :
    Ends (diagnose diagnostic) start (Processed mysql cancelAfter 0 start) := by
  obtain ⟨diagnostics, truncated, same⟩ := pushDiagnostic_keeps start.state diagnostic
  refine Processed.moved (.diagnosed free diagnostic produced) (free_concat free nofun) ?_ ?_
  · exact (congrArg ParserState.eventCount same).trans rfl
  · exact (congrArg ParserState.decompressedPayloadEvents same).trans rfl

theorem reports_processed (free : ¬Observed start.moments) {diagnostics : List BinlogDiagnostic}
    (produced : ∀ diagnostic ∈ diagnostics, Produced mysql diagnostic) :
    Ends (diagnostics.forM diagnose) start fun outcome finish =>
      outcome = .ok ⟨⟩ ∧ Processed mysql cancelAfter 0 start (.ok ()) finish ∧ ¬Observed finish.moments := by
  apply ends_forM
  · exact ⟨.free free, free⟩
  · intro diagnostic member state ⟨processed, free⟩
    have reported : Ends (diagnose diagnostic) state (Processed mysql cancelAfter 0 state) :=
      diagnose_processed free diagnostic (produced diagnostic member)
    exact ⟨rfl, processed.after reported, free_concat free nofun⟩

/-- A payload that was entered is left, whatever its processing comes to. -/
theorem payload_left {entered : Parsing Reader} {computation : ParseM Reader Unit}
    (enters : Moves mysql cancelAfter start entered)
    (deeper : entered.state.transactionPayloadDepth = start.state.transactionPayloadDepth + 1)
    (events : entered.state.eventCount = start.state.eventCount)
    (taken : entered.state.decompressedPayloadEvents = start.state.decompressedPayloadEvents)
    (steady : Steady computation) (ends : Ends computation entered (Processed mysql cancelAfter 0 entered)) :
    Ends (tryFinally computation do
      modifyState ParserState.leaveTransactionPayload
      note fun state => .left state.transactionPayloadDepth) entered (Processed mysql cancelAfter 0 start) := by
  have both : Ends computation entered fun outcome finish => Processed mysql cancelAfter 0 entered outcome finish ∧
      finish.state.transactionPayloadDepth = entered.state.transactionPayloadDepth := ⟨ends, (steady entered).1⟩
  refine ends_finally (fun _ => rfl) (ends_weaken both ?_)
  intro outcome finish ⟨processed, depth⟩
  have leaves : Moves mysql cancelAfter finish _ := .left (by omega)
  refine ⟨(processed.reaches.head enters).tail leaves, ?_, ?_⟩
  · intro observed
    refine (processed.ended ((observed_concat.mp observed).resolve_right nofun)).trans ?_
    constructor
    · intro broken
      exact broken_concat.mpr (.inl broken)
    · intro broken
      exact (broken_concat.mp broken).resolve_right (fun both => nomatch both.2)
  · have counted := processed.counted
    rw [events, taken] at counted
    exact counted

theorem processEvent_processed (levels : Nat) (event : Event Rows) (location : EventLocation) (free : ¬Observed start.moments)
    (timed : Timed cancelAfter start) :
    Ends (processEvent mysql cancelAfter levels event location) start (Processed mysql cancelAfter 0 start) := by
  induction levels using Nat.strong_induction_on generalizing event location start with
  | _ levels ih =>
  rw [processEvent]
  split
  case h_1 error data => exact .free free
  case h_2 data => exact diagnose_processed free _ (.inl rfl)
  case h_3 schema query data => exact hand_processed free _ nofun
  case h_4 xid data => exact hand_processed free _ nofun
  case h_5 sid tag gno data => exact hand_processed free _ nofun
  case h_6 query data => exact hand_processed free _ nofun
  case h_7 rows data =>
    refine ends_then rfl ?_
    have decoded : ∀ change diagnostics, mysql.decodeRowsEvent start.reader rows location = (change, diagnostics) →
        FromRows mysql change location ∧ ∀ diagnostic ∈ diagnostics, Produced mysql diagnostic := by
      intro change diagnostics same
      refine ⟨⟨start.reader, rows, (congrArg Prod.fst same).symm⟩, fun diagnostic member => ?_⟩
      exact .inr ⟨start.reader, rows, location, by rw [same]; exact member⟩
    generalize mysql.decodeRowsEvent start.reader rows location = result at decoded
    obtain ⟨change, diagnostics⟩ := result
    obtain ⟨fromRows, produced⟩ := decoded change diagnostics rfl
    have reports : Ends (diagnostics.forM diagnose) start fun outcome finish =>
        outcome = .ok ⟨⟩ ∧ Processed mysql cancelAfter 0 start (.ok ()) finish ∧ ¬Observed finish.moments :=
      reports_processed free produced
    apply ends_bind reports
    · intro error state ⟨passed, _⟩
      cases passed
    · intro _ state ⟨_, processed, free⟩
      refine ends_weaken (hand_processed free _ ?_) fun outcome finish later => processed.after later
      intro other place same
      obtain ⟨rfl, rfl⟩ := AssemblerEvent.rows.inj same
      exact fromRows
  case h_8 size decompressed data =>
    cases entered : start.state.enterTransactionPayload size location with
    | error error => exact ends_stop (tryState_error entered) (.free free)
    | ok state =>
    obtain ⟨shallow, rfl⟩ := enterTransactionPayload_ok entered
    refine ends_then (tryState_ok entered) ?_
    refine ends_then rfl ?_
    have enters : Moves mysql cancelAfter start _ := .entered free shallow
    refine payload_left enters rfl rfl rfl ?_ ?_
    · split
      · exact steady_throw rfl
      · exact steady_pure _
      · exact steady_payload (steady_processEvent _) _ _
    have free : ¬Observed (start.moments ++ [.entered (start.state.transactionPayloadDepth + 1)]) := free_concat free nofun
    split
    · exact .free free
    · exact .free free
    next levels payload =>
      refine payload_processed ?_ payload location (fun broken => free broken.observed) (enters.timed timed)
      intro inner place mid free timed
      exact ih levels (Nat.lt_succ_self _) inner place free timed
  case h_9 version data =>
    split
    · exact .free free
    · exact .free free
  case h_10 message data => exact diagnose_processed free _ (.inl rfl)
  case h_11 data => exact diagnose_processed free _ (.inl rfl)
  case h_12 data => exact hand_processed free _ nofun

end Processing

end Pipa.BinlogParser
