import Pipa.Proofs.BinlogHalting

/-! The limits on compressed payloads: how deep they nest, how many bytes and events are
taken from them, over a whole import. Processing an event leaves every payload that it
entered, and the depth bounds the recursion. -/

namespace Pipa.BinlogParser
open Outcomes

/-- The depth that was noted where a payload was entered or left. -/
def Moment.depth? : Moment → Option Nat
  | .entered depth | .left depth => some depth
  | _ => none

/-- The frame that was taken from a payload and handed to the decoder. -/
def Moment.frame? : Moment → Option (List UInt8)
  | .decompressed frame => some frame
  | _ => none

/-- The sizes of the frames that were taken from payloads. -/
def takenSizes (moments : List Moment) : List Nat := (moments.filterMap Moment.frame?).map List.length

theorem takenSizes_concat (moments : List Moment) (moment : Moment) :
    takenSizes (moments ++ [moment]) = takenSizes moments ++ (moment.frame?.map List.length).toList := by
  rw [takenSizes, List.filterMap_append, List.map_append]
  cases moment <;> rfl

section Limits
variable {Reader Rows : Type} {mysql : MysqlCommon Reader Rows} {cancelAfter : Option Nat} {start finish : Parsing Reader}

/-- The counters are the totals of what was taken, and all are within their limits. -/
structure Limited (parsing : Parsing Reader) : Prop where
  shallow : parsing.state.transactionPayloadDepth ≤ maxTransactionPayloadDepth
  nested : ∀ moment ∈ parsing.moments, ∀ depth, moment.depth? = some depth → depth ≤ maxTransactionPayloadDepth
  bytes : parsing.state.decompressedPayloadBytes = (takenSizes parsing.moments).sum
  events : parsing.state.decompressedPayloadEvents = (takenSizes parsing.moments).length
  small : parsing.state.decompressedPayloadBytes ≤ maxDecompressedPayloadBytes
  few : parsing.state.decompressedPayloadEvents ≤ maxDecompressedPayloadEvents

/-- A moment that is about no depth, and about no frame, leaves what is limited alone. -/
private theorem Limited.noted {parsing : Parsing Reader} (limited : Limited parsing) {state : ParserState} {checks : Nat} {moment : Moment}
    (depth : state.transactionPayloadDepth = parsing.state.transactionPayloadDepth)
    (bytes : state.decompressedPayloadBytes = parsing.state.decompressedPayloadBytes)
    (events : state.decompressedPayloadEvents = parsing.state.decompressedPayloadEvents)
    (level : moment.depth? = none) (frame : moment.frame? = none) :
    Limited { parsing with state, checks, moments := parsing.moments ++ [moment] } := by
  have sizes : takenSizes (parsing.moments ++ [moment]) = takenSizes parsing.moments := by
    rw [takenSizes_concat, frame]
    exact List.append_nil _
  refine ⟨depth ▸ limited.shallow, ?_, ?_, ?_, bytes ▸ limited.small, events ▸ limited.few⟩
  · intro other member
    rcases List.mem_append.mp member with earlier | here
    · exact limited.nested other earlier
    · rw [List.mem_singleton.mp here, level]
      exact nofun
  · rw [sizes]
    exact bytes.trans limited.bytes
  · rw [sizes]
    exact events.trans limited.events

/-- A payload is entered or left at this depth. -/
private theorem Limited.moved {parsing : Parsing Reader} (limited : Limited parsing) {depth : Nat}
    (shallow : depth ≤ maxTransactionPayloadDepth) {moment : Moment} (level : moment.depth? = some depth) (frame : moment.frame? = none) :
    Limited { parsing with
      state := { parsing.state with transactionPayloadDepth := depth }
      moments := parsing.moments ++ [moment] } := by
  have sizes : takenSizes (parsing.moments ++ [moment]) = takenSizes parsing.moments := by
    rw [takenSizes_concat, frame]
    exact List.append_nil _
  refine ⟨shallow, ?_, ?_, ?_, limited.small, limited.few⟩
  · intro other member found same
    rcases List.mem_append.mp member with earlier | here
    · exact limited.nested other earlier found same
    · rw [List.mem_singleton.mp here, level] at same
      exact Option.some.inj same ▸ shallow
  · rw [sizes]
    exact limited.bytes
  · rw [sizes]
    exact limited.events

theorem Moves.limited (moves : Moves mysql cancelAfter start finish) (limited : Limited start) : Limited finish := by
  cases moves with
  | asked => exact limited.noted rfl rfl rfl rfl rfl
  | left inside => exact limited.moved (Nat.le_trans (Nat.sub_le _ _) limited.shallow) rfl rfl
  | unread => exact limited.noted rfl rfl rfl rfl rfl
  | read => exact ⟨limited.shallow, limited.nested, limited.bytes, limited.events, limited.small, limited.few⟩
  | counted _ timestamp =>
    obtain ⟨firstTimestamp, lastTimestamp, same⟩ :=
      observeTimestamp_keeps { start.state with eventCount := start.state.eventCount + 1 } timestamp
    rw [same]
    exact ⟨limited.shallow, limited.nested, limited.bytes, limited.events, limited.small, limited.few⟩
  | entered _ shallow => exact limited.moved shallow rfl rfl
  | decompressed _ frame few small =>
    have sizes : takenSizes (start.moments ++ [.decompressed frame]) = takenSizes start.moments ++ [frame.length] :=
      takenSizes_concat _ _
    refine ⟨limited.shallow, ?_, ?_, ?_, small, few⟩
    · intro moment member
      rcases List.mem_append.mp member with earlier | here
      · exact limited.nested moment earlier
      · rw [List.mem_singleton.mp here]
        exact nofun
    · rw [sizes, List.sum_append, ← limited.bytes, List.sum_singleton]
    · rw [sizes, List.length_append, ← limited.events, List.length_singleton]
  | handed => exact limited.noted rfl rfl rfl rfl rfl
  | diagnosed _ diagnostic =>
    obtain ⟨diagnostics, truncated, same⟩ := pushDiagnostic_keeps start.state diagnostic
    rw [same]
    exact limited.noted rfl rfl rfl rfl rfl

theorem Reaches.limited (reaches : Reaches mysql cancelAfter start finish) (limited : Limited start) : Limited finish := by
  induction reaches with
  | refl => exact limited
  | tail _ moves ih => exact moves.limited ih

end Limits

section Levels
variable {Reader Rows : Type} {mysql : MysqlCommon Reader Rows} {cancelAfter : Option Nat} {start : Parsing Reader}

/-- Payload loops agree at a depth where the processing of their events does. -/
theorem payload_congr {process other : Event Rows → EventLocation → ParseM Reader Unit} {depth : Nat}
    (same : ∀ event location start, start.state.transactionPayloadDepth = depth →
      (process event location).run start = (other event location).run start)
    (steady : ∀ event location, Steady (process event location)) (payload : ByteStream) (outer : EventLocation)
    (level : start.state.transactionPayloadDepth = depth) :
    (processTransactionPayload mysql cancelAfter process payload outer).run start =
      (processTransactionPayload mysql cancelAfter other payload outer).run start := by
  induction size : payload.bytes.length using Nat.strong_induction_on generalizing payload start with
  | _ size ih =>
  rw [processTransactionPayload, processTransactionPayload]
  cases payload.hasDataLeft with
  | error error => rfl
  | ok left =>
  cases left with
  | false => rfl
  | true =>
  refine run_bind_congr (ends_weaken (show Ends (isCancelled cancelAfter) start fun _ state =>
    state.state.transactionPayloadDepth = depth from level) ?_)
  intro _ asked level cancelled _
  split
  · rfl
  refine run_bind_congr (ends_get ?_)
  intro parsing _
  dsimp only
  split
  · rfl
  · rfl
  next frame rest framing =>
    have keep {α : Type} {first : ParseM Reader α} {next another : α → ParseM Reader Unit} {start : Parsing Reader}
        (steady : Steady first) (level : start.state.transactionPayloadDepth = depth)
        (behind : ∀ value state, state.state.transactionPayloadDepth = depth → (next value).run state = (another value).run state) :
        (first >>= next).run start = (first >>= another).run start :=
      run_bind_congr (ends_weaken (steady start) fun _ state kept value _ => behind value state (kept.1.trans level))
    refine keep (steady_recorded _ _) level fun _ recorded level => ?_
    refine keep (steady_note _) level fun _ noted level => ?_
    refine keep (steady_parseEventFrame _ _ _ _) level fun inner decoded level => ?_
    refine keep (steady_counted _) level fun _ counted level => ?_
    refine (keep (steady _ _) level fun _ processed level =>
      ih _ (size ▸ (readEventFrame_some framing).shorter) rest level rfl).trans ?_
    rw [run_bind, run_bind, same _ _ counted level]

/-- The levels that are left do not matter where they reach as deep as payloads may nest. -/
theorem processEvent_levels {levels other : Nat} (event : Event Rows) (location : EventLocation)
    (enough : maxTransactionPayloadDepth ≤ levels + start.state.transactionPayloadDepth)
    (enough' : maxTransactionPayloadDepth ≤ other + start.state.transactionPayloadDepth) :
    (processEvent mysql cancelAfter levels event location).run start =
      (processEvent mysql cancelAfter other event location).run start := by
  induction levels using Nat.strong_induction_on generalizing other event location start with
  | _ levels ih =>
  rw [processEvent, processEvent]
  split
  case h_8 size decompressed data =>
    cases entered : start.state.enterTransactionPayload size location with
    | error error => rw [run_bind, run_bind, tryState_error entered]
    | ok state =>
    obtain ⟨shallow, rfl⟩ := enterTransactionPayload_ok entered
    rw [run_bind, run_bind, tryState_ok entered]
    refine run_bind_congr (ends_modify fun _ _ => run_finally_congr ?_)
    obtain ⟨levels, rfl⟩ : ∃ below, levels = below + 1 := ⟨levels - 1, by omega⟩
    obtain ⟨other, rfl⟩ : ∃ below, other = below + 1 := ⟨other - 1, by omega⟩
    cases decompressed with
    | error error => rfl
    | ok payload =>
      have level : ({ start with
          state := { start.state with transactionPayloadDepth := start.state.transactionPayloadDepth + 1 } }
          : Parsing Reader).state.transactionPayloadDepth = start.state.transactionPayloadDepth + 1 := rfl
      refine payload_congr ?_ (steady_processEvent _) payload location level
      intro inner place mid level
      apply ih levels (Nat.lt_succ_self _) inner place
      · omega
      · omega
  all_goals rfl

end Levels

section Import
variable {Reader Rows : Type}

/-- What an import keeps to while it decompresses payloads. -/
structure Bounded (importing : Importing Reader) : Prop where
  nested : ∀ moment ∈ importing.parsing.moments, ∀ depth, moment.depth? = some depth → depth ≤ maxTransactionPayloadDepth
  left : importing.parsing.state.transactionPayloadDepth = 0
  bytes : (takenSizes importing.parsing.moments).sum ≤ maxDecompressedPayloadBytes
  events : (takenSizes importing.parsing.moments).length ≤ maxDecompressedPayloadEvents
  byteCounter : importing.parsing.state.decompressedPayloadBytes = (takenSizes importing.parsing.moments).sum
  eventCounter : importing.parsing.state.decompressedPayloadEvents = (takenSizes importing.parsing.moments).length
  counted : importing.parsing.state.eventCount ≤ importing.processed.length + 1 + maxDecompressedPayloadEvents
  unwrapped : (frameBytes importing.processed).length < u64Size → importing.parsing.state.eventCount < u64Size

theorem processed_framed (mysql : MysqlCommon Reader Rows) (source : ImportSource) (analysisId : Uuid) (files : List BinlogFileSummary) :
    ∀ frame ∈ (importFiles mysql source analysisId files).2.processed, Framed frame.bytes := by
  let content (index : Nat) : List UInt8 := ((source.openFile index).toOption.map ByteStream.bytes).getD []
  have opened : ∀ offset < files.length, Opened source (0 + offset) (content (0 + offset)) := by
    intro offset _ input found
    have same : content (0 + offset) = input.bytes := by
      simp only [content, found]
      rfl
    rw [same]
    exact ⟨List.prefix_refl _, fun _ => rfl⟩
  obtain ⟨frames, processed, read⟩ :=
    readFiles_frames mysql source (totalSize files) files.length content 0 files opened (.start mysql analysisId)
  intro frame member
  rw [importFiles, processed] at member
  exact (read.each frame member).2.2

/-- Decompression is bounded. Whatever the event and the state, the payload depth is restored,
and more levels than the depth leaves open make no difference; and every import, however its
payloads nest and however it ends, keeps to the limits without wrapping a counter. -/
theorem payloads_bounded (mysql : MysqlCommon Reader Rows) :
    (∀ cancelAfter levels event location (start : Parsing Reader),
      ((processEvent mysql cancelAfter levels event location).run start).2.state.transactionPayloadDepth =
        start.state.transactionPayloadDepth) ∧
    (∀ cancelAfter levels other event location (start : Parsing Reader),
      maxTransactionPayloadDepth ≤ levels + start.state.transactionPayloadDepth →
      maxTransactionPayloadDepth ≤ other + start.state.transactionPayloadDepth →
      (processEvent mysql cancelAfter levels event location).run start =
        (processEvent mysql cancelAfter other event location).run start) ∧
    ∀ source analysisId files, Bounded (importFiles mysql source analysisId files).2 := by
  refine ⟨fun cancelAfter levels event location start => (steady_processEvent levels event location start).1, ?_, ?_⟩
  · intro cancelAfter levels other event location start enough enough'
    exact processEvent_levels event location enough enough'
  · intro source analysisId files
    have halts := importFiles_halts mysql source analysisId files
    have initial : Limited (Importing.start mysql analysisId).parsing :=
      ⟨Nat.zero_le _, nofun, rfl, rfl, Nat.zero_le _, Nat.zero_le _⟩
    have limited := halts.reaches.limited initial
    have framed := framed_length (processed_framed mysql source analysisId files)
    have counted : (importFiles mysql source analysisId files).2.parsing.state.eventCount ≤
        (importFiles mysql source analysisId files).2.processed.length + 1 + maxDecompressedPayloadEvents := by
      have counted := halts.counted
      have few := limited.few
      change _ + 0 + 0 ≤ 0 + _ + _ + 1 at counted
      omega
    refine ⟨limited.nested, halts.depth, limited.bytes ▸ limited.small, limited.events ▸ limited.few, limited.bytes,
      limited.events, counted, ?_⟩
    intro short
    unfold eventHeaderLength at framed
    unfold maxDecompressedPayloadEvents at counted
    unfold u64Size at short ⊢
    omega

end Import

end Pipa.BinlogParser
