import Pipa.Library.Outcomes
import Pipa.Proofs.RedisAccounting
import Pipa.RedisMeter

/-! The limits on what one Redis response takes from the stream. They hold exactly if every
protocol line that is begun fits them, since a line is checked when it was buffered. -/

namespace Pipa.Redis
open Text Outcomes

/-! ### The metered reader is the reader -/

/-- The reader without a meter gives this answer too. -/
inductive Same {α : Type} (answer : Except AppError (α × Input)) : Except Stop α → Meter → Prop
  | ok {value : α} {finish : Meter} (same : answer = .ok (value, ⟨finish.stream, finish.remaining⟩)) (closed : finish.ending = .closed) :
      Same answer (.ok value) finish
  | failed {error : AppError} {finish : Meter} (same : answer = .error error) : Same answer (.error (.failed error)) finish

/-- On a stream that ends, the metered reader does what the other one does. -/
def Agrees {α : Type} (metered : ReadM α) (plain : Input → Except AppError (α × Input)) : Prop :=
  ∀ meter, meter.ending = .closed → Ends metered meter (Same (plain ⟨meter.stream, meter.remaining⟩))

section Rules
variable {α β : Type}

theorem agrees_pure (value : α) : Agrees (pure value) fun input => .ok (value, input) :=
  fun _ closed => .ok rfl closed

theorem agrees_fail (error : AppError) : Agrees (Metered.fail error : ReadM α) fun _ => .error error :=
  fun _ _ => .failed rfl

theorem agrees_bind {first : ReadM α} {next : α → ReadM β} {plain : Input → Except AppError (α × Input)}
    {plains : α × Input → Except AppError (β × Input)} (agrees : Agrees first plain)
    (agrees' : ∀ value, Agrees (next value) fun input => plains (value, input)) :
    Agrees (first >>= next) fun input => plain input >>= plains := by
  intro meter closed
  apply ends_bind (agrees meter closed)
  · intro stop finish same
    cases same with
    | failed same =>
      refine .failed ?_
      dsimp only
      rw [same]
      rfl
  · intro value finish same
    cases same with
    | ok same closed =>
      dsimp only
      rw [same]
      exact agrees' value finish closed

theorem agrees_settle (settled : Except AppError α) :
    Agrees (Metered.settle settled) fun input => settled.map fun value => (value, input) := by
  cases settled with
  | ok value => exact agrees_pure value
  | error error => exact agrees_fail error

/-- A read that runs out of bytes goes on only where the stream has ended. -/
theorem starve_ends {early : ReadM α} {ending : Ending} {meter : Meter} {post : Except Stop α → Meter → Prop}
    (closed : ending = .closed → Ends early meter post) (stopped : ending ≠ .closed → ∀ stop, post (.error stop) meter) :
    Ends (Metered.starve early ending) meter post := by
  cases ending with
  | closed => exact closed rfl
  | broken details => exact stopped Ending.noConfusion _
  | silent => exact stopped Ending.noConfusion _

end Rules

/-- What the reading of a line up to its newline comes to. -/
structure LineRead (meter : Meter) (outcome : Except Stop (List UInt8)) (finish : Meter) : Prop where
  buffered : finish = meter.buffer (readUntil 10 meter.stream).1
  line : ∀ line, outcome = .ok line → line = (readUntil 10 meter.stream).1
  closed : meter.ending = .closed → outcome = .ok (readUntil 10 meter.stream).1

theorem readUntilNewline_ends (meter : Meter) : Ends Metered.readUntilNewline meter (LineRead meter) := by
  refine ends_then rfl (ends_then rfl ?_)
  split
  next => exact ⟨rfl, fun line same => (Except.ok.inj same).symm, fun _ => rfl⟩
  next =>
    apply starve_ends
    · exact fun _ => ⟨rfl, fun line same => (Except.ok.inj same).symm, fun _ => rfl⟩
    · intro unclosed stop
      refine ⟨rfl, fun line same => ?_, fun closed => absurd closed unclosed⟩
      cases same

theorem readUntil_drop (stream : List UInt8) : stream.drop (readUntil 10 stream).1.length = (readUntil 10 stream).2 := by
  have parts := congrArg (List.drop (readUntil 10 stream).1.length) (readUntil_append 10 stream)
  rwa [List.drop_left, eq_comm] at parts

theorem readProtocolLine_agrees : Agrees Metered.readProtocolLine readProtocolLine := by
  intro meter closed
  apply ends_bind (readUntilNewline_ends meter)
  · intro stop finish read
    cases read.closed closed
  · intro line finish read
    have buffered := read.buffered
    obtain rfl := read.line line rfl
    subst buffered
    refine ends_then rfl ?_
    have left : (meter.buffer (readUntil 10 meter.stream).1).stream = (readUntil 10 meter.stream).2 := readUntil_drop meter.stream
    rw [readProtocolLine]
    dsimp only
    split
    next refused => exact .failed (if_pos refused)
    next fits =>
      refine ends_then rfl (.ok ?_ closed)
      refine (if_neg fits).trans ?_
      exact congrArg (fun stream => Except.ok (_, (⟨stream, _⟩ : Input))) left.symm

/-- What the reading of so many bytes comes to. -/
structure BytesRead (count : Nat) (meter : Meter) (outcome : Except Stop (List UInt8)) (finish : Meter) : Prop where
  taken : finish = meter.take count
  bytes : ∀ bytes, outcome = .ok bytes → count ≤ meter.stream.length ∧ bytes = meter.stream.take count
  closed : meter.ending = .closed → outcome =
    if meter.stream.length < count then .error (.failed (connectionError "early eof")) else .ok (meter.stream.take count)

theorem readExact_ends (count : Nat) (meter : Meter) : Ends (Metered.readExact count) meter (BytesRead count meter) := by
  refine ends_then rfl (ends_then rfl ?_)
  split
  next short =>
    apply starve_ends
    · refine fun _ => ⟨rfl, fun bytes same => ?_, fun _ => (if_pos short).symm⟩
      cases same
    · intro unclosed stop
      refine ⟨rfl, fun bytes same => ?_, fun closed => absurd closed unclosed⟩
      cases same
  next whole => exact ⟨rfl, fun bytes same => ⟨Nat.not_lt.mp whole, (Except.ok.inj same).symm⟩, fun _ => (if_neg whole).symm⟩

theorem readProtocolBytes_agrees (length : Nat) : Agrees (Metered.readProtocolBytes length) (readProtocolBytes length) := by
  intro meter closed
  refine ends_then rfl ?_
  rw [readProtocolBytes]
  dsimp only
  split
  next refused => exact .failed rfl
  next allowed =>
    apply ends_bind (readExact_ends (length + 2) meter)
    · intro stop finish read
      have answer := read.closed closed
      split at answer
      next short =>
        obtain rfl := Except.error.inj answer
        exact .failed (if_pos short)
      next => cases answer
    · intro bytes finish read
      obtain ⟨whole, rfl⟩ := read.bytes bytes rfl
      obtain rfl := read.taken
      rw [if_neg (Nat.not_lt.mpr whole)]
      split
      next unframed => exact .failed rfl
      next framed =>
        exact ends_then rfl (.ok rfl closed)

theorem agrees_settled {settled : Except AppError α} {next : α → ReadM β} {plains : α → Input → Except AppError (β × Input)}
    (agrees : ∀ value, Agrees (next value) (plains value)) :
    Agrees (Metered.settle settled >>= next) fun input => settled >>= fun value => plains value input := by
  cases settled with
  | ok value => exact agrees value
  | error error => exact agrees_fail error

theorem agrees_ite {condition : Prop} [Decidable condition] {first second : ReadM α} {plain plain' : Input → Except AppError (α × Input)}
    (agrees : Agrees first plain) (agrees' : Agrees second plain') :
    Agrees (if condition then first else second) fun input => if condition then plain input else plain' input := by
  split
  · exact agrees
  · exact agrees'

theorem readBulk_agrees (tag : UInt8) (payload : List UInt8) : Agrees (Metered.readBulk tag payload) (readBulk tag payload) := by
  apply agrees_settled
  intro length
  apply agrees_ite
  · exact agrees_pure (RespValue.bulk none)
  · apply agrees_bind (readProtocolBytes_agrees length.toNat)
    intro bytes
    apply agrees_ite
    · exact agrees_pure _
    · exact agrees_ite (agrees_pure _) (agrees_pure _)

section Nested
variable {reader : ReadM RespValue} {plain : Input → Except AppError (RespValue × Input)}

theorem readValues_agrees (agrees : Agrees reader plain) (count : Nat) :
    Agrees (Metered.readValues reader count) (readValues plain count) := by
  induction count with
  | zero => exact agrees_pure []
  | succ count ih =>
    refine agrees_bind agrees fun value => ?_
    refine agrees_bind ih fun values => ?_
    exact agrees_pure (value :: values)

theorem readEntries_agrees (agrees : Agrees reader plain) (count : Nat) :
    Agrees (Metered.readEntries reader count) (readEntries plain count) := by
  induction count with
  | zero => exact agrees_pure []
  | succ count ih =>
    refine agrees_bind agrees fun key => ?_
    refine agrees_bind agrees fun value => ?_
    refine agrees_bind ih fun entries => ?_
    exact agrees_pure ((key, value) :: entries)

theorem readAggregate_agrees (agrees : Agrees reader plain) (tag : UInt8) (payload : List UInt8) :
    Agrees (Metered.readAggregate reader tag payload) (readAggregate plain tag payload) := by
  apply agrees_settled
  intro length
  apply agrees_ite
  · exact agrees_pure (RespValue.array none)
  · have collection : Agrees (Metered.readCollection reader length.toNat) (readCollection plain length.toNat) :=
      agrees_ite (agrees_fail _) (readValues_agrees agrees _)
    apply agrees_bind collection
    intro values
    exact agrees_ite (agrees_pure _) (agrees_pure _)

theorem readMap_agrees (agrees : Agrees reader plain) (tag : UInt8) (payload : List UInt8) :
    Agrees (Metered.readMap reader tag payload) (readMap plain tag payload) := by
  apply agrees_settled
  intro length
  apply agrees_ite
  · exact agrees_fail _
  · apply agrees_ite
    · exact agrees_fail _
    · apply agrees_bind (readEntries_agrees agrees _)
      intro entries
      exact agrees_ite agrees (agrees_pure _)

theorem readTagged_agrees (agrees : Agrees reader plain) (tag : UInt8) (payload : List UInt8) :
    Agrees (Metered.readTagged reader tag payload) (readTagged plain tag payload) := by
  apply agrees_ite
  · exact readBulk_agrees tag payload
  apply agrees_ite
  · exact readAggregate_agrees agrees tag payload
  apply agrees_ite
  · exact readMap_agrees agrees tag payload
  exact agrees_settle (lineValue tag payload)

end Nested

/-- Where the stream ends, the metered reader reads the same response, leaves the same
stream and budget, and fails alike. -/
theorem readResponse_agrees (depth : Nat) : Agrees (Metered.readResponse depth) (readResponse depth) := by
  induction level : maxResponseDepth + 1 - depth generalizing depth with
  | zero =>
    intro meter closed
    rw [Metered.readResponse, readResponse, if_pos (by omega), if_pos (by omega)]
    exact agrees_fail _ meter closed
  | succ level ih =>
    intro meter closed
    rw [Metered.readResponse, readResponse, if_neg (by omega), if_neg (by omega)]
    refine agrees_bind readProtocolLine_agrees ?_ meter closed
    intro line
    cases line with
    | nil => exact agrees_fail _
    | cons tag payload => exact readTagged_agrees (ih (depth + 1) (by omega)) tag payload

/-! ### The limits -/

/-- The protocol line ahead is no longer than a line may be, and than the bytes still allowed. -/
def Fits (input : Input) : Prop :=
  (readUntil 10 input.stream).1.length ≤ maxResponseLineBytes ∧ (readUntil 10 input.stream).1.length ≤ input.remaining

/-- No more was taken from the stream than a response may have, and no longer line was
buffered than a line may be. -/
structure Bounded (meter : Meter) : Prop where
  taken : meter.taken ≤ maxResponseBytes
  longest : meter.longest ≤ maxResponseLineBytes

/-- The budget accounts for what was taken. -/
structure Balanced (meter : Meter) : Prop where
  balance : meter.taken + meter.remaining = maxResponseBytes
  short : meter.longest ≤ maxResponseLineBytes
  fits : ∀ input ∈ meter.begun, Fits input

/-- The limits hold exactly if every line that was begun fits. -/
def Verdict (meter : Meter) : Prop := Bounded meter ↔ ∀ input ∈ meter.begun, Fits input

theorem Balanced.verdict {meter : Meter} (balanced : Balanced meter) : Verdict meter := by
  refine iff_of_true ⟨?_, balanced.short⟩ balanced.fits
  have balance := balanced.balance
  omega

/-- A read keeps the accounts balanced, or stops where the verdict is known. -/
structure Limited {α : Type} (outcome : Except Stop α) (finish : Meter) : Prop where
  balanced : ∀ value, outcome = .ok value → Balanced finish
  verdict : Verdict finish

def Limits {α : Type} (action : ReadM α) : Prop := ∀ meter, Balanced meter → Ends action meter Limited

section Rules
variable {α β : Type}

theorem limits_pure (value : α) : Limits (pure value : ReadM α) := fun _ balanced => ⟨fun _ _ => balanced, balanced.verdict⟩

theorem limits_fail (error : AppError) : Limits (Metered.fail error : ReadM α) := by
  intro meter balanced
  refine ⟨fun value same => ?_, balanced.verdict⟩
  cases same

theorem limits_bind {first : ReadM α} {next : α → ReadM β} (limits : Limits first) (limits' : ∀ value, Limits (next value)) :
    Limits (first >>= next) := by
  intro meter balanced
  apply ends_bind (limits meter balanced)
  · intro stop finish limited
    refine ⟨fun value same => ?_, limited.verdict⟩
    cases same
  · intro value finish limited
    exact limits' value finish (limited.balanced value rfl)

theorem limits_settle (settled : Except AppError α) : Limits (Metered.settle settled) := by
  cases settled with
  | ok value => exact limits_pure value
  | error error => exact limits_fail error

theorem limits_ite {condition : Prop} [Decidable condition] {first second : ReadM α} (limits : Limits first) (limits' : Limits second) :
    Limits (if condition then first else second) := by
  split
  · exact limits
  · exact limits'

end Rules

theorem buffer_taken (meter : Meter) :
    (meter.buffer (readUntil 10 meter.stream).1).taken = meter.taken + (readUntil 10 meter.stream).1.length := by
  have whole := congrArg List.length (readUntil_append 10 meter.stream)
  rw [List.length_append] at whole
  change meter.taken + min _ _ = _
  omega

/-- Behind a line, the limits hold exactly if it fitted. -/
theorem buffer_verdict {meter : Meter} (balanced : Balanced meter) : Verdict (meter.buffer (readUntil 10 meter.stream).1) := by
  have balance := balanced.balance
  have taken := buffer_taken meter
  have longest : (meter.buffer (readUntil 10 meter.stream).1).longest = max meter.longest (readUntil 10 meter.stream).1.length := rfl
  have begun : (meter.buffer (readUntil 10 meter.stream).1).begun = meter.begun ++ [⟨meter.stream, meter.remaining⟩] := rfl
  have short := balanced.short
  rw [Verdict, begun]
  constructor
  · intro bounded input member
    rcases List.mem_append.mp member with earlier | here
    · exact balanced.fits input earlier
    · rw [List.mem_singleton.mp here]
      have within := bounded.taken
      have within' := bounded.longest
      rw [taken] at within
      rw [longest] at within'
      refine ⟨Nat.le_trans (Nat.le_max_right _ _) within', ?_⟩
      dsimp only
      omega
  · intro fits
    obtain ⟨line, budget⟩ := fits _ (List.mem_append_right _ (List.mem_singleton_self _))
    refine ⟨?_, ?_⟩
    · rw [taken]
      dsimp only at budget
      omega
    · rw [longest]
      exact Nat.max_le.mpr ⟨short, line⟩

theorem readProtocolLine_limits : Limits Metered.readProtocolLine := by
  intro meter balanced
  have verdict := buffer_verdict balanced
  apply ends_bind (readUntilNewline_ends meter)
  · intro stop finish read
    obtain rfl := read.buffered
    refine ⟨fun value same => ?_, verdict⟩
    cases same
  · intro line finish read
    have buffered := read.buffered
    obtain rfl := read.line line rfl
    subst buffered
    refine ends_then rfl ?_
    dsimp only
    split
    next =>
      refine ⟨fun value same => ?_, verdict⟩
      cases same
    next fits =>
      have accounted : Balanced { meter.buffer (readUntil 10 meter.stream).1 with
          remaining := meter.remaining - (readUntil 10 meter.stream).1.length } := by
        have line : (readUntil 10 meter.stream).1.length ≤ maxResponseLineBytes := by
          by_contra long
          exact fits (.inr (.inl (Nat.not_le.mp long)))
        have budget : (readUntil 10 meter.stream).1.length ≤ meter.remaining := by
          by_contra beyond
          exact fits (.inr (.inr (.inl (Nat.not_le.mp beyond))))
        have balance := balanced.balance
        refine ⟨?_, Nat.max_le.mpr ⟨balanced.short, line⟩, ?_⟩
        · rw [buffer_taken]
          dsimp only
          omega
        · intro input member
          rcases List.mem_append.mp member with earlier | here
          · exact balanced.fits input earlier
          · rw [List.mem_singleton.mp here]
            exact ⟨line, budget⟩
      exact ends_then rfl ⟨fun _ _ => accounted, accounted.verdict⟩

theorem readProtocolBytes_limits (length : Nat) : Limits (Metered.readProtocolBytes length) := by
  intro meter balanced
  refine ends_then rfl ?_
  split
  next => exact limits_fail _ meter balanced
  next allowed =>
    have balance := balanced.balance
    have partly : Verdict (meter.take (length + 2)) := by
      refine iff_of_true ⟨?_, balanced.short⟩ balanced.fits
      change meter.taken + min _ _ ≤ _
      omega
    apply ends_bind (readExact_ends (length + 2) meter)
    · intro stop finish read
      obtain rfl := read.taken
      refine ⟨fun value same => ?_, partly⟩
      cases same
    · intro bytes finish read
      obtain ⟨whole, rfl⟩ := read.bytes bytes rfl
      obtain rfl := read.taken
      split
      next =>
        refine ⟨fun value same => ?_, partly⟩
        cases same
      next =>
        have accounted : Balanced { meter.take (length + 2) with remaining := meter.remaining - (length + 2) } := by
          refine ⟨?_, balanced.short, balanced.fits⟩
          change meter.taken + min _ _ + (meter.remaining - _) = _
          omega
        exact ends_then rfl ⟨fun _ _ => accounted, accounted.verdict⟩

theorem readBulk_limits (tag : UInt8) (payload : List UInt8) : Limits (Metered.readBulk tag payload) := by
  apply limits_bind (limits_settle _)
  intro length
  apply limits_ite (limits_pure _)
  apply limits_bind (readProtocolBytes_limits _)
  intro bytes
  exact limits_ite (limits_pure _) (limits_ite (limits_pure _) (limits_pure _))

section Nested
variable {reader : ReadM RespValue}

theorem readValues_limits (limits : Limits reader) (count : Nat) : Limits (Metered.readValues reader count) := by
  induction count with
  | zero => exact limits_pure []
  | succ count ih => exact limits_bind limits fun value => limits_bind ih fun values => limits_pure (value :: values)

theorem readEntries_limits (limits : Limits reader) (count : Nat) : Limits (Metered.readEntries reader count) := by
  induction count with
  | zero => exact limits_pure []
  | succ count ih =>
    refine limits_bind limits fun key => ?_
    refine limits_bind limits fun value => ?_
    exact limits_bind ih fun entries => limits_pure ((key, value) :: entries)

theorem readAggregate_limits (limits : Limits reader) (tag : UInt8) (payload : List UInt8) :
    Limits (Metered.readAggregate reader tag payload) := by
  apply limits_bind (limits_settle _)
  intro length
  apply limits_ite (limits_pure _)
  have collection : Limits (Metered.readCollection reader length.toNat) := limits_ite (limits_fail _) (readValues_limits limits _)
  apply limits_bind collection
  intro values
  exact limits_ite (limits_pure _) (limits_pure _)

theorem readMap_limits (limits : Limits reader) (tag : UInt8) (payload : List UInt8) :
    Limits (Metered.readMap reader tag payload) := by
  apply limits_bind (limits_settle _)
  intro length
  apply limits_ite (limits_fail _)
  apply limits_ite (limits_fail _)
  apply limits_bind (readEntries_limits limits _)
  intro entries
  exact limits_ite limits (limits_pure _)

theorem readTagged_limits (limits : Limits reader) (tag : UInt8) (payload : List UInt8) :
    Limits (Metered.readTagged reader tag payload) := by
  apply limits_ite (readBulk_limits tag payload)
  apply limits_ite (readAggregate_limits limits tag payload)
  apply limits_ite (readMap_limits limits tag payload)
  exact limits_settle _

end Nested

theorem readResponse_limits (depth : Nat) : Limits (Metered.readResponse depth) := by
  induction level : maxResponseDepth + 1 - depth generalizing depth with
  | zero =>
    rw [Metered.readResponse, if_pos (by omega)]
    exact limits_fail _
  | succ level ih =>
    rw [Metered.readResponse, if_neg (by omega)]
    apply limits_bind readProtocolLine_limits
    intro line
    cases line with
    | nil => exact limits_fail _
    | cons tag payload => exact readTagged_limits (ih (depth + 1) (by omega)) tag payload

/-- While it reads a response, the client keeps to its limits on the bytes taken from the
stream and on the line buffered, exactly if every protocol line that it begins fits them. -/
theorem readReply_bounded (stream : List UInt8) (ending : Ending) :
    Bounded (readReply stream ending).2 ↔ ∀ input ∈ (readReply stream ending).2.begun, Fits input := by
  have initial : Balanced (.start stream ending) := by
    refine ⟨Nat.zero_add _, Nat.zero_le _, ?_⟩
    intro input member
    cases member
  exact (readResponse_limits 0 (.start stream ending) initial).verdict

theorem readUntil_absent {stream : List UInt8} (absent : 10 ∉ stream) : readUntil 10 stream = (stream, []) := by
  induction stream with
  | nil => rfl
  | cons byte bytes ih =>
    have other : byte ≠ 10 := fun same => absent (same ▸ List.mem_cons_self)
    rw [readUntil, if_neg other, ih fun member => absent (List.mem_cons_of_mem _ member)]

/-- Without a newline, all that the server has sent is buffered. -/
theorem readReply_absent {stream : List UInt8} (absent : 10 ∉ stream) : (readReply stream .silent).2.longest = stream.length := by
  have reads : Metered.readUntilNewline.run (.start stream .silent) = (.error .waiting, (Meter.start stream .silent).buffer stream) := by
    have line : (readUntil 10 stream).1 = stream := congrArg Prod.fst (readUntil_absent absent)
    have open' : stream.getLast? ≠ some 10 := fun last => absent (List.mem_of_getLast? last)
    have ends : Ends Metered.readUntilNewline (.start stream .silent) fun outcome finish =>
        (outcome, finish) = (.error .waiting, (Meter.start stream .silent).buffer stream) := by
      refine ends_then rfl (ends_then rfl ?_)
      change Ends (if (readUntil 10 stream).1.getLast? = some 10 then _ else _) ((Meter.start stream .silent).buffer _) _
      rw [line, if_neg open']
      exact congrArg (fun line => (Except.error Stop.waiting, (Meter.start stream .silent).buffer line)) line
    exact ends
  have stopped : Ends Metered.readProtocolLine (.start stream .silent) fun outcome finish =>
      outcome = .error .waiting ∧ finish = (Meter.start stream .silent).buffer stream := ends_stop reads ⟨rfl, rfl⟩
  have finished : Ends (Metered.readResponse 0) (.start stream .silent) fun _ finish => finish.longest = stream.length := by
    rw [Metered.readResponse, if_neg (by decide)]
    apply ends_bind stopped
    · intro stop finish ⟨_, same⟩
      rw [same]
      exact Nat.zero_max _
    · intro line finish ⟨passed, _⟩
      cases passed
  exact finished

/-- A server that sends no newline makes the client buffer more than a line may have. -/
theorem readReply_bounded_endless : ¬∀ (stream : List UInt8) (ending : Ending), Bounded (readReply stream ending).2 := by
  intro bounded
  have short := (bounded (List.replicate (maxResponseLineBytes + 1) 65) .silent).longest
  have absent : 10 ∉ List.replicate (maxResponseLineBytes + 1) (65 : UInt8) := by
    intro member
    exact absurd (List.eq_of_mem_replicate member) (by decide)
  rw [readReply_absent absent, List.length_replicate] at short
  exact Nat.not_succ_le_self _ short

end Pipa.Redis
