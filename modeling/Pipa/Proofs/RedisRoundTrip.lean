import Pipa.Proofs.RedisFrames

/-! Every frame within the limits is read back, and so is every command. -/

namespace Pipa.Redis
open Text

theorem not_mem_tag {tag : UInt8} {payload : List UInt8} (other : tag ≠ 10) (within : 10 ∉ payload) :
    10 ∉ tag :: payload := by
  simp only [List.mem_cons, not_or]
  exact ⟨other.symm, within⟩

theorem readResponse_text {depth : Nat} {tag : UInt8} {text : String} {value : RespValue}
    (shallow : depth ≤ maxResponseDepth) (fits : FitsLine text)
    (other : tag ≠ 36 ∧ tag ≠ 33 ∧ tag ≠ 61 ∧ tag ≠ 42 ∧ tag ≠ 126 ∧ tag ≠ 62 ∧ tag ≠ 37 ∧ tag ≠ 124) (noEnd : tag ≠ 10)
    (found : lineValue tag (utf8 text) = .ok value) : Returns (readResponse depth) (line tag (utf8 text)) value :=
  readResponse_lineValue shallow (not_mem_tag noEnd fits.1) fits.2 other found

/-- The line of a length stays within the limits on lines. -/
theorem readResponse_counted {depth count : Nat} {tag : UInt8} {body : List UInt8} {value : RespValue}
    (shallow : depth ≤ maxResponseDepth) (noEnd : tag ≠ 10) (small : count ≤ maxResponseBytes)
    (tagged : Returns (readTagged (readResponse (depth + 1)) tag (Decimal.text count)) body value) :
    Returns (readResponse depth) (line tag (Decimal.text count) ++ body) value := by
  have short := text_length_le small
  have limit : 8 + 3 ≤ maxResponseLineBytes := by decide
  exact readResponse_line shallow (not_mem_tag noEnd (text_free (by decide))) (by omega) tagged

theorem readValues_cons {reader : Input → Except AppError (RespValue × Input)} {count : Nat} {bytes others : List UInt8}
    {value : RespValue} {values : List RespValue} (first : Returns reader bytes value)
    (later : Returns (readValues reader count) others values) :
    Returns (readValues reader (count + 1)) (bytes ++ others) (value :: values) := by
  intro rest remaining covers limited
  rw [List.length_append] at covers
  have read := first (others ++ rest) remaining (by omega) limited
  have next := later rest (remaining - bytes.length) (by omega) (by omega)
  rw [List.append_assoc]
  simp only [readValues, bind, Except.bind, read, next, List.length_append, Nat.sub_sub]
  rfl

theorem readEntries_cons {reader : Input → Except AppError (RespValue × Input)} {count : Nat}
    {keyBytes valueBytes others : List UInt8} {key value : RespValue} {entries : List (RespValue × RespValue)}
    (first : Returns reader keyBytes key) (second : Returns reader valueBytes value)
    (later : Returns (readEntries reader count) others entries) :
    Returns (readEntries reader (count + 1)) (keyBytes ++ (valueBytes ++ others)) ((key, value) :: entries) := by
  intro rest remaining covers limited
  simp only [List.length_append] at covers
  have readKey := first (valueBytes ++ (others ++ rest)) remaining (by omega) limited
  have readValue := second (others ++ rest) (remaining - keyBytes.length) (by omega) (by omega)
  have next := later rest (remaining - keyBytes.length - valueBytes.length) (by omega) (by omega)
  have left : remaining - (keyBytes ++ (valueBytes ++ others)).length =
      remaining - keyBytes.length - valueBytes.length - others.length := by
    simp only [List.length_append]
    omega
  simp only [left, List.append_assoc, readEntries, bind, Except.bind, readKey, readValue, next]
  rfl

theorem readNone_returns {α : Type} (reader : Input → Except AppError (List α × Input))
    (nothing : ∀ input, reader input = .ok ([], input)) : Returns reader [] [] := by
  intro rest remaining covers limited
  rw [nothing]
  rfl

mutual

/-- Reading a frame within the limits returns its value and leaves what follows. -/
theorem Frame.returns : (frame : Frame) → (depth : Nat) → frame.Fits depth →
    Returns (readResponse depth) frame.encode frame.value
  | .simple text, depth, ⟨shallow, fits⟩ =>
    readResponse_text shallow fits (by decide) (by decide) (by simp [lineValue, payloadText_utf8, Except.map, Frame.value])
  | .error text, depth, ⟨shallow, fits⟩ =>
    readResponse_text shallow fits (by decide) (by decide) (by simp [lineValue, payloadText_utf8, Except.map, Frame.value])
  | .integer text, depth, ⟨shallow, fits, isInteger⟩ =>
    readResponse_text shallow fits (by decide) (by decide) (by simp [lineValue, parseIntegerText_utf8 isInteger, Except.map, Frame.value])
  | .double text, depth, ⟨shallow, fits⟩ =>
    readResponse_text shallow fits (by decide) (by decide) (by simp [lineValue, payloadText_utf8, Except.map, Frame.value])
  | .bigNumber text, depth, ⟨shallow, fits, isInteger⟩ =>
    readResponse_text shallow fits (by decide) (by decide) (by simp [lineValue, parseIntegerText_utf8 isInteger, Except.map, Frame.value])
  | .boolean true, depth, shallow => readResponse_lineValue shallow (by decide) (by decide) (by decide) rfl
  | .boolean false, depth, shallow => readResponse_lineValue shallow (by decide) (by decide) (by decide) rfl
  | .null, depth, shallow => readResponse_lineValue shallow (by decide) (by decide) (by decide) rfl
  | .bulk tag bytes, depth, shallow => by
    have noEnd : tag.byte ≠ 10 := by cases tag <;> decide
    intro rest remaining covers limited
    have small : bytes.length ≤ maxResponseBytes := by
      simp only [Frame.encode, line, List.length_append, List.length_cons] at covers
      omega
    exact readResponse_counted shallow noEnd small (bulk_returns _ tag bytes) rest remaining covers limited
  | .noBulk tag, depth, shallow => by
    have within : 10 ∉ [tag.byte, 45, 49] := by cases tag <;> decide
    simpa [Frame.encode, Frame.value] using readResponse_line shallow within (by decide) (null_returns (readResponse (depth + 1)) tag)
  | .collection tag values, depth, ⟨shallow, small, fit⟩ => by
    have noEnd : tag.byte ≠ 10 := by cases tag <;> decide
    exact readResponse_counted shallow noEnd (small.trans (by decide)) (values_return tag small (valuesReturn values (depth + 1) fit))
  | .noCollection tag, depth, shallow => by
    have within : 10 ∉ [tag.byte, 45, 49] := by cases tag <;> decide
    simpa [Frame.encode, Frame.value] using readResponse_line shallow within (by decide) (noCollection_returns (readResponse (depth + 1)) tag)
  | .map entries, depth, ⟨shallow, small, fit⟩ =>
    readResponse_counted shallow (by decide) (small.trans (by decide)) (entries_return small (entriesReturn entries (depth + 1) fit))
  | .attributed attributes described, depth, ⟨shallow, small, fit, fits⟩ =>
    readResponse_counted shallow (by decide) (small.trans (by decide))
      (attributed_returns small (entriesReturn attributes (depth + 1) fit) (described.returns (depth + 1) fits))

theorem valuesReturn : (frames : List Frame) → (depth : Nat) → AllFit depth frames →
    Returns (readValues (readResponse depth) frames.length) (encodeAll frames) (valuesOf frames)
  | [], _, _ => readNone_returns _ fun _ => rfl
  | frame :: frames, depth, ⟨first, later⟩ => readValues_cons (frame.returns depth first) (valuesReturn frames depth later)

theorem entriesReturn : (entries : List (Frame × Frame)) → (depth : Nat) → EntriesFit depth entries →
    Returns (readEntries (readResponse depth) entries.length) (encodeEntries entries) (entriesOf entries)
  | [], _, _ => readNone_returns _ fun _ => rfl
  | (key, value) :: entries, depth, ⟨first, second, later⟩ =>
    readEntries_cons (key.returns depth first) (value.returns depth second) (entriesReturn entries depth later)

end

mutual

/-- A wire form of a value. -/
def RespValue.frame : RespValue → Frame
  | .simple text => .simple text
  | .error text => .error text
  | .integer text => .integer text
  | .bulk (some bytes) => .bulk .bulk bytes
  | .bulk none => .noBulk .bulk
  | .array (some values) => .collection .array (framesOf values)
  | .array none => .noCollection .array
  | .boolean value => .boolean value
  | .double text => .double text
  | .bigNumber text => .bigNumber text
  | .verbatim bytes => .bulk .verbatim bytes
  | .map entries => .map (framePairs entries)
  | .set values => .collection .set (framesOf values)
  | .null => .null

def framesOf : List RespValue → List Frame
  | [] => []
  | value :: values => value.frame :: framesOf values

def framePairs : List (RespValue × RespValue) → List (Frame × Frame)
  | [] => []
  | (key, value) :: entries => (key.frame, value.frame) :: framePairs entries

end

mutual

theorem RespValue.frame_value : (value : RespValue) → value.frame.value = value
  | .simple _ | .error _ | .integer _ | .bulk (some _) | .bulk none | .array none | .boolean _ | .double _ | .bigNumber _
  | .verbatim _ | .null => rfl
  | .array (some values) => by rw [RespValue.frame, Frame.value, valuesOf_framesOf values]; decide
  | .map entries => by rw [RespValue.frame, Frame.value, entriesOf_framePairs entries]
  | .set values => by rw [RespValue.frame, Frame.value, valuesOf_framesOf values]

theorem valuesOf_framesOf : (values : List RespValue) → valuesOf (framesOf values) = values
  | [] => rfl
  | value :: values => by rw [framesOf, valuesOf, value.frame_value, valuesOf_framesOf values]

theorem entriesOf_framePairs : (entries : List (RespValue × RespValue)) → entriesOf (framePairs entries) = entries
  | [] => rfl
  | (key, value) :: entries => by
    rw [framePairs, entriesOf, key.frame_value, value.frame_value, entriesOf_framePairs entries]

end

/-! ### Commands -/

def bulkFrame (argument : List UInt8) : Frame := .bulk .bulk argument

theorem encodeAll_bulks (arguments : List (List UInt8)) :
    encodeAll (arguments.map bulkFrame) =
      arguments.flatMap fun argument => 36 :: (Decimal.text argument.length ++ crlf) ++ (argument ++ crlf) := by
  induction arguments with
  | nil => rfl
  | cons argument arguments ih => rw [List.map_cons, encodeAll, ih, List.flatMap_cons]; rfl

theorem valuesOf_bulks (arguments : List (List UInt8)) :
    valuesOf (arguments.map bulkFrame) = arguments.map fun argument => RespValue.bulk (some argument) := by
  induction arguments with
  | nil => rfl
  | cons argument arguments ih => rw [List.map_cons, valuesOf, ih]; rfl

theorem allFit_bulks (depth : Nat) (shallow : depth ≤ maxResponseDepth) (arguments : List (List UInt8)) :
    AllFit depth (arguments.map bulkFrame) := by
  induction arguments with
  | nil => trivial
  | cons argument arguments ih => exact ⟨shallow, ih⟩

/-- A command is written as the array of its arguments. -/
theorem encodeCommand_eq (arguments : List (List UInt8)) :
    encodeCommand arguments = (Frame.collection .array (arguments.map bulkFrame)).encode := by
  rw [encodeCommand, Frame.encode, List.length_map, encodeAll_bulks]
  rfl

/-- What is written for a command, a value or any other frame within the limits is read
back with the bytes behind it left alone, and every successful read takes from the
budget exactly the bytes it takes from the stream. -/
theorem response_round_trip :
    (∀ arguments rest remaining, arguments.length ≤ maxCollectionElements →
      (encodeCommand arguments).length ≤ remaining → remaining ≤ maxResponseBytes →
      readResponse 0 ⟨encodeCommand arguments ++ rest, remaining⟩ =
        .ok (.array (some (arguments.map fun argument => .bulk (some argument))),
          ⟨rest, remaining - (encodeCommand arguments).length⟩)) ∧
    (∀ (value : RespValue) depth rest remaining, value.frame.Fits depth →
      value.frame.encode.length ≤ remaining → remaining ≤ maxResponseBytes →
      readResponse depth ⟨value.frame.encode ++ rest, remaining⟩ =
        .ok (value, ⟨rest, remaining - value.frame.encode.length⟩)) ∧
    (∀ (frame : Frame) depth rest remaining, frame.Fits depth →
      frame.encode.length ≤ remaining → remaining ≤ maxResponseBytes →
      readResponse depth ⟨frame.encode ++ rest, remaining⟩ =
        .ok (frame.value, ⟨rest, remaining - frame.encode.length⟩)) ∧
    (∀ depth input value after, readResponse depth input = .ok (value, after) →
      ∃ taken, input.stream = taken ++ after.stream ∧ input.remaining = after.remaining + taken.length) := by
  refine ⟨fun arguments rest remaining small covers limited => ?_, fun value depth rest remaining fits covers limited => ?_,
    fun frame depth rest remaining fits covers limited => frame.returns depth fits rest remaining covers limited,
    fun depth input value after read => readResponse_accounts depth read⟩
  · have fits : (Frame.collection .array (arguments.map bulkFrame)).Fits 0 :=
      ⟨by decide, by simpa using small, allFit_bulks 1 (by decide) arguments⟩
    rw [encodeCommand_eq] at covers ⊢
    rw [Frame.returns _ 0 fits rest remaining covers limited, Frame.value, valuesOf_bulks]
    decide
  · have returned := value.frame.returns depth fits rest remaining covers limited
    rwa [value.frame_value] at returned

theorem response_round_trip_small :
    readResponse 0 ⟨encodeCommand [[68, 69, 76], [], [13, 10]] ++ [42], 64⟩ =
        .ok (.array (some [.bulk (some [68, 69, 76]), .bulk (some []), .bulk (some [13, 10])]), ⟨[42], 64 - 27⟩) ∧
      readResponse 63 ⟨(RespValue.set [.integer "-1", .null]).frame.encode ++ [42], 64⟩ =
        .ok (.set [.integer "-1", .null], ⟨[42], 64 - 12⟩) := by
  have small : ∀ count < 10, (Decimal.text count).length = 1 := fun count small => by rw [Decimal.text, if_pos small]; rfl
  constructor
  · have size : (encodeCommand [[68, 69, 76], [], [13, 10]]).length = 27 := by simp [encodeCommand, small, crlf]
    have returned := response_round_trip.1 [[68, 69, 76], [], [13, 10]] [42] 64 (by decide) (by omega) (by decide)
    rwa [size] at returned
  · have fits : (RespValue.set [.integer "-1", .null]).frame.Fits 63 :=
      ⟨by decide, by decide, ⟨by decide, ⟨by decide, by decide⟩, ⟨by decide, by decide⟩⟩, (by decide : 63 + 1 ≤ maxResponseDepth), trivial⟩
    have size : (RespValue.set [.integer "-1", .null]).frame.encode.length = 12 := by
      have minusOne : (utf8 "-1").length = 2 := by decide
      simp [RespValue.frame, framesOf, Frame.encode, encodeAll, line, small, crlf, minusOne]
    have returned := response_round_trip.2.1 _ 63 [42] 64 fits (by omega) (by decide)
    rwa [size] at returned

end Pipa.Redis
