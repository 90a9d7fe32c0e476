import Pipa.Proofs.RedisAccounting

/-! The wire form of RESP values. A frame is a value as it stands on the wire, with its
tag; reading what is written for a frame within the limits returns its value and
leaves what follows it. -/

namespace Pipa.Redis
open Text

inductive BulkTag where
  | bulk | error | verbatim
deriving DecidableEq, Repr

inductive CollectionTag where
  | array | set | push
deriving DecidableEq, Repr

def BulkTag.byte : BulkTag → UInt8
  | .bulk => 36
  | .error => 33
  | .verbatim => 61

def CollectionTag.byte : CollectionTag → UInt8
  | .array => 42
  | .set => 126
  | .push => 62

/-- A value as it stands on the wire; attributes precede the value they describe. -/
inductive Frame where
  | simple (text : String)
  | error (text : String)
  | integer (text : String)
  | double (text : String)
  | bigNumber (text : String)
  | boolean (value : Bool)
  | null
  | bulk (tag : BulkTag) (bytes : List UInt8)
  | noBulk (tag : BulkTag)
  | collection (tag : CollectionTag) (values : List Frame)
  | noCollection (tag : CollectionTag)
  | map (entries : List (Frame × Frame))
  | attributed (attributes : List (Frame × Frame)) (value : Frame)

mutual

/-- What a frame stands for. -/
def Frame.value : Frame → RespValue
  | .simple text => .simple text
  | .error text => .error text
  | .integer text => .integer text
  | .double text => .double text
  | .bigNumber text => .bigNumber text
  | .boolean value => .boolean value
  | .null => .null
  | .bulk .bulk bytes => .bulk (some bytes)
  | .bulk .error bytes => .error (fromUtf8Lossy bytes)
  | .bulk .verbatim bytes => .verbatim bytes
  | .noBulk _ => .bulk none
  | .collection .set values => .set (valuesOf values)
  | .collection _ values => .array (some (valuesOf values))
  | .noCollection _ => .array none
  | .map entries => .map (entriesOf entries)
  | .attributed _ value => value.value

def valuesOf : List Frame → List RespValue
  | [] => []
  | frame :: frames => frame.value :: valuesOf frames

def entriesOf : List (Frame × Frame) → List (RespValue × RespValue)
  | [] => []
  | (key, value) :: entries => (key.value, value.value) :: entriesOf entries

end

/-- A tag, the text of its line, and the end of the line. -/
def line (tag : UInt8) (payload : List UInt8) : List UInt8 := tag :: (payload ++ crlf)

mutual

def Frame.encode : Frame → List UInt8
  | .simple text => line 43 (utf8 text)
  | .error text => line 45 (utf8 text)
  | .integer text => line 58 (utf8 text)
  | .double text => line 44 (utf8 text)
  | .bigNumber text => line 40 (utf8 text)
  | .boolean value => line 35 [if value then 116 else 102]
  | .null => line 95 []
  | .bulk tag bytes => line tag.byte (Decimal.text bytes.length) ++ (bytes ++ crlf)
  | .noBulk tag => line tag.byte [45, 49]
  | .collection tag values => line tag.byte (Decimal.text values.length) ++ encodeAll values
  | .noCollection tag => line tag.byte [45, 49]
  | .map entries => line 37 (Decimal.text entries.length) ++ encodeEntries entries
  | .attributed attributes value =>
    line 124 (Decimal.text attributes.length) ++ (encodeEntries attributes ++ value.encode)

def encodeAll : List Frame → List UInt8
  | [] => []
  | frame :: frames => frame.encode ++ encodeAll frames

def encodeEntries : List (Frame × Frame) → List UInt8
  | [] => []
  | (key, value) :: entries => key.encode ++ (value.encode ++ encodeEntries entries)

end

/-- Text that stays within its line. -/
def FitsLine (text : String) : Prop := 10 ∉ utf8 text ∧ (utf8 text).length + 3 ≤ maxResponseLineBytes

/-- An optional minus sign and digits. -/
def IsInteger (text : String) : Prop :=
  let payload := utf8 text
  let digits := if payload.head? = some 45 then payload.tail else payload
  digits ≠ [] ∧ digits.all Decimal.isDigit = true

mutual

/-- The frame is within the limits on depth, lines and elements; the limit on the size of
a response is the budget of its read. -/
def Frame.Fits : Nat → Frame → Prop
  | depth, .simple text | depth, .error text | depth, .double text => depth ≤ maxResponseDepth ∧ FitsLine text
  | depth, .integer text | depth, .bigNumber text =>
    depth ≤ maxResponseDepth ∧ FitsLine text ∧ IsInteger text
  | depth, .boolean _ | depth, .null | depth, .bulk _ _ | depth, .noBulk _ | depth, .noCollection _ =>
    depth ≤ maxResponseDepth
  | depth, .collection _ values =>
    depth ≤ maxResponseDepth ∧ values.length ≤ maxCollectionElements ∧ AllFit (depth + 1) values
  | depth, .map entries =>
    depth ≤ maxResponseDepth ∧ entries.length ≤ maxCollectionElements ∧ EntriesFit (depth + 1) entries
  | depth, .attributed attributes value =>
    depth ≤ maxResponseDepth ∧ attributes.length ≤ maxCollectionElements ∧ EntriesFit (depth + 1) attributes ∧
      value.Fits (depth + 1)

def AllFit : Nat → List Frame → Prop
  | _, [] => True
  | depth, frame :: frames => frame.Fits depth ∧ AllFit depth frames

def EntriesFit : Nat → List (Frame × Frame) → Prop
  | _, [] => True
  | depth, (key, value) :: entries => key.Fits depth ∧ value.Fits depth ∧ EntriesFit depth entries

end

/-- Reading these bytes returns the value, within any budget that covers them, and
leaves whatever follows them. -/
def Returns {α : Type} (reader : Input → Except AppError (α × Input)) (bytes : List UInt8) (value : α) : Prop :=
  ∀ rest remaining, bytes.length ≤ remaining → remaining ≤ maxResponseBytes →
    reader ⟨bytes ++ rest, remaining⟩ = .ok (value, ⟨rest, remaining - bytes.length⟩)

theorem readUntil_line {stop : UInt8} {line rest : List UInt8} (within : stop ∉ line) :
    readUntil stop (line ++ stop :: rest) = (line ++ [stop], rest) := by
  induction line with
  | nil => simp [readUntil]
  | cons byte line ih =>
    obtain ⟨other, within⟩ := not_or.mp (fun member => within (List.mem_cons.mpr member))
    rw [List.cons_append, readUntil, if_neg (fun same => other same.symm), ih within]
    rfl

/-- A line that fits is read back without its end. -/
theorem readProtocolLine_returns {tag : UInt8} {payload : List UInt8} (within : 10 ∉ tag :: payload)
    (fits : payload.length + 3 ≤ maxResponseLineBytes) : Returns readProtocolLine (line tag payload) (tag :: payload) := by
  intro rest remaining covers _
  have whole : line tag payload ++ rest = ((tag :: payload) ++ [13]) ++ 10 :: rest := by simp [line, crlf]
  have free : 10 ∉ (tag :: payload) ++ [13] := by
    simp only [List.mem_append, List.mem_singleton, not_or]
    exact ⟨within, by decide⟩
  have taken : line tag payload = ((tag :: payload) ++ [13]) ++ [10] := by simp [line, crlf]
  have size : (line tag payload).length = payload.length + 3 := by simp [line, crlf]
  have ends : crlf <:+ line tag payload := ⟨tag :: payload, by simp [line]⟩
  simp only [readProtocolLine, whole, readUntil_line free, ← taken, size]
  rw [size] at covers
  rw [if_neg]
  · have content : (line tag payload).take (payload.length + 3 - 2) = tag :: payload := by
      simp [line]
    rw [content]
  · simp only [not_or, not_not]
    exact ⟨by omega, by omega, by omega, ends⟩

theorem readProtocolBytes_returns (bytes : List UInt8) :
    Returns (readProtocolBytes bytes.length) (bytes ++ crlf) bytes := by
  intro rest remaining covers _
  have size : (bytes ++ crlf).length = bytes.length + 2 := by simp [crlf]
  rw [size] at covers
  have front : (bytes ++ crlf ++ rest).take (bytes.length + 2) = bytes ++ crlf := by
    rw [← size, List.take_left']
    rfl
  have behind : (bytes ++ crlf ++ rest).drop (bytes.length + 2) = rest := by
    rw [← size, List.drop_left']
    rfl
  simp only [readProtocolBytes, front, behind, size]
  rw [if_neg (by omega), if_neg (by simp [crlf]), if_neg (by simp), List.take_left']
  rfl

/-! ### Payloads -/

theorem text_length_le {count : Nat} (small : count ≤ maxResponseBytes) : (Decimal.text count).length ≤ 8 := by
  have greatest : (Decimal.text maxResponseBytes).length = 8 := by simp [Decimal.text, maxResponseBytes]
  exact greatest ▸ Decimal.text_length_mono small

theorem digit_bounds {byte : UInt8} (isDigit : Decimal.isDigit byte = true) : 48 ≤ byte.toNat ∧ byte.toNat ≤ 57 := by
  simpa [Decimal.isDigit, UInt8.le_iff_toNat_le] using isDigit

theorem text_free {count : Nat} {other : UInt8} (outside : other.toNat < 48) : other ∉ Decimal.text count := by
  intro member
  have bounds := digit_bounds (Decimal.text_digits count other member)
  omega

theorem parseI64_text {count : Nat} (small : count ≤ 9223372036854775807) : parseI64 (Decimal.text count) = some (count : Int) := by
  obtain ⟨first, digits, shape⟩ := List.exists_cons_of_ne_nil (Decimal.text_ne_nil count)
  have member : first ∈ Decimal.text count := by simp [shape]
  have minus : first ≠ 45 := by
    rintro rfl
    exact text_free (by decide) member
  have plus : first ≠ 43 := by
    rintro rfl
    exact text_free (by decide) member
  have read := Decimal.read_text count
  rw [shape] at read
  rw [shape, parseI64, if_neg minus, if_neg plus, read]
  exact if_pos small

theorem parseLength_text {count : Nat} (small : count ≤ maxResponseBytes) : parseLength (Decimal.text count) = .ok count := by
  have within : count ≤ 9223372036854775807 := small.trans (by decide)
  rw [parseLength, parseI64_text within]
  exact if_neg (by omega)

theorem payloadText_utf8 (text : String) : payloadText (utf8 text) = .ok text := by
  rw [payloadText, fromUtf8_utf8]

theorem parseIntegerText_utf8 {text : String} (isInteger : IsInteger text) : parseIntegerText (utf8 text) = .ok text := by
  obtain ⟨present, digits⟩ := isInteger
  rw [parseIntegerText, fromUtf8_utf8]
  exact if_neg (by simp only [not_or]; exact ⟨present, by simpa using digits⟩)

/-! ### Values -/

/-- A value whose line fits is read by its tag. -/
theorem readResponse_line {depth : Nat} {tag : UInt8} {payload body : List UInt8} {value : RespValue}
    (shallow : depth ≤ maxResponseDepth) (within : 10 ∉ tag :: payload) (fits : payload.length + 3 ≤ maxResponseLineBytes)
    (tagged : Returns (readTagged (readResponse (depth + 1)) tag payload) body value) :
    Returns (readResponse depth) (line tag payload ++ body) value := by
  intro rest remaining covers limited
  rw [List.length_append] at covers
  have first := readProtocolLine_returns within fits (body ++ rest) remaining (by omega) limited
  have second := tagged rest (remaining - (line tag payload).length) (by omega) (by omega)
  rw [readResponse, if_neg (by omega), List.append_assoc, first]
  change readTagged (readResponse (depth + 1)) tag payload _ = _
  rw [second, List.length_append, Nat.sub_sub]

/-- A value that ends with its line. -/
theorem readResponse_lineValue {depth : Nat} {tag : UInt8} {payload : List UInt8} {value : RespValue}
    (shallow : depth ≤ maxResponseDepth) (within : 10 ∉ tag :: payload) (fits : payload.length + 3 ≤ maxResponseLineBytes)
    (other : tag ≠ 36 ∧ tag ≠ 33 ∧ tag ≠ 61 ∧ tag ≠ 42 ∧ tag ≠ 126 ∧ tag ≠ 62 ∧ tag ≠ 37 ∧ tag ≠ 124)
    (found : lineValue tag payload = .ok value) : Returns (readResponse depth) (line tag payload) value := by
  have tagged : Returns (readTagged (readResponse (depth + 1)) tag payload) [] value := by
    intro rest remaining covers limited
    obtain ⟨_, _, _, _, _, _, _, _⟩ := other
    rw [readTagged, if_neg (by tauto), if_neg (by tauto), if_neg (by tauto), found]
    rfl
  simpa using readResponse_line shallow within fits tagged

theorem bulk_returns (reader : Input → Except AppError (RespValue × Input)) (tag : BulkTag) (bytes : List UInt8) :
    Returns (readTagged reader tag.byte (Decimal.text bytes.length)) (bytes ++ crlf) (Frame.bulk tag bytes).value := by
  intro rest remaining covers limited
  have small : bytes.length ≤ maxResponseBytes := by
    rw [List.length_append] at covers
    omega
  have taken := readProtocolBytes_returns bytes rest remaining covers limited
  have present : (bytes.length : Int) ≠ -1 := by omega
  have read : readTagged reader tag.byte (Decimal.text bytes.length) = readBulk tag.byte (Decimal.text bytes.length) := by
    funext input
    cases tag <;> rfl
  rw [read, readBulk, parseLength_text small]
  simp only [bind, Except.bind, if_neg present, Int.toNat_natCast, taken]
  cases tag <;> rfl

theorem values_return {reader : Input → Except AppError (RespValue × Input)} (tag : CollectionTag) {values : List Frame}
    {bytes : List UInt8} (small : values.length ≤ maxCollectionElements)
    (nested : Returns (readValues reader values.length) bytes (valuesOf values)) :
    Returns (readTagged reader tag.byte (Decimal.text values.length)) bytes (Frame.collection tag values).value := by
  intro rest remaining covers limited
  have taken := nested rest remaining covers limited
  have present : (values.length : Int) ≠ -1 := by omega
  have read : readTagged reader tag.byte (Decimal.text values.length) =
      readAggregate reader tag.byte (Decimal.text values.length) := by
    funext input
    cases tag <;> rfl
  rw [read, readAggregate, parseLength_text (small.trans (by decide))]
  simp only [bind, Except.bind, if_neg present, Int.toNat_natCast, readCollection, if_neg (Nat.not_lt.mpr small), taken]
  cases tag <;> rfl

theorem null_returns (reader : Input → Except AppError (RespValue × Input)) (tag : BulkTag) :
    Returns (readTagged reader tag.byte [45, 49]) [] (.bulk none) := by
  intro rest remaining covers limited
  cases tag <;> rfl

theorem entries_return {reader : Input → Except AppError (RespValue × Input)} {entries : List (Frame × Frame)}
    {bytes : List UInt8} (small : entries.length ≤ maxCollectionElements)
    (nested : Returns (readEntries reader entries.length) bytes (entriesOf entries)) :
    Returns (readTagged reader 37 (Decimal.text entries.length)) bytes (Frame.map entries).value := by
  intro rest remaining covers limited
  have taken := nested rest remaining covers limited
  have read : readTagged reader 37 (Decimal.text entries.length) = readMap reader 37 (Decimal.text entries.length) := rfl
  rw [read, readMap, parseLength_text (small.trans (by decide))]
  simp only [bind, Except.bind, if_neg (Int.not_lt.mpr (Int.natCast_nonneg _)), Int.toNat_natCast,
    if_neg (Nat.not_lt.mpr small), taken]
  rfl

/-- Attributes are read and dropped; the value behind them is returned. -/
theorem attributed_returns {reader : Input → Except AppError (RespValue × Input)} {attributes : List (Frame × Frame)}
    {bytes body : List UInt8} {value : RespValue} (small : attributes.length ≤ maxCollectionElements)
    (nested : Returns (readEntries reader attributes.length) bytes (entriesOf attributes))
    (described : Returns reader body value) :
    Returns (readTagged reader 124 (Decimal.text attributes.length)) (bytes ++ body) value := by
  intro rest remaining covers limited
  rw [List.length_append] at covers
  have first := nested (body ++ rest) remaining (by omega) limited
  have second := described rest (remaining - bytes.length) (by omega) (by omega)
  have read : readTagged reader 124 (Decimal.text attributes.length) = readMap reader 124 (Decimal.text attributes.length) := rfl
  rw [read, readMap, parseLength_text (small.trans (by decide)), List.append_assoc]
  simp only [bind, Except.bind, if_neg (Int.not_lt.mpr (Int.natCast_nonneg _)), Int.toNat_natCast,
    if_neg (Nat.not_lt.mpr small), first]
  rw [if_pos trivial, second, List.length_append, Nat.sub_sub]

theorem noCollection_returns (reader : Input → Except AppError (RespValue × Input)) (tag : CollectionTag) :
    Returns (readTagged reader tag.byte [45, 49]) [] (.array none) := by
  intro rest remaining covers limited
  cases tag <;> rfl

end Pipa.Redis
