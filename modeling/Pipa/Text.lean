import Mathlib.Data.List.DropRight

/-! String operations of the Rust standard library and of ECMAScript, as the code
uses them. A Rust `char` is a Unicode scalar value, which is what `Char` holds. -/

namespace Pipa.Text

/-- Rust's `char::is_whitespace`: the Unicode `White_Space` property. -/
def isWhitespace (c : Char) : Bool :=
  let code := c.toNat
  (9 ≤ code && code ≤ 13) || code == 0x20 || code == 0x85 || code == 0xA0 || code == 0x1680 ||
    (0x2000 ≤ code && code ≤ 0x200A) || code == 0x2028 || code == 0x2029 || code == 0x202F ||
    code == 0x205F || code == 0x3000

/-- ECMAScript's `WhiteSpace` and `LineTerminator` productions, which `trim` strips. -/
def isJsWhitespace (c : Char) : Bool :=
  (isWhitespace c && c.toNat != 0x85) || c.toNat == 0xFEFF

def trimStartMatches (matched : Char → Bool) (text : String) : String :=
  String.ofList (text.toList.dropWhile matched)

def trimEndMatches (matched : Char → Bool) (text : String) : String :=
  String.ofList (text.toList.rdropWhile matched)

def trimMatches (matched : Char → Bool) (text : String) : String :=
  trimEndMatches matched (trimStartMatches matched text)

/-- Rust's `str::trim`. -/
def trim (text : String) : String := trimMatches isWhitespace text

/-- ECMAScript's `String.prototype.trim`. -/
def jsTrim (text : String) : String := trimMatches isJsWhitespace text

/-- Rust's `str::split_whitespace`: the maximal runs without whitespace. -/
def splitWhitespace (text : String) : List String :=
  ((text.toList.splitOnP isWhitespace).filter (fun run => !run.isEmpty)).map String.ofList

/-- Rust's `str::split` at one character; a text without it is its own only part. -/
def split (separator : Char) (text : String) : List String :=
  (text.toList.splitOn separator).map String.ofList

def toAsciiUppercase (text : String) : String := String.ofList (text.toList.map Char.toUpper)

def eqIgnoreAsciiCase (left right : String) : Bool := toAsciiUppercase left == toAsciiUppercase right

/-- Rust's `str::replace` and ECMAScript's `split(..).join(..)` of one character. -/
def replace (old : Char) (new text : String) : String :=
  String.ofList (text.toList.flatMap fun c => if c = old then new.toList else [c])

/-- Rust's `str::parse::<u64>`: digits behind an optional plus sign. -/
def parseU64 (text : String) : Option Nat :=
  let digits := if text.toList.head? = some '+' then text.toList.tail else text.toList
  if digits = [] ∨ digits.all Char.isDigit = false then none
  else (some (Nat.ofDigitChars 10 digits 0)).filter (· < 18446744073709551616)

/-- The UTF-8 bytes of a text. -/
def utf8 (text : String) : List UInt8 := text.toByteArray.data.toList

/-- Rust's `std::str::from_utf8`. -/
def fromUtf8 (bytes : List UInt8) : Option String := String.fromUTF8? ⟨bytes.toArray⟩

/-- The ranges in which the bytes behind a leading byte must lie. -/
def continuations (lead : UInt8) : Option (List (UInt8 × UInt8)) :=
  if lead < 0x80 then some []
  else if 0xC2 ≤ lead && lead ≤ 0xDF then some [(0x80, 0xBF)]
  else if lead = 0xE0 then some [(0xA0, 0xBF), (0x80, 0xBF)]
  else if lead = 0xED then some [(0x80, 0x9F), (0x80, 0xBF)]
  else if 0xE1 ≤ lead && lead ≤ 0xEF then some [(0x80, 0xBF), (0x80, 0xBF)]
  else if lead = 0xF0 then some [(0x90, 0xBF), (0x80, 0xBF), (0x80, 0xBF)]
  else if 0xF1 ≤ lead && lead ≤ 0xF3 then some [(0x80, 0xBF), (0x80, 0xBF), (0x80, 0xBF)]
  else if lead = 0xF4 then some [(0x80, 0x8F), (0x80, 0xBF), (0x80, 0xBF)]
  else none

/-- How many of the bytes lie in their ranges, up to the first that does not. -/
def continued : List (UInt8 × UInt8) → List UInt8 → Nat
  | (low, high) :: ranges, byte :: bytes => if low ≤ byte && byte ≤ high then continued ranges bytes + 1 else 0
  | _, _ => 0

def scalar (lead : UInt8) (rest : List UInt8) : Char :=
  let initial := if lead < 0x80 then lead.toNat else if lead < 0xE0 then lead.toNat % 32
    else if lead < 0xF0 then lead.toNat % 16 else lead.toNat % 8
  Char.ofNat (rest.foldl (fun code byte => 64 * code + byte.toNat % 64) initial)

/-- Rust's `String::from_utf8_lossy`: every longest start of a character that goes on
wrongly, and every byte that starts none, becomes U+FFFD. -/
def lossyChars : Nat → List UInt8 → List Char
  | 0, _ | _, [] => []
  | fuel + 1, lead :: rest =>
    match continuations lead with
    | none => '\uFFFD' :: lossyChars fuel rest
    | some ranges =>
      let taken := continued ranges rest
      (if taken = ranges.length then scalar lead (rest.take taken) else '\uFFFD') :: lossyChars fuel (rest.drop taken)

def fromUtf8Lossy (bytes : List UInt8) : String := String.ofList (lossyChars bytes.length bytes)

/-- A number in decimal, with zeros in front up to the width. -/
def zeroPadded (width number : Nat) : String :=
  let digits := Nat.toDigits 10 number
  String.ofList (List.replicate (width - digits.length) '0' ++ digits)

theorem trimMatches_of_none {matched : Char → Bool} {text : String} (none : ∀ c ∈ text.toList, matched c = false) :
    trimMatches matched text = text := by
  have front : text.toList.dropWhile matched = text.toList := by
    cases characters : text.toList with
    | nil => rfl
    | cons c rest => rw [List.dropWhile_cons, none c (by simp [characters])]; rfl
  have back : text.toList.rdropWhile matched = text.toList :=
    List.rdropWhile_eq_self_iff.mpr fun nonempty => by simp [none _ (List.getLast_mem nonempty)]
  rw [trimMatches, trimStartMatches, front, trimEndMatches, String.toList_ofList, back, String.ofList_toList]

section Trim
variable {matched : Char → Bool} {text : String}

theorem trimMatches_toList : (trimMatches matched text).toList = (text.toList.dropWhile matched).rdropWhile matched := by
  rw [trimMatches, trimEndMatches, trimStartMatches, String.toList_ofList, String.toList_ofList]

theorem mem_trimMatches {c : Char} (member : c ∈ (trimMatches matched text).toList) : c ∈ text.toList := by
  rw [trimMatches_toList] at member
  exact (List.dropWhile_sublist matched).mem ((List.rdropWhile_prefix matched _).mem member)

theorem trimMatches_solid (nonempty : trimMatches matched text ≠ "") : ∃ c ∈ (trimMatches matched text).toList, matched c = false := by
  have some_left : (text.toList.dropWhile matched).rdropWhile matched ≠ [] := by
    rw [← trimMatches_toList]
    exact fun empty => nonempty (String.toList_eq_nil_iff.mp empty)
  refine ⟨_, ?_, Bool.eq_false_iff.mpr (List.rdropWhile_last_not matched _ some_left)⟩
  rw [trimMatches_toList]
  exact List.getLast_mem some_left

theorem trimMatches_empty_iff : trimMatches matched text = "" ↔ ∀ c ∈ text.toList, matched c = true := by
  rw [← String.toList_eq_nil_iff, trimMatches_toList, List.rdropWhile_eq_nil_iff]
  constructor
  · intro all
    have nothing : text.toList.dropWhile matched = [] := by
      refine Classical.byContradiction fun left => ?_
      exact Bool.false_ne_true ((List.head_dropWhile_not matched left).symm.trans (all _ (List.head_mem left)))
    exact List.dropWhile_eq_nil_iff.mp nothing
  · intro all c member
    exact all c ((List.dropWhile_sublist matched).mem member)

theorem trimMatches_congr {other : Char → Bool} (same : ∀ c ∈ text.toList, matched c = other c) :
    trimMatches matched text = trimMatches other text := by
  have front {characters : List Char} (same : ∀ c ∈ characters, matched c = other c) :
      characters.dropWhile matched = characters.dropWhile other := by
    induction characters with
    | nil => rfl
    | cons c characters ih =>
      obtain ⟨here, later⟩ := List.forall_mem_cons.mp same
      rw [List.dropWhile_cons, List.dropWhile_cons, here, ih later]
  rw [← String.toList_inj, trimMatches_toList, trimMatches_toList, front same, List.rdropWhile, List.rdropWhile, front]
  intro c member
  exact same c ((List.dropWhile_sublist other).mem (List.mem_reverse.mp member))

end Trim

theorem split_intercalate {separator : Char} {texts : List String} (nonempty : texts ≠ [])
    (free : ∀ text ∈ texts, separator ∉ text.toList) :
    split separator ((String.singleton separator).intercalate texts) = texts := by
  rw [split, String.toList_intercalate, String.toList_singleton, List.splitOn_intercalate separator ?_ (by simpa using nonempty),
    List.map_map]
  · exact List.map_id'' (fun text => String.ofList_toList) texts
  · intro characters inside
    obtain ⟨text, listed, rfl⟩ := List.mem_map.mp inside
    exact free text listed

theorem fromUtf8_utf8 (text : String) : fromUtf8 (utf8 text) = some text := by
  have whole : (⟨(utf8 text).toArray⟩ : ByteArray) = text.toByteArray := by
    rw [utf8, Array.toArray_toList]
  rw [fromUtf8, whole, String.fromUTF8?, dif_pos text.isValidUTF8]
  rfl

theorem toList_toString (number : Nat) : (toString number).toList = Nat.toDigits 10 number := by
  simp [ToString.toString, Nat.repr]

theorem toDigits_isDigit {number : Nat} : ∀ c ∈ Nat.toDigits 10 number, c.isDigit = true :=
  fun _ member => Nat.isDigit_of_mem_toDigits (by decide) (by decide) member

theorem parseU64_toString {number : Nat} (small : number < 18446744073709551616) :
    parseU64 (toString number) = some number := by
  have unsigned : (Nat.toDigits 10 number).head? ≠ some '+' := by
    intro plus
    exact absurd (toDigits_isDigit '+' (List.mem_of_head? plus)) (by decide)
  rw [parseU64, toList_toString, if_neg unsigned, if_neg, Nat.ofDigitChars_ten_toDigits]
  · simp [small]
  · simp [Nat.toDigits_ne_nil]
    exact toDigits_isDigit

theorem utf8_ofList (characters : List Char) : utf8 (String.ofList characters) = characters.flatMap String.utf8EncodeChar := by
  simp [utf8, List.utf8Encode]

end Pipa.Text

namespace Pipa

/-! Quoting shared by the SQL writers of the core crate. -/

/-- Quotes one identifier for MySQL. -/
def quoteIdentifier (identifier : String) : String :=
  "\x60" ++ Text.replace '\x60' "\x60\x60" identifier ++ "\x60"

/-- Encodes untrusted text as a MySQL string literal: backslashes and single
quotes are doubled. -/
def mysqlStringLiteral (value : String) : String :=
  "'" ++ Text.replace '\'' "''" (Text.replace '\\' "\\\\" value) ++ "'"

end Pipa

namespace Pipa.EditorText

/-! ECMAScript's operations on strings, which are lists of UTF-16 units. -/

/-- What `\s` matches and `trim` strips. -/
def isWhitespace (unit : Nat) : Bool :=
  (9 ≤ unit && unit ≤ 13) || unit == 32 || unit == 0xA0 || unit == 0x1680 || (0x2000 ≤ unit && unit ≤ 0x200A) ||
    unit == 0x2028 || unit == 0x2029 || unit == 0x202F || unit == 0x205F || unit == 0x3000 || unit == 0xFEFF

def trim (text : List Nat) : List Nat := (text.dropWhile isWhitespace).rdropWhile isWhitespace

def slice (text : List Nat) (start stop : Nat) : List Nat := (text.drop start).take (stop - start)

end Pipa.EditorText
