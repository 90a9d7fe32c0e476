import Pipa.TableEdits
import Mathlib.Data.Rat.Defs

/-! Typed values on their way into a statement: the adapter reads each by the rules of its
kind and binds what it has read. -/

namespace Pipa.MutationBinding
open Text TableMutations TableEdits

/-- Rust's `str::parse::<i64>`: digits behind an optional sign. -/
def parseI64 (text : String) : Option Int :=
  match text.toList with
  | '-' :: digits =>
    if digits = [] ∨ digits.all Char.isDigit = false then none
    else (some (-Int.ofNat (Nat.ofDigitChars 10 digits 0))).filter (-9223372036854775808 ≤ ·)
  | _ => ((parseU64 text).map Int.ofNat).filter (· ≤ 9223372036854775807)

/-- The number that digits stand for, with an optional sign and an optional point. -/
def readDecimal (text : String) : Option Rat :=
  let unsigned := TableFilter.stripSign text.toList
  let whole := unsigned.takeWhile (· != '.')
  let fraction := (unsigned.dropWhile (· != '.')).tail
  let digits := whole ++ fraction
  if digits = [] ∨ digits.all Char.isDigit = false then none
  else
    let magnitude := mkRat (Nat.ofDigitChars 10 digits 0) (Nat.pow 10 fraction.length)
    some (if text.toList.head? = some '-' then -magnitude else magnitude)

/-- The numbers and the strings of a document. -/
def numbers (tokens : List JsonText.Token) : List (List Nat) :=
  tokens.filterMap fun token => match token with | .number text => some text | _ => none

def strings (tokens : List JsonText.Token) : List (List Nat) :=
  tokens.filterMap fun token => match token with | .string units => some units | _ => none

/-- The readers of other packages, each with what is documented of it: BigDecimal reads plain
decimals, the standard engine decodes what it would encode, and serde_json reads documents of
numbers in its range and of whole characters, not nested deeper than it allows. -/
structure Readers where
  bigDecimal : String → Option Rat
  base64 : String → Option (List UInt8)
  json : String → Bool
  inRange : List Nat → Bool
  bigDecimal_reads : ∀ text value, readDecimal text = some value → bigDecimal text = some value
  base64_standard : ∀ text bytes, base64 text = some bytes ↔ Base64.encode bytes = text.toList
  json_documents : ∀ text tokens, JsonText.tokens (SqlLexer.units text) = some tokens → JsonText.Value tokens →
    (∀ number ∈ numbers tokens, inRange number = true) → (∀ units ∈ strings tokens, JsonText.paired units = true) →
    JsonText.deepest 0 tokens ≤ 127 → json text = true
  json_numbers : ∀ text tokens, JsonText.tokens (SqlLexer.units text) = some tokens → json text = true →
    ∀ number ∈ numbers tokens, inRange number = true
  json_strings : ∀ text tokens, JsonText.tokens (SqlLexer.units text) = some tokens → json text = true →
    ∀ units ∈ strings tokens, JsonText.paired units = true
  json_nesting : ∀ text tokens, JsonText.tokens (SqlLexer.units text) = some tokens → json text = true →
    JsonText.deepest 0 tokens ≤ 127

/-- A bound parameter. -/
inductive Bound (Double : Type) where
  | null
  | boolean (value : Bool)
  | signed (value : Int)
  | unsigned (value : Nat)
  | float (value : Double)
  | decimal (value : Rat)
  | text (value : String)
  | bytes (value : List UInt8)
deriving DecidableEq

def validationError (message : String) : AppError :=
  { code := .validation, message, technicalDetails := none, retryable := false }

def invalidValue (kind : String) : MutationExecutionError :=
  .application (validationError ("A staged " ++ kind ++ " value is invalid"))

def orInvalid {α : Type} (kind : String) (read : Option α) : Except MutationExecutionError α :=
  match read with
  | some value => .ok value
  | none => .error (invalidValue kind)

section Binding
variable (doubles : Doubles) (readers : Readers)

/-- Adds one validated value as a bind parameter. -/
def pushValue : TableMutationValue → Except MutationExecutionError (Bound doubles.Double)
  | .null => .ok .null
  | .boolean value => .ok (.boolean value)
  | .integer value =>
    let value := trim value
    if value.toList.head? = some '-' then (orInvalid "integer" (parseI64 value)).map .signed
    else (orInvalid "integer" (parseU64 value)).map .unsigned
  | .float value => do
    let value := trim value
    let parsed ← orInvalid "floating-point" (doubles.parse value)
    if doubles.isFinite parsed = false ∨ doubles.isZero parsed = true ∧ hasNonZeroMantissa value = true then
      .error (invalidValue "floating-point")
    else .ok (.float parsed)
  | .decimal value => (orInvalid "decimal" (readers.bigDecimal (trim value))).map .decimal
  | .text value | .dateTime value => .ok (.text value)
  | .json value => if readers.json value then .ok (.text value) else .error (invalidValue "JSON")
  | .binary value => (orInvalid "base64 binary" (readers.base64 (trim value))).map .bytes

end Binding

end Pipa.MutationBinding
