import Mathlib.Data.Int.Log
import Mathlib.Data.Rat.Floor

/-! Texts as ECMAScript reads them as numbers: decimal literals with an exponent, integers
in other bases, and the nearest double of what they stand for. -/

namespace JsNumber

/-- The nearest integer, and of two the even one. -/
def nearestEven (number : ℚ) : Int :=
  if number - ⌊number⌋ < 1 / 2 ∨ number - ⌊number⌋ = 1 / 2 ∧ ⌊number⌋ % 2 = 0 then ⌊number⌋ else ⌊number⌋ + 1

/-- The distance of neighboring doubles around a number. -/
def spacing (number : ℚ) : ℚ := 2 ^ max (Int.log 2 |number| - 52) (-1074)

/-- The nearest double, unless it is infinite. -/
def double (number : ℚ) : Option ℚ :=
  let rounded := nearestEven (number / spacing number) * spacing number
  if |rounded| < 2 ^ 1024 then some rounded else none

/-- The number that the bits of a finite double stand for. -/
def ofBits (bits : UInt64) : ℚ :=
  let field := ((bits >>> 52) &&& 0x7FF).toNat
  let mantissa := (bits &&& 0xFFFFFFFFFFFFF).toNat + (if field = 0 then 0 else 2 ^ 52)
  (if bits >>> 63 = 1 then -1 else 1) * mantissa * 2 ^ ((max field 1 : Int) - 1075)

def digitValue (c : Char) : Option Nat :=
  if c.isDigit then some (c.toNat - 48)
  else if 'a' ≤ c ∧ c ≤ 'z' then some (c.toNat - 87)
  else if 'A' ≤ c ∧ c ≤ 'Z' then some (c.toNat - 55)
  else none

/-- A nonempty run of digits. -/
def natural (base : Nat) (text : List Char) : Option Nat :=
  if text = [] then none
  else text.foldlM (fun number c => ((digitValue c).filter (· < base)).map (base * number + ·)) 0

def exponent : List Char → Option Int
  | [] => some 0
  | mark :: digits =>
    if mark ≠ 'e' ∧ mark ≠ 'E' then none
    else
      match digits with
      | '-' :: digits => (natural 10 digits).map fun number => -Int.ofNat number
      | '+' :: digits => (natural 10 digits).map Int.ofNat
      | digits => (natural 10 digits).map Int.ofNat

/-- A decimal literal without a sign. -/
def decimal (text : List Char) : Option ℚ :=
  let whole := text.takeWhile Char.isDigit
  let behind := text.dropWhile Char.isDigit
  let fraction := if behind.head? = some '.' then behind.tail.takeWhile Char.isDigit else []
  let behind := if behind.head? = some '.' then behind.tail.dropWhile Char.isDigit else behind
  (natural 10 (whole ++ fraction)).bind fun mantissa =>
    (exponent behind).map fun power => (mantissa : ℚ) * (10 : ℚ) ^ (power - (fraction.length : Int))

def radix : Char → Option Nat
  | 'x' | 'X' => some 16
  | 'o' | 'O' => some 8
  | 'b' | 'B' => some 2
  | _ => none

/-- What a text without blanks around it stands for. -/
def meant : List Char → Option ℚ
  | [] => some 0
  | '-' :: text => (decimal text).map fun number => -number
  | '+' :: text => decimal text
  | '0' :: mark :: text =>
    match radix mark with
    | some base => (natural base text).map fun number => (number : ℚ)
    | none => decimal ('0' :: mark :: text)
  | text => decimal text

/-- The finite number that a text is read as. -/
def number (text : List Char) : Option ℚ := (meant text).bind double

end JsNumber
