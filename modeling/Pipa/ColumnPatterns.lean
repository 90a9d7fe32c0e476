import Pipa.Library.Regex
import Pipa.Text

/-! The patterns of column definitions. The structure editor and its backend write the
same ones; the languages differ in the characters their classes hold. -/

namespace Pipa

/-- What `\s`, `\d` and the words of `\b` hold. -/
structure PatternClasses where
  space : Char → Bool
  digit : Char → Bool
  word : Char → Bool

namespace ColumnPatterns
open Regex

/-- Simple case folding of an ASCII character of a pattern: the long s and the Kelvin
sign fold to letters too. -/
def folds (c other : Char) : Bool :=
  c.toLower == other.toLower || (c.toLower == 's' && other == '\u017F') || (c.toLower == 'k' && other == '\u212A')

/-- A text in any case. -/
def anyCase (text : String) : Regex := spelled folds text

/-- A text in its own case. -/
def exactly (text : String) : Regex := spelled (· == ·) text

def isAsciiWord (c : Char) : Bool := c.isAlphanum || c == '_'

/-- `[A-Za-z0-9_]` in any case. -/
def isFoldedWord (c : Char) : Bool := isAsciiWord c || c == '\u017F' || c == '\u212A'

theorem foldedWord_iff (c : Char) : isFoldedWord c = true ↔ (65 ≤ c.toNat ∧ c.toNat ≤ 90) ∨ (97 ≤ c.toNat ∧ c.toNat ≤ 122) ∨
    (48 ≤ c.toNat ∧ c.toNat ≤ 57) ∨ c.toNat = 95 ∨ c.toNat = 383 ∨ c.toNat = 8490 := by
  have code (d : Char) : c = d ↔ c.toNat = d.toNat := Char.toNat_inj.symm
  have shape : isFoldedWord c = (decide (c.val ≥ 'A'.val ∧ c.val ≤ 'Z'.val) || (c.val ≥ 'a'.val && c.val ≤ 'z'.val) ||
      (c.val ≥ '0'.val && c.val ≤ '9'.val) || c == '_' || c == '\u017F' || c == '\u212A') := rfl
  rw [shape]
  simp only [Bool.or_eq_true, Bool.and_eq_true, decide_eq_true_eq, beq_iff_eq, UInt32.le_iff_toNat_le, ge_iff_le, code]
  simp [or_assoc]

theorem toLower_toNat (c : Char) : c.toLower.toNat = if 65 ≤ c.toNat ∧ c.toNat ≤ 90 then c.toNat + 32 else c.toNat := by
  have bounds : (c.val ≥ 'A'.val ∧ c.val ≤ 'Z'.val) ↔ 65 ≤ c.toNat ∧ c.toNat ≤ 90 := by
    simp [UInt32.le_iff_toNat_le]
  by_cases upper : c.val ≥ 'A'.val ∧ c.val ≤ 'Z'.val
  · obtain ⟨valid, lowered⟩ : ∃ valid, c.toLower = ⟨c.val + ('a'.val - 'A'.val), valid⟩ := ⟨_, dif_pos upper⟩
    have small := bounds.mp upper
    rw [lowered, if_pos small]
    change (c.val + ('a'.val - 'A'.val)).toNat = c.val.toNat + 32
    rw [UInt32.toNat_add]
    simp
    omega
  · have kept : c.toLower = c := dif_neg upper
    rw [kept, if_neg (mt bounds.mpr upper)]

theorem toUpper_toNat (c : Char) : c.toUpper.toNat = if 97 ≤ c.toNat ∧ c.toNat ≤ 122 then c.toNat - 32 else c.toNat := by
  have bounds : ('a'.val ≤ c.val ∧ c.val ≤ 'z'.val) ↔ 97 ≤ c.toNat ∧ c.toNat ≤ 122 := by
    simp [UInt32.le_iff_toNat_le]
  by_cases lower : 'a'.val ≤ c.val ∧ c.val ≤ 'z'.val
  · obtain ⟨valid, raised⟩ : ∃ valid, c.toUpper = ⟨c.val + ('A'.val - 'a'.val), valid⟩ := ⟨_, dif_pos lower⟩
    have small := bounds.mp lower
    rw [raised, if_pos small]
    change (c.val + ('A'.val - 'a'.val)).toNat = c.val.toNat - 32
    rw [UInt32.toNat_add]
    simp
    omega
  · have kept : c.toUpper = c := dif_neg lower
    rw [kept, if_neg (mt bounds.mpr lower)]

def typeNames : List String :=
  ["tinyint", "smallint", "mediumint", "int", "integer", "bigint", "decimal", "numeric", "float", "double", "real",
    "bit", "boolean", "bool", "date", "time", "datetime", "timestamp", "year", "char", "varchar", "binary", "varbinary",
    "tinyblob", "blob", "mediumblob", "longblob", "tinytext", "text", "mediumtext", "longtext", "json", "geometry", "point",
    "linestring", "polygon", "multipoint", "multilinestring", "multipolygon", "geometrycollection"]

def characterTypeNames : List String := ["char", "varchar", "tinytext", "text", "mediumtext", "longtext", "enum", "set"]

def spatialTypeNames : List String :=
  ["geometry", "point", "linestring", "polygon", "multipoint", "multilinestring", "multipolygon", "geometrycollection"]

def binaryDefaultTypeNames : List String := ["bit", "binary", "varbinary"]

def numericTypeNames : List String :=
  ["tinyint", "smallint", "mediumint", "int", "integer", "bigint", "decimal", "numeric", "float", "double", "real", "bit"]

def temporalDefaultTypeNames : List String := ["date", "datetime", "timestamp"]

section Classes
variable (classes : PatternClasses)

def spaces : Regex := star (char classes.space)

def digits : Regex := plus (char classes.digit)

def symbol (c : Char) : Regex := char (· == c)

/-- `(?:\s*\(\s*\d+(?:\s*,\s*\d+)?\s*\))?` -/
def lengthArguments : Regex :=
  optional (all [spaces classes, symbol '(', spaces classes, digits classes,
    optional (all [spaces classes, symbol ',', spaces classes, digits classes]), spaces classes, symbol ')'])

/-- `(?:\s+name)?` in any case. -/
def modifier (name : String) : Regex := optional (seq (plus (char classes.space)) (anyCase name))

def columnType : Regex :=
  all [any (typeNames.map anyCase), lengthArguments classes, modifier classes "unsigned", modifier classes "zerofill"]

/-- The closed allowlist of type declarations. -/
def safeColumnType : Regex := seq start (seq (columnType classes) finish)

/-- `^(?:names)\b`, the names written by `text`. -/
def typePrefix (text : String → Regex) (names : List String) : Regex :=
  seq start (seq (any (names.map text)) (boundary classes.word))

/-- `(?:\(\d*\))?` -/
def precision : Regex := optional (all [symbol '(', star (char classes.digit), symbol ')'])

def currentTimestampToken : Regex := seq (anyCase "CURRENT_TIMESTAMP") (precision classes)

def currentTimestamp : Regex := seq start (seq (currentTimestampToken classes) finish)

/-- `[+-]?(?:\d+(?:\.\d*)?|\.\d+)` -/
def number : Regex :=
  seq (optional (char fun c => c == '+' || c == '-'))
    (alt (seq (digits classes) (optional (seq (symbol '.') (star (char classes.digit)))))
      (seq (symbol '.') (digits classes)))

def numericLiteral : Regex := seq start (seq (number classes) finish)

/-- `\btext\b` in any case. -/
def wholeWord (text : String) : Regex := all [boundary classes.word, anyCase text, boundary classes.word]

def defaultGenerated : Regex := wholeWord classes "DEFAULT_GENERATED"

def autoIncrement : Regex := wholeWord classes "AUTO_INCREMENT"

def generatedStorage : Regex :=
  all [boundary classes.word, any [anyCase "VIRTUAL", anyCase "STORED"], anyCase " GENERATED", boundary classes.word]

def storedGenerated : Regex := wholeWord classes "STORED GENERATED"

def invisible : Regex := wholeWord classes "INVISIBLE"

/-- `\bon update ` in front of a current timestamp. -/
def onUpdatePrefix : Regex := seq (boundary classes.word) (anyCase "on update ")

def onUpdate : Regex := seq (onUpdatePrefix classes) (currentTimestampToken classes)

end Classes

/-- `^(?:names)` in any case. -/
def numericType : Regex := seq start (any (numericTypeNames.map anyCase))

/-- Lower case of the characters that a declaration accepted as a type can hold. -/
def toLowercase (text : List Char) : List Char := text.map fun c => if c = '\u212A' then 'k' else c.toLower

/-- Upper case of the characters that a current-timestamp token can hold. -/
def toUppercase (text : List Char) : List Char := text.map fun c => if c = '\u017F' then 'S' else c.toUpper

end ColumnPatterns

end Pipa
