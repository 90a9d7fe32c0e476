import Pipa.Library.SqlWriting
import Pipa.Text

/-! What the quoting functions write, unit by unit. -/

namespace Pipa
open SqlLexer SqlWriting

/-- The characters of a string are its units. -/
theorem units_injective : Function.Injective units := by
  intro first second same
  refine String.toList_inj.mp (List.map_injective_iff.mpr (fun a b => Char.toNat_inj.mp) same)

theorem units_join (separator : String) (texts : List String) :
    units (separator.intercalate texts) = (units separator).intercalate (texts.map units) := by
  induction texts with
  | nil => rfl
  | cons text texts ih =>
    cases texts with
    | nil => simp
    | cons next texts =>
      rw [String.intercalate_cons_cons, units_append, units_append, ih]
      simp

theorem digit_units {c : Char} (digit : c.isDigit = true) : isDigit c.toNat = true := by
  simpa [Char.isDigit, isDigit, UInt32.le_iff_toNat_le] using digit

private theorem replaced_units (old : Char) (text : List Char) :
    (text.flatMap fun c => if c = old then [old, old] else [c]).map Char.toNat =
      doubled false old.toNat (text.map Char.toNat) := by
  induction text with
  | nil => rfl
  | cons c text ih =>
    rw [List.flatMap_cons, List.map_append, ih]
    by_cases same : c = old <;> simp [doubled, same, Char.toNat_inj]

/-- A quoted identifier is written as a column. -/
theorem quoteIdentifier_units (identifier : String) :
    units (quoteIdentifier identifier) = columnText (units identifier) := by
  have inside : units (Text.replace '\x60' "\x60\x60" identifier) = doubled false 96 (units identifier) := by
    rw [Text.replace, units, String.toList_ofList]
    exact replaced_units '\x60' identifier.toList
  rw [quoteIdentifier, units_append, units_append, inside]
  rfl

private theorem replaced_twice (text : List Char) :
    ((text.flatMap fun c => if c = '\\' then ['\\', '\\'] else [c]).flatMap
        fun c => if c = '\'' then ['\'', '\''] else [c]).map Char.toNat =
      doubled true 39 (text.map Char.toNat) := by
  induction text with
  | nil => rfl
  | cons c text ih =>
    rw [List.flatMap_cons, List.flatMap_append, List.map_append, ih]
    have code (d : Char) : (c.toNat = d.toNat) = (c = d) := propext Char.toNat_inj
    have quote := code '\''
    have backslash := code '\\'
    simp only [Char.reduceToNat] at quote backslash
    by_cases escapes : c = '\\'
    · subst c
      simp [doubled]
    · by_cases quotes : c = '\''
      · subst c
        simp [doubled]
      · simp [doubled, escapes, quotes, quote, backslash]

/-- A MySQL string literal is written as a string. -/
theorem mysqlStringLiteral_units (value : String) : units (mysqlStringLiteral value) = stringText (units value) := by
  have inside : units (Text.replace '\'' "\'\'" (Text.replace '\\' "\\\\" value)) = doubled true 39 (units value) := by
    simp only [Text.replace, units, String.toList_ofList]
    exact replaced_twice value.toList
  rw [mysqlStringLiteral, units_append, units_append, inside]
  rfl

/-- A name that was quoted, and what stands behind it. -/
def readName : List Nat → Option (List Nat × List Nat)
  | [] => none
  | quote :: rest =>
    if quote = 96 then (closeQuote false quote rest).map fun (body, after) => (SqlBoolean.quotedName (quote :: body), after)
    else none

/-- A quoted name is read back before anything but another quote. -/
theorem readName_quoted (name : String) {rest : List Nat} (apart : rest.head? ≠ some 96) :
    readName (units (quoteIdentifier name) ++ rest) = some (units name, rest) := by
  have closed := @closeQuote_doubled false false 96 (fun same => same) (by decide) (units name) rest apart
  rw [quoteIdentifier_units, columnText, List.cons_append, readName, if_pos rfl, List.append_assoc, List.singleton_append,
    closed, Option.map_some]
  exact congrArg (fun content => some (content, rest)) (quotedName_text (units name))

end Pipa
