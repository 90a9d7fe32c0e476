import Pipa.Library.SqlValues
import Pipa.Proofs.SqlTextUnits
import Pipa.ResetSql

/-! What a server reads in the literals of reset SQL, whether or not its connection takes
backslashes for escapes. -/

namespace Pipa.ResetSql
open SqlLexer SqlWriting SqlValues

variable (codec : ResetCodec)

/-- The text of a cell that is written as a string. -/
def cellText : BinlogCell → Option String
  | .value (.text value) | .value (.json value) | .value (.dateTime value) => some value
  | _ => none

/-- The bytes of a binary cell. -/
def cellBytes : BinlogCell → Option (List UInt8)
  | .value (.binary value) => codec.decodeBase64 value
  | _ => none

/-- A literal gives back its cell, the text of a string in either mode. -/
structure Denotes (cell : BinlogCell) (literal : String) : Prop where
  text : ∀ text, cellText cell = some text → ∀ escapes, stringValue escapes (units literal) = some (units text)
  bytes : ∀ bytes, cellBytes codec cell = some bytes → hexValue (units literal) = some bytes

theorem hexDigit_units : ∀ digit : Fin 16, SqlValues.hexDigit (hexDigit digit).toNat = some digit.val := by
  decide

theorem hexPairs_hex (bytes : List UInt8) : hexPairs (units (hex bytes) ++ [39]) = some bytes := by
  rw [hex, units, String.toList_ofList]
  induction bytes with
  | nil => rfl
  | cons byte bytes ih =>
    have below := byte.toNat_lt
    have high := hexDigit_units ⟨byte.toNat / 16, by omega⟩
    have low := hexDigit_units ⟨byte.toNat % 16, by omega⟩
    have whole : byte.toNat / 16 * 16 + byte.toNat % 16 = byte.toNat := by omega
    rw [List.flatMap_cons, List.map_append, List.append_assoc, List.map_cons, List.map_cons, List.map_nil,
      List.cons_append, List.cons_append, List.nil_append, hexPairs, ih]
    simp only [high, low, whole, Option.bind_eq_bind, Option.bind_some, UInt8.ofNat_toNat]
    rfl

theorem hexValue_hex (bytes : List UInt8) : hexValue (units s!"X'{hex bytes}'") = some bytes := by
  have written : units s!"X'{hex bytes}'" = 88 :: 39 :: (units (hex bytes) ++ [39]) := by
    simp [units, toString]
  rw [written, hexValue, if_pos (by decide)]
  exact hexPairs_hex bytes

theorem cellLiteral_text {cell : BinlogCell} {text : String} (known : cellText cell = some text) :
    cellLiteral codec cell = .ok (mysqlStringLiteral text) := by
  unfold cellText at known
  split at known
  all_goals first
    | (obtain rfl := Option.some.inj known; rfl)
    | cases known

theorem cellLiteral_bytes {cell : BinlogCell} {bytes : List UInt8} (known : cellBytes codec cell = some bytes) :
    cellLiteral codec cell = .ok s!"X'{hex bytes}'" := by
  unfold cellBytes at known
  split at known
  · rw [cellLiteral, valueLiteral, known]
  · cases known

/-- The literals of a cell give it back in both modes exactly if it has no backslash to
write. -/
theorem cellLiteral_denotes_iff (cell : BinlogCell) :
    (∀ literal, cellLiteral codec cell = .ok literal → Denotes codec cell literal) ↔
      ∀ text, cellText cell = some text → '\\' ∉ text.toList := by
  have backslash (text : String) : 92 ∉ units text ↔ '\\' ∉ text.toList :=
    not_congr (@List.mem_map_of_injective _ _ Char.toNat (fun _ _ => Char.toNat_inj.mp) '\\' text.toList)
  constructor
  · intro denotes text known
    have decoded := (denotes _ (cellLiteral_text codec known)).text text known false
    rw [mysqlStringLiteral_units, stringValue_plain_iff, backslash] at decoded
    exact decoded
  · intro plain literal written
    constructor
    · intro text known escapes
      obtain rfl := Except.ok.inj (written.symm.trans (cellLiteral_text codec known))
      rw [mysqlStringLiteral_units]
      cases escapes with
      | true => exact stringValue_escapes _
      | false => exact (stringValue_plain_iff _).mpr ((backslash text).mpr (plain text known))
    · intro bytes known
      obtain rfl := Except.ok.inj (written.symm.trans (cellLiteral_bytes codec known))
      exact hexValue_hex bytes

/-- Under NO_BACKSLASH_ESCAPES a path comes back with its backslash doubled. -/
theorem path_denotes_another : ¬∀ (codec : ResetCodec) (cell : BinlogCell) (literal : String),
    cellLiteral codec cell = .ok literal → Denotes codec cell literal := by
  intro denotes
  have decoded := (denotes ⟨fun _ => none, fun _ => none, fun _ => ""⟩ (.value (.text "C:\\temp")) "'C:\\\\temp'"
    (by decide)).text "C:\\temp" rfl false
  revert decoded
  decide

end Pipa.ResetSql
