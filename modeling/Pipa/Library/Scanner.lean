import Mathlib.Data.List.TakeDrop

/-! Scanning a text lexeme by lexeme. What reads a lexeme takes at least the unit it
starts with, so the length of the text bounds the number of lexemes. -/

namespace Scanner

variable {α : Type}

/-- Reads the lexeme that starts with a unit, and leaves what follows it. -/
abbrev Reader (α : Type) := Nat → List Nat → Option (α × List Nat)

/-- Lexemes up to the end of the text, or nothing where a lexeme cannot be read. -/
def scanFuel (reader : Reader α) : Nat → List Nat → Option (List α)
  | _, [] => some []
  | 0, _ :: _ => none
  | fuel + 1, unit :: rest => do
    let (lexeme, after) ← reader unit rest
    let lexemes ← scanFuel reader fuel after
    return lexeme :: lexemes

def scan (reader : Reader α) (text : List Nat) : Option (List α) := scanFuel reader text.length text

/-- A reader leaves no more than it was given behind the first unit. -/
def Advances (reader : Reader α) : Prop :=
  ∀ unit rest lexeme after, reader unit rest = some (lexeme, after) → after.length ≤ rest.length

@[simp]
theorem scan_nil (reader : Reader α) : scan reader [] = some [] := rfl

/-- Any two amounts of fuel that cover the text read the same lexemes. -/
theorem scanFuel_enough {reader : Reader α} (advances : Advances reader) {first second : Nat} {text : List Nat}
    (enough : text.length ≤ first) (enough' : text.length ≤ second) :
    scanFuel reader first text = scanFuel reader second text := by
  induction first generalizing second text with
  | zero =>
    obtain rfl := List.length_eq_zero_iff.mp (Nat.le_zero.mp enough)
    cases second <;> rfl
  | succ first ih =>
    cases text with
    | nil => cases second <;> rfl
    | cons unit rest =>
      simp only [List.length_cons] at enough enough'
      obtain ⟨second, rfl⟩ : ∃ less, second = less + 1 := ⟨second - 1, by omega⟩
      rw [scanFuel, scanFuel]
      cases read : reader unit rest with
      | none => rfl
      | some found =>
        obtain ⟨lexeme, after⟩ := found
        have shorter := advances unit rest lexeme after read
        have same := @ih second after (by omega) (by omega)
        simp only [Option.bind_eq_bind, Option.bind_some, same]

/-- A text is its first lexeme and the lexemes behind it. -/
theorem scan_cons {reader : Reader α} (advances : Advances reader) (unit : Nat) (rest : List Nat) :
    scan reader (unit :: rest) = (reader unit rest).bind fun (lexeme, after) =>
      (scan reader after).map (lexeme :: ·) := by
  rw [scan, List.length_cons, scanFuel]
  cases read : reader unit rest with
  | none => rfl
  | some found =>
    obtain ⟨lexeme, after⟩ := found
    have same : scanFuel reader rest.length after = scan reader after :=
      scanFuel_enough advances (advances unit rest lexeme after read) (Nat.le_refl _)
    cases later : scan reader after <;> simp [same, later]

theorem scan_of_read {reader : Reader α} (advances : Advances reader) {unit : Nat} {rest after : List Nat} {lexeme : α}
    (read : reader unit rest = some (lexeme, after)) :
    scan reader (unit :: rest) = (scan reader after).map (lexeme :: ·) := by
  rw [scan_cons advances, read]
  rfl

/-- What was scanned began with a lexeme that was read. -/
theorem scan_some {reader : Reader α} (advances : Advances reader) {unit : Nat} {rest : List Nat} {lexemes : List α}
    (scanned : scan reader (unit :: rest) = some lexemes) :
    ∃ lexeme after later, reader unit rest = some (lexeme, after) ∧ scan reader after = some later ∧
      lexemes = lexeme :: later := by
  rw [scan_cons advances] at scanned
  obtain ⟨⟨lexeme, after⟩, read, scanned⟩ := Option.bind_eq_some_iff.mp scanned
  obtain ⟨later, behind, rfl⟩ := Option.map_eq_some_iff.mp scanned
  exact ⟨lexeme, after, later, read, behind, rfl⟩

/-- A reader of parts of the lexemes scans the parts. -/
theorem scan_map {β : Type} {part : α → β} {reader : Reader α} {reader' : Reader β}
    (parts : ∀ unit rest, reader' unit rest = (reader unit rest).map fun found => (part found.1, found.2)) (text : List Nat) :
    scan reader' text = (scan reader text).map (List.map part) := by
  rw [scan, scan]
  generalize text.length = fuel
  induction fuel generalizing text with
  | zero => cases text <;> rfl
  | succ fuel ih =>
    cases text with
    | nil => rfl
    | cons unit rest =>
      rw [scanFuel, scanFuel, parts]
      cases reader unit rest with
      | none => rfl
      | some found =>
        simp only [Option.map_some, Option.bind_eq_bind, Option.bind_some, ih]
        cases scanFuel reader fuel found.2 <;> rfl

end Scanner
