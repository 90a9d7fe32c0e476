import Pipa.Library.SqlPhrases
import Pipa.Proofs.SqlTextUnits
import Pipa.TableDdl

/-! The pieces of a column definition as they are read: a type, a token and a number were
matched before they are written, and everything else of a draft is quoted. -/

namespace Pipa.TableDdl
open SqlLexer SqlWriting Text ColumnPatterns Regex

/-! ### What the patterns let pass -/

/-- Blanks and what identifiers are made of. -/
def Plain (c : Char) : Prop := isSpace c.toNat = true ∨ isIdentifier c.toNat = true

theorem plain_iff (c : Char) : Plain c ↔ c.toNat = 32 ∨ (9 ≤ c.toNat ∧ c.toNat ≤ 13) ∨
    (65 ≤ c.toNat ∧ c.toNat ≤ 90) ∨ (97 ≤ c.toNat ∧ c.toNat ≤ 122) ∨ (48 ≤ c.toNat ∧ c.toNat ≤ 57) ∨ c.toNat = 95 ∨
    c.toNat = 36 ∨ 128 ≤ c.toNat := by
  simp only [Plain, isSpace, isIdentifier, isLetter, isDigit, Bool.or_eq_true, Bool.and_eq_true, decide_eq_true_eq,
    beq_iff_eq, or_assoc]

theorem plain_toLower {c : Char} : Plain c.toLower ↔ Plain c := by
  rw [plain_iff, plain_iff, toLower_toNat]
  split <;> omega

theorem plain_folds {c other : Char} (plain : Plain c) (folded : folds c other = true) : Plain other := by
  simp only [folds, Bool.or_eq_true, Bool.and_eq_true, beq_iff_eq] at folded
  rcases folded with (same | ⟨-, rfl⟩) | ⟨-, rfl⟩
  · rw [← plain_toLower, ← same, plain_toLower]
    exact plain
  · exact Or.inr rfl
  · exact Or.inr rfl

theorem plain_space {c : Char} (space : isWhitespace c = true) : Plain c := by
  rw [plain_iff]
  simp only [isWhitespace, Bool.or_eq_true, Bool.and_eq_true, decide_eq_true_eq, beq_iff_eq] at space
  omega

theorem plain_digit (tables : RegexTables) {c : Char} (digit : tables.digit c = true) : Plain c := by
  by_cases ascii : c.toNat < 128
  · rw [tables.digit_ascii c ascii] at digit
    rw [plain_iff]
    have bounds : 48 ≤ c.toNat ∧ c.toNat ≤ 57 := by
      simpa [Char.isDigit, UInt32.le_iff_toNat_le] using digit
    omega
  · rw [plain_iff]
    omega

/-- Text without quotes, comments and signs, whose marks are these. -/
structure Framed (word : List Char) (shape : List Nat) : Prop where
  tame : ∀ c ∈ word, isTame c.toNat = true
  marks : (word.map Char.toNat).filter isMark = shape

theorem framed_unmarked {word : List Char} (plain : ∀ c ∈ word, Plain c ∨ c = '.') : Framed word [] := by
  constructor
  · intro c member
    rcases plain c member with (space | identifier) | rfl
    · simp [isTame, space]
    · simp [isTame, identifier]
    · rfl
  · refine List.filter_eq_nil_iff.mpr fun unit member => ?_
    obtain ⟨c, inside, rfl⟩ := List.mem_map.mp member
    rcases plain c inside with plain | rfl
    · have kind := (plain_iff c).mp plain
      simp only [isMark, Bool.or_eq_true, beq_iff_eq]
      omega
    · decide

theorem framed_plain {word : List Char} (plain : ∀ c ∈ word, Plain c) : Framed word [] :=
  framed_unmarked fun c member => Or.inl (plain c member)

theorem Framed.append {former latter : List Char} {shape shape' : List Nat} (framed : Framed former shape)
    (framed' : Framed latter shape') : Framed (former ++ latter) (shape ++ shape') := by
  constructor
  · intro c member
    exact (List.mem_append.mp member).elim (framed.tame c) (framed'.tame c)
  · rw [List.map_append, List.filter_append, framed.marks, framed'.marks]

theorem framed_char {c : Char} (tame : isTame c.toNat = true) : Framed [c] ([c.toNat].filter isMark) :=
  ⟨fun _ member => List.mem_singleton.mp member ▸ tame, rfl⟩

theorem Framed.toUppercase {word : List Char} {shape : List Nat} (framed : Framed word shape) :
    Framed (toUppercase word) shape := by
  obtain ⟨tame, rfl⟩ := framed
  have unit (c : Char) (inside : isTame c.toNat = true) :
      Framed [if c = '\u017F' then 'S' else c.toUpper] ([c.toNat].filter isMark) := by
    by_cases long : c = '\u017F'
    · subst c
      exact framed_char rfl
    rw [if_neg long]
    have upper := toUpper_toNat c
    by_cases lower : 97 ≤ c.toNat ∧ c.toNat ≤ 122
    · rw [if_pos lower] at upper
      have letter : Plain c.toUpper := (plain_iff _).mpr (by omega)
      have unmarked : [c.toNat].filter isMark = [] :=
        (@framed_plain [c] fun _ member => List.mem_singleton.mp member ▸ (plain_iff c).mpr (by omega)).marks
      rw [unmarked]
      exact framed_plain fun _ member => List.mem_singleton.mp member ▸ letter
    · rw [if_neg lower] at upper
      rw [Char.toNat_inj.mp upper]
      exact framed_char inside
  induction word with
  | nil => exact framed_plain (by simp [ColumnPatterns.toUppercase])
  | cons c word ih =>
    obtain ⟨first, others⟩ := List.forall_mem_cons.mp tame
    have split : ((c :: word).map Char.toNat).filter isMark =
        [c.toNat].filter isMark ++ (word.map Char.toNat).filter isMark := by
      rw [List.map_cons, ← List.singleton_append, List.filter_append]
    rw [split]
    exact (unit c first).append (ih others)

section Words
variable {tables : RegexTables}

theorem framed_anyCase {text : String} (plain : ∀ c ∈ text.toList, Plain c) {word : List Char}
    (spells : Spells (anyCase text) word) : Framed word [] :=
  framed_plain (spells.within (within_spelled fun c listed _ folded => plain_folds (plain c listed) folded))

theorem framed_spaces {word : List Char} (spells : Spells (spaces tables.classes) word) : Framed word [] :=
  framed_plain (spells.within fun _ space => plain_space space)

theorem framed_digits {word : List Char} (spells : Spells (digits tables.classes) word) : Framed word [] :=
  framed_plain (spells.within ⟨fun _ digit => plain_digit tables digit, fun _ digit => plain_digit tables digit⟩)

theorem framed_symbol {c : Char} (tame : isTame c.toNat = true) {word : List Char} (spells : Spells (symbol c) word) :
    Framed word ([c.toNat].filter isMark) := by
  obtain ⟨other, same, rfl⟩ := spells_char.mp spells
  rw [eq_of_beq same]
  exact framed_char tame

theorem framed_modifier {name : String} (plain : ∀ c ∈ name.toList, Plain c) {word : List Char}
    (spells : Spells (modifier tables.classes name) word) : Framed word [] := by
  rcases spells_optional.mp spells with spells | rfl
  · obtain ⟨blank, text, before, behind, rfl⟩ := spells_seq.mp spells
    have blanks : Framed blank [] := framed_plain (before.within ⟨fun _ space => plain_space space, fun _ space => plain_space space⟩)
    exact blanks.append (framed_anyCase plain behind)
  · exact framed_plain (by simp)

/-- Parentheses that are closed, around at most one comma. -/
def Arguments (shape : List Nat) : Prop := shape = [] ∨ shape = [40, 41] ∨ shape = [40, 44, 41]

theorem framed_secondArgument {word : List Char} (spells : Spells
    (optional (all [spaces tables.classes, symbol ',', spaces tables.classes, digits tables.classes])) word) :
    Framed word [] ∨ Framed word [44] := by
  rcases spells_optional.mp spells with spells | rfl
  · simp only [all, List.foldr_cons, List.foldr_nil, spells_seq, spells_empty] at spells
    obtain ⟨blank, _, blanks, ⟨comma, _, commas, ⟨blank', _, blanks', ⟨number, _, numbers, rfl, rfl⟩, rfl⟩, rfl⟩, rfl⟩ := spells
    exact Or.inr ((framed_spaces blanks).append ((framed_symbol rfl commas).append ((framed_spaces blanks').append
      ((framed_digits numbers).append (framed_plain (by simp))))))
  · exact Or.inl (framed_plain (by simp))

theorem framed_lengthArguments {word : List Char} (spells : Spells (lengthArguments tables.classes) word) :
    ∃ shape, Framed word shape ∧ Arguments shape := by
  rcases spells_optional.mp spells with spells | rfl
  · simp only [all, List.foldr_cons, List.foldr_nil, spells_seq, spells_empty] at spells
    obtain ⟨blank, _, blanks, ⟨opening, _, opens, ⟨blank', _, blanks', ⟨number, _, numbers, ⟨more, _, second,
      ⟨blank'', _, blanks'', ⟨closing, _, shuts, rfl, rfl⟩, rfl⟩, rfl⟩, rfl⟩, rfl⟩, rfl⟩, rfl⟩ := spells
    have latter := (framed_spaces blanks'').append ((framed_symbol rfl shuts).append (@framed_plain [] (by simp)))
    have framed (shape : List Nat) (inner : Framed more shape) := (framed_spaces blanks).append
      ((framed_symbol rfl opens).append ((framed_spaces blanks').append ((framed_digits numbers).append (inner.append latter))))
    rcases framed_secondArgument second with inner | inner
    · exact ⟨_, framed [] inner, Or.inr (Or.inl rfl)⟩
    · exact ⟨_, framed [44] inner, Or.inr (Or.inr rfl)⟩
  · exact ⟨[], framed_plain (by simp), Or.inl rfl⟩

theorem plain_text {text : String} (plain : (units text).all (fun unit => isSpace unit || isIdentifier unit) = true) :
    ∀ c ∈ text.toList, Plain c := by
  intro c listed
  have inside := List.all_eq_true.mp plain c.toNat (List.mem_map_of_mem listed)
  simpa only [Plain, Bool.or_eq_true] using inside

/-- A type that matched is a name, its arguments and its modifiers. -/
theorem framed_columnType {word : List Char} (spells : Spells (columnType tables.classes) word) :
    ∃ shape, Framed word shape ∧ Arguments shape := by
  simp only [columnType, all, List.foldr_cons, List.foldr_nil, spells_seq, spells_empty] at spells
  obtain ⟨name, _, named, ⟨lengths, _, arguments, ⟨unsigned, _, former, ⟨zerofill, _, latter, rfl, rfl⟩, rfl⟩, rfl⟩, rfl⟩ := spells
  have names : Framed name [] := by
    refine framed_plain (named.within (within_any fun part member => ?_))
    obtain ⟨text, listed, rfl⟩ := List.mem_map.mp member
    have plain : typeNames.all fun text => (units text).all fun unit => isSpace unit || isIdentifier unit := by decide
    exact within_spelled fun c inside _ folded => plain_folds (plain_text (List.all_eq_true.mp plain text listed) c inside) folded
  obtain ⟨shape, inner, closed⟩ := framed_lengthArguments arguments
  have modifiers := (framed_modifier (plain_text (by decide)) former).append
    ((framed_modifier (plain_text (by decide)) latter).append (@framed_plain [] (by simp)))
  have framed := names.append (inner.append modifiers)
  simp only [List.nil_append, List.append_nil] at framed
  exact ⟨shape, by simpa using framed, closed⟩

/-- A current timestamp is its name and perhaps a precision. -/
theorem framed_currentTimestampToken {word : List Char} (spells : Spells (currentTimestampToken tables.classes) word) :
    ∃ shape, Framed word shape ∧ Arguments shape := by
  obtain ⟨name, digits, named, precise, rfl⟩ := spells_seq.mp spells
  have names := framed_anyCase (plain_text (by decide)) named
  rcases spells_optional.mp precise with precise | rfl
  · simp only [all, List.foldr_cons, List.foldr_nil, spells_seq, spells_empty] at precise
    obtain ⟨opening, _, opens, ⟨number, _, numbers, ⟨closing, _, shuts, rfl, rfl⟩, rfl⟩, rfl⟩ := precise
    have inner : Framed number [] := framed_plain (numbers.within fun _ digit => plain_digit tables digit)
    exact ⟨_, names.append ((framed_symbol rfl opens).append (inner.append ((framed_symbol rfl shuts).append
      (@framed_plain [] (by simp))))), Or.inr (Or.inl rfl)⟩
  · exact ⟨_, names.append (@framed_plain [] (by simp)), Or.inl rfl⟩

/-- A number is a sign, or none, and text without marks. -/
theorem framed_number {word : List Char} (spells : Spells (number tables.classes) word) :
    ∃ sign text, word = sign ++ text ∧ (sign = [] ∨ sign = ['+'] ∨ sign = ['-']) ∧ Framed text [] := by
  obtain ⟨sign, text, signed, rest, rfl⟩ := spells_seq.mp spells
  refine ⟨sign, text, rfl, ?_, framed_unmarked (rest.within ?_)⟩
  · rcases spells_optional.mp signed with signed | rfl
    · obtain ⟨c, passes, rfl⟩ := spells_char.mp signed
      simp only [Bool.or_eq_true, beq_iff_eq] at passes
      rcases passes with rfl | rfl
      · exact Or.inr (Or.inl rfl)
      · exact Or.inr (Or.inr rfl)
    · exact Or.inl rfl
  · have digit : ∀ c, tables.digit c = true → Plain c ∨ c = '.' := fun c digit => Or.inl (plain_digit tables digit)
    have point : ∀ c, (c == '.') = true → Plain c ∨ c = '.' := fun c same => Or.inr (eq_of_beq same)
    exact ⟨⟨⟨digit, digit⟩, ⟨point, digit⟩, trivial⟩, point, digit, digit⟩

end Words

end Pipa.TableDdl
