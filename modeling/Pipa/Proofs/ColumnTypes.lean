import Pipa.Proofs.ColumnWords

/-! What the prefix patterns say of a type that the allowlist accepts: exactly whether its
name is one of theirs. -/

namespace Pipa.ColumnPatterns
open Text Regex TableDdl

/-- The letter that a character of a name is in any case. -/
def foldCase (c : Char) : Char := if c = '\u017F' then 's' else if c = '\u212A' then 'k' else c.toLower

/-- The name that a declaration begins with, in lower case. -/
def typeName (declaration : List Char) : List Char := (declaration.takeWhile isFoldedWord).map foldCase

def isType (names : List String) (declaration : List Char) : Bool := names.any fun name => name.toList == typeName declaration

/-- A name as the patterns write it. -/
def isPatternName (name : String) : Bool := !name.toList.isEmpty && name.toList.all fun c => 97 ≤ c.toNat && c.toNat ≤ 122

theorem folds_iff {c other : Char} (lower : 97 ≤ c.toNat ∧ c.toNat ≤ 122) : folds c other = true ↔ foldCase other = c := by
  have kept : c.toLower = c := by
    apply Char.toNat_inj.mp
    rw [toLower_toNat, if_neg (by omega)]
  have ascii : c ≠ '\u017F' ∧ c ≠ '\u212A' := by
    constructor <;> rintro rfl <;> exact absurd lower (by decide)
  simp only [folds, foldCase, Bool.or_eq_true, Bool.and_eq_true, beq_iff_eq, kept]
  by_cases long : other = '\u017F'
  · have same : other.toLower = '\u017F' := by rw [long]; rfl
    rw [if_pos long, same]
    simp [long, ascii.1, eq_comm]
  · rw [if_neg long]
    by_cases kelvin : other = '\u212A'
    · have same : other.toLower = '\u212A' := by rw [kelvin]; rfl
      rw [if_pos kelvin, same]
      simp [kelvin, ascii.2, eq_comm]
    · rw [if_neg kelvin]
      simp [long, kelvin, eq_comm]

theorem forall_folds_iff {name : List Char} (lower : ∀ c ∈ name, 97 ≤ c.toNat ∧ c.toNat ≤ 122) {word : List Char} :
    List.Forall₂ (fun c other => folds c other = true) name word ↔ word.map foldCase = name := by
  induction name generalizing word with
  | nil => rw [List.forall₂_nil_left_iff, List.map_eq_nil_iff]
  | cons c name ih =>
    obtain ⟨first, others⟩ := List.forall_mem_cons.mp lower
    rw [List.forall₂_cons_left_iff, List.map_eq_cons_iff]
    simp only [folds_iff first, ih others]
    constructor
    · intro ⟨other, rest, folded, same, whole⟩
      exact ⟨other, rest, whole, folded, same⟩
    · intro ⟨other, rest, whole, folded, same⟩
      exact ⟨other, rest, folded, same, whole⟩

/-- A word spells a name exactly if it is the name in some case. -/
theorem spells_anyCase_iff {name : String} (proper : isPatternName name = true) {word : List Char} :
    Spells (anyCase name) word ↔ word.map foldCase = name.toList := by
  have lower : ∀ c ∈ name.toList, 97 ≤ c.toNat ∧ c.toNat ≤ 122 := by
    intro c member
    obtain ⟨-, letters⟩ := Bool.and_eq_true_iff.mp proper
    simpa using List.all_eq_true.mp letters c member
  rw [anyCase, spells_spelled, forall_folds_iff lower]

theorem patternName_letters {name : String} (proper : isPatternName name = true) : name.toList.all isFoldedWord = true := by
  obtain ⟨-, letters⟩ := Bool.and_eq_true_iff.mp proper
  apply List.all_eq_true.mpr
  intro c member
  have lower : 97 ≤ c.toNat ∧ c.toNat ≤ 122 := by simpa using List.all_eq_true.mp letters c member
  rw [foldedWord_iff]
  omega

theorem patternName_nonempty {name : String} (proper : isPatternName name = true) : name.toList ≠ [] := by
  obtain ⟨some_letter, -⟩ := Bool.and_eq_true_iff.mp proper
  simpa using some_letter

/-! ### Behind the name -/

section Tables
variable (tables : RegexTables)

/-- A text that begins with no word character. -/
def Stops (text : List Char) : Prop := ∀ c, text.head? = some c → tables.word c = false

variable {tables}

theorem Stops.append {text more : List Char} (stops : Stops tables text) (stops' : Stops tables more) :
    Stops tables (text ++ more) := by
  intro c first
  cases text with
  | nil => exact stops' c first
  | cons other rest => exact stops c first

theorem stops_nil : Stops tables [] := fun _ first => nomatch first

theorem word_stop {c : Char} (stop : tables.word c = false) : isFoldedWord c = false := by
  cases letter : isFoldedWord c with
  | false => rfl
  | true => cases stop.symm.trans (tables.word_folded c letter)

theorem stops_space {c : Char} (space : isWhitespace c = true) : tables.word c = false := by
  cases word : tables.word c with
  | false => rfl
  | true => cases space.symm.trans (tables.word_not_space c word)

theorem stops_spaces {text : List Char} (spells : Spells (spaces tables.classes) text) : Stops tables text := by
  intro c first
  exact stops_space (spells_star.mp spells c (List.mem_of_head? first))

theorem stops_modifier {name : String} {text : List Char} (spells : Spells (modifier tables.classes name) text) :
    Stops tables text := by
  obtain spells | rfl := spells_optional.mp spells
  · obtain ⟨blank, letters, blanks, -, rfl⟩ := spells_seq.mp spells
    obtain ⟨some_blank, blanks⟩ := spells_plus.mp blanks
    obtain ⟨c, rest, rfl⟩ := List.exists_cons_of_ne_nil some_blank
    intro d first
    obtain rfl := Option.some.inj first
    exact stops_space (blanks c List.mem_cons_self)
  · exact stops_nil

theorem stops_lengthArguments {text : List Char} (spells : Spells (lengthArguments tables.classes) text) :
    Stops tables text := by
  obtain spells | rfl := spells_optional.mp spells
  · rw [all, List.foldr_cons, List.foldr_cons] at spells
    obtain ⟨blank, inside, blanks, opens, rfl⟩ := spells_seq.mp spells
    obtain ⟨opening, rest, opened, -, rfl⟩ := spells_seq.mp opens
    apply (stops_spaces blanks).append
    obtain ⟨c, same, rfl⟩ := spells_char.mp opened
    intro d first
    obtain rfl := Option.some.inj first
    obtain rfl := eq_of_beq same
    rw [tables.word_ascii '(' (by decide)]
    rfl
  · exact stops_nil

/-- An accepted type is its name and something that begins with no word character. -/
theorem columnType_splits {declaration : List Char} (spells : Spells (columnType tables.classes) declaration) :
    ∃ word rest, declaration = word ++ rest ∧ (∃ name ∈ typeNames, Spells (anyCase name) word) ∧ Stops tables rest := by
  simp only [columnType, all, List.foldr_cons, List.foldr_nil, spells_seq, spells_empty] at spells
  obtain ⟨word, _, named, ⟨lengths, _, arguments, ⟨unsigned, _, former, ⟨zerofill, _, latter, rfl, rfl⟩, rfl⟩, rfl⟩, rfl⟩ := spells
  obtain ⟨part, listed, spelled⟩ := spells_any named
  obtain ⟨name, known, rfl⟩ := List.mem_map.mp listed
  refine ⟨word, _, rfl, ⟨name, known, spelled⟩, ?_⟩
  exact (stops_lengthArguments arguments).append ((stops_modifier former).append ((stops_modifier latter).append stops_nil))

theorem takeWhile_word {word rest : List Char} (letters : ∀ c ∈ word, isFoldedWord c = true) (stops : Stops tables rest) :
    (word ++ rest).takeWhile isFoldedWord = word := by
  rw [List.takeWhile_append_of_pos letters]
  cases rest with
  | nil => rw [List.takeWhile_nil, List.append_nil]
  | cons c rest =>
    rw [List.takeWhile_cons_of_neg, List.append_nil]
    rw [word_stop (stops c rfl)]
    exact Bool.false_ne_true

/-! ### The prefix patterns -/

variable {names : List String} (proper : ∀ name ∈ names, isPatternName name = true)
include proper

theorem spells_names {word : List Char} :
    Spells (any (names.map anyCase)) word ↔ ∃ name ∈ names, word.map foldCase = name.toList := by
  constructor
  · intro spells
    obtain ⟨part, listed, spelled⟩ := spells_any spells
    obtain ⟨name, known, rfl⟩ := List.mem_map.mp listed
    exact ⟨name, known, (spells_anyCase_iff (proper name known)).mp spelled⟩
  · intro ⟨name, known, same⟩
    exact spells_any_of_mem (List.mem_map_of_mem known) ((spells_anyCase_iff (proper name known)).mpr same)

theorem spelled_letters {word : List Char} (spells : Spells (any (names.map anyCase)) word) :
    word ≠ [] ∧ ∀ c ∈ word, isFoldedWord c = true := by
  obtain ⟨part, listed, spelled⟩ := spells_any spells
  obtain ⟨name, known, rfl⟩ := List.mem_map.mp listed
  have named := proper name known
  exact ⟨anyCase_nonempty (patternName_nonempty named) spelled, words_anyCase (patternName_letters named) spelled⟩

omit proper in
theorem plain_names : (any (names.map anyCase)).Plain := by
  apply plain_any
  intro part listed
  obtain ⟨name, -, rfl⟩ := List.mem_map.mp listed
  exact plain_spelled folds name

omit proper in
theorem isType_iff {declaration : List Char} :
    isType names declaration = true ↔ ∃ name ∈ names, (declaration.takeWhile isFoldedWord).map foldCase = name.toList := by
  rw [isType, List.any_eq_true]
  simp only [beq_iff_eq, typeName]
  exact exists_congr fun name => and_congr_right' eq_comm

/-- A name in front of a word boundary is the whole name of the type. -/
theorem typePrefix_iff {declaration : List Char} (spells : Spells (columnType tables.classes) declaration) :
    (typePrefix tables.classes anyCase names).isMatch declaration = isType names declaration := by
  obtain ⟨word, rest, rfl, ⟨name, known, named⟩, stops⟩ := columnType_splits spells
  have allProper : ∀ name ∈ typeNames, isPatternName name = true := by decide
  obtain ⟨nonempty, letters⟩ := spelled_letters allProper (spells_any_of_mem (List.mem_map_of_mem known) named)
  rw [Bool.eq_iff_iff, typePrefix, isMatch_start, isType_iff, takeWhile_word letters stops]
  constructor
  · intro found
    obtain ⟨last, reached⟩ := List.exists_mem_of_ne_nil _ found
    obtain ⟨middle, matched, bounded⟩ := List.mem_flatMap.mp reached
    obtain ⟨word', covers, spelled⟩ := run_spells _ matched
    obtain ⟨nonempty', letters'⟩ := spelled_letters proper spelled
    have stops' : Stops tables middle.ahead := by
      intro c first
      rw [run, RegexTables.classes, covers.2, first] at bounded
      obtain ⟨last, tail, ended⟩ := List.exists_cons_of_ne_nil (List.reverse_ne_nil_iff.mpr nonempty')
      have letter : tables.word last = true := by
        apply tables.word_folded last
        exact letters' last (List.mem_reverse.mp (ended ▸ List.mem_cons_self))
      cases word : tables.word c with
      | false => rfl
      | true =>
        rw [ended] at bounded
        simp [begin, letter, word] at bounded
    have same : word = word' := by
      have first := @takeWhile_word tables _ _ letters stops
      have second := @takeWhile_word tables _ _ letters' stops'
      rw [← covers.1] at second
      exact first.symm.trans second
    rw [same]
    exact (spells_names proper).mp spelled
  · intro found
    have matched := @run_finds _ plain_names _ rest [] ((spells_names proper).mpr found)
    rw [List.append_nil] at matched
    apply List.ne_nil_of_mem
    apply List.mem_flatMap.mpr
    refine ⟨_, matched, ?_⟩
    obtain ⟨last, tail, ended⟩ := List.exists_cons_of_ne_nil (List.reverse_ne_nil_iff.mpr nonempty)
    have letter : tables.word last = true := by
      apply tables.word_folded last
      exact letters last (List.mem_reverse.mp (ended ▸ List.mem_cons_self))
    have apart : (word.reverse.head?.any tables.word) ≠ rest.head?.any tables.word := by
      rw [ended, List.head?_cons, Option.any_some, letter]
      cases rest with
      | nil => exact Bool.noConfusion
      | cons c rest =>
        rw [List.head?_cons, Option.any_some, stops c rfl]
        exact Bool.noConfusion
    rw [run, RegexTables.classes, if_pos apart]
    exact List.mem_singleton_self _

end Tables

/-- A numeric name at the front of a type is the whole name of the type. -/
theorem numericType_iff {tables : RegexTables} {declaration : List Char} (spells : Spells (columnType tables.classes) declaration) :
    numericType.isMatch declaration = isType numericTypeNames declaration := by
  obtain ⟨word, rest, rfl, ⟨name, known, named⟩, stops⟩ := columnType_splits spells
  have allProper : ∀ name ∈ typeNames, isPatternName name = true := by decide
  have proper : ∀ name ∈ numericTypeNames, isPatternName name = true := by decide
  obtain ⟨-, letters⟩ := spelled_letters allProper (spells_any_of_mem (List.mem_map_of_mem known) named)
  have spelled := (spells_anyCase_iff (allProper name known)).mp named
  rw [Bool.eq_iff_iff, numericType, isMatch_start, isType_iff, takeWhile_word letters stops, spelled]
  have whole : ∀ name ∈ typeNames, ∀ first ∈ numericTypeNames, first.toList <+: name.toList → name ∈ numericTypeNames := by
    decide
  constructor
  · intro found
    obtain ⟨last, reached⟩ := List.exists_mem_of_ne_nil _ found
    obtain ⟨word', covers, spelled'⟩ := run_spells _ reached
    obtain ⟨-, letters'⟩ := spelled_letters proper spelled'
    obtain ⟨first, numeric, same⟩ := (spells_names proper).mp spelled'
    have front : word' <+: word := by
      have taken : (word' ++ last.ahead).takeWhile isFoldedWord = word' ++ last.ahead.takeWhile isFoldedWord :=
        List.takeWhile_append_of_pos letters'
      rw [← covers.1] at taken
      change (word ++ rest).takeWhile isFoldedWord = _ at taken
      rw [takeWhile_word letters stops] at taken
      exact ⟨_, taken.symm⟩
    refine ⟨name, whole name known first numeric ?_, rfl⟩
    rw [← same, ← spelled]
    exact front.map foldCase
  · intro found
    rw [← spelled] at found
    have matched := @run_finds _ plain_names _ rest [] ((spells_names proper).mpr found)
    exact List.ne_nil_of_mem matched

end Pipa.ColumnPatterns
