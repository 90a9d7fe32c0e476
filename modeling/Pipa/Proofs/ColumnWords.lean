import Pipa.Proofs.TableDdlPieces
import Pipa.TableSql

/-! What both languages recognise in a trimmed text, they recognise in the same text: the
words of the patterns begin and end with characters that neither `trim` removes. -/

namespace Pipa.ColumnPatterns
open Text Regex TableDdl

/-- What one of the languages trims. -/
def isTrimmed (c : Char) : Bool := isWhitespace c || c == '\uFEFF'

theorem trimmed_of_space {c : Char} (space : isWhitespace c = true) : isTrimmed c = true := by
  rw [isTrimmed, space, Bool.true_or]

theorem trimmed_of_jsSpace {c : Char} (space : isJsWhitespace c = true) : isTrimmed c = true := by
  simp only [isJsWhitespace, Bool.or_eq_true, Bool.and_eq_true, beq_iff_eq] at space
  rcases space with ⟨space, -⟩ | mark
  · exact trimmed_of_space space
  · obtain rfl : c = '\uFEFF' := Char.toNat_inj.mp mark
    rfl

/-- A word whose ends are not trimmed. -/
structure Sturdy (word : List Char) : Prop where
  nonempty : word ≠ []
  first : ∀ c, word.head? = some c → isTrimmed c = false
  last : ∀ c, word.getLast? = some c → isTrimmed c = false

/-- Trimming at least what stands around a sturdy word leaves the word. -/
theorem trimMatches_around {before word behind : List Char} (sturdy : Sturdy word)
    (front : ∀ c ∈ before, isTrimmed c = true) (back : ∀ c ∈ behind, isTrimmed c = true) :
    ((before ++ (word ++ behind)).dropWhile isTrimmed).rdropWhile isTrimmed = word := by
  have dropped : (before ++ (word ++ behind)).dropWhile isTrimmed = word ++ behind := by
    rw [List.dropWhile_append_of_pos front]
    obtain ⟨c, rest, rfl⟩ := List.exists_cons_of_ne_nil sturdy.nonempty
    rw [List.cons_append, List.dropWhile_cons_of_neg]
    rw [sturdy.first c rfl]
    exact Bool.false_ne_true
  rw [dropped, List.rdropWhile, List.reverse_append, List.dropWhile_append_of_pos]
  · have kept : word.reverse.dropWhile isTrimmed = word.reverse := by
      cases turned : word.reverse with
      | nil => rfl
      | cons c rest =>
        have last : word.getLast? = some c := by rw [← List.head?_reverse, turned]; rfl
        rw [List.dropWhile_cons_of_neg]
        rw [sturdy.last c last]
        exact Bool.false_ne_true
    rw [kept, List.reverse_reverse]
  · intro c member
    exact back c (List.mem_reverse.mp member)

/-- A trim that leaves a sturdy word leaves what trimming for both languages leaves. -/
theorem trimMatches_sturdy {matched : Char → Bool} (trims : ∀ c, matched c = true → isTrimmed c = true) {text : String}
    (sturdy : Sturdy (trimMatches matched text).toList) : trimMatches matched text = trimMatches isTrimmed text := by
  have left : (trimMatches matched text).toList = (text.toList.dropWhile matched).rdropWhile matched := by
    simp only [trimMatches, trimEndMatches, trimStartMatches, String.toList_ofList]
  have right : (trimMatches isTrimmed text).toList = (text.toList.dropWhile isTrimmed).rdropWhile isTrimmed := by
    simp only [trimMatches, trimEndMatches, trimStartMatches, String.toList_ofList]
  refine String.toList_inj.mp ?_
  rw [left] at sturdy ⊢
  rw [right]
  have parts : text.toList = text.toList.takeWhile matched ++ ((text.toList.dropWhile matched).rdropWhile matched ++
      (text.toList.dropWhile matched).rtakeWhile matched) := by
    rw [List.rdropWhile_append_rtakeWhile, List.takeWhile_append_dropWhile]
  have front : ∀ c ∈ text.toList.takeWhile matched, isTrimmed c = true :=
    fun c member => trims c (List.mem_takeWhile_imp member)
  have back : ∀ c ∈ (text.toList.dropWhile matched).rtakeWhile matched, isTrimmed c = true :=
    fun c member => trims c (List.mem_rtakeWhile_imp member)
  have around := trimMatches_around sturdy front back
  rw [← parts] at around
  exact around.symm

/-- Two sturdy words that the languages trimmed from one text are the same. -/
theorem trims_agree {text : String} (frontend : Sturdy (TableSql.trimmed text)) (backend : Sturdy (TableDdl.trimmed text)) :
    jsTrim text = trim text :=
  (trimMatches_sturdy (fun _ => trimmed_of_jsSpace) frontend).trans (trimMatches_sturdy (fun _ => trimmed_of_space) backend).symm

/-! ### The words -/

theorem sturdy_of_all {word : List Char} (nonempty : word ≠ []) (kept : ∀ c ∈ word, isTrimmed c = false) : Sturdy word where
  nonempty := nonempty
  first c same := kept c (List.mem_of_head? same)
  last c same := kept c (List.mem_of_getLast? same)

/-- A word that may only be empty or end in what is not trimmed. -/
def Ends (word : List Char) : Prop := ∀ c, word.getLast? = some c → isTrimmed c = false

theorem ends_of_all {word : List Char} (kept : ∀ c ∈ word, isTrimmed c = false) : Ends word :=
  fun c same => kept c (List.mem_of_getLast? same)

theorem ends_nil : Ends [] := ends_of_all (by simp)

theorem Ends.append {word more : List Char} (ends : Ends word) (ends' : Ends more) : Ends (word ++ more) := by
  intro c same
  rw [List.getLast?_append] at same
  cases last : more.getLast? with
  | none =>
    rw [last] at same
    exact ends c same
  | some other =>
    rw [last] at same
    obtain rfl := Option.some.inj same
    exact ends' _ last

theorem Ends.behind {word : List Char} (front : List Char) (nonempty : word ≠ []) (ends : Ends word) : Ends (front ++ word) := by
  intro c same
  rw [List.getLast?_append_of_ne_nil _ nonempty] at same
  exact ends c same

theorem trimmed_iff (c : Char) : isTrimmed c = true ↔ (9 ≤ c.toNat ∧ c.toNat ≤ 13) ∨ c.toNat = 32 ∨ c.toNat = 133 ∨
    c.toNat = 160 ∨ c.toNat = 5760 ∨ (8192 ≤ c.toNat ∧ c.toNat ≤ 8202) ∨ c.toNat = 8232 ∨ c.toNat = 8233 ∨ c.toNat = 8239 ∨
    c.toNat = 8287 ∨ c.toNat = 12288 ∨ c.toNat = 65279 := by
  have mark : c = '\uFEFF' ↔ c.toNat = 65279 := Char.toNat_inj.symm
  simp only [isTrimmed, isWhitespace, Bool.or_eq_true, Bool.and_eq_true, decide_eq_true_eq, beq_iff_eq, mark, or_assoc]

theorem kept_foldedWord {c : Char} (word : isFoldedWord c = true) : isTrimmed c = false := by
  refine Bool.eq_false_iff.mpr fun trims => ?_
  have codes := (foldedWord_iff c).mp word
  have blanks := (trimmed_iff c).mp trims
  omega

theorem foldedWord_folds {c other : Char} (word : isFoldedWord c = true) (folded : folds c other = true) :
    isFoldedWord other = true := by
  simp only [folds, Bool.or_eq_true, Bool.and_eq_true, beq_iff_eq] at folded
  rcases folded with (same | ⟨-, rfl⟩) | ⟨-, rfl⟩
  · have codes := congrArg Char.toNat same
    rw [toLower_toNat, toLower_toNat] at codes
    rw [foldedWord_iff] at word ⊢
    split at codes <;> split at codes <;> omega
  · rfl
  · rfl

/-- The backend's digits are words, which it does not trim. -/
theorem backend_kept (tables : RegexTables) {c : Char} (digit : tables.digit c = true) : isTrimmed c = false := by
  have word := tables.digit_word c digit
  have mark : c ≠ '\uFEFF' := by
    rintro rfl
    rw [tables.word_not_mark] at word
    cases word
  rw [isTrimmed, tables.word_not_space c word, Bool.false_or]
  exact beq_eq_false_iff_ne.mpr mark

theorem words_anyCase {text : String} (letters : text.toList.all isFoldedWord = true) {word : List Char}
    (spells : Spells (anyCase text) word) : ∀ c ∈ word, isFoldedWord c = true :=
  spells.within (within_spelled fun c listed _ folded => foldedWord_folds (List.all_eq_true.mp letters c listed) folded)

theorem anyCase_nonempty {text : String} (some_letter : text.toList ≠ []) {word : List Char} (spells : Spells (anyCase text) word) :
    word ≠ [] := by
  rintro rfl
  have same := (spells_spelled.mp spells).length_eq
  exact some_letter (List.length_eq_zero_iff.mp same)

section Words
variable {classes : PatternClasses} (kept : ∀ c, classes.digit c = true → isTrimmed c = false)
include kept

/-- A number has no blank. -/
theorem sturdy_number {word : List Char} (spells : Spells (number classes) word) : Sturdy word := by
  refine sturdy_of_all ?_ (spells.within ?_)
  · obtain ⟨sign, rest, -, digits, rfl⟩ := spells_seq.mp spells
    intro empty
    obtain ⟨-, rfl⟩ := List.append_eq_nil_iff.mp empty
    rcases spells_alt.mp digits with digits | digits
    · obtain ⟨left, right, whole, -, same⟩ := spells_seq.mp digits
      exact (spells_plus.mp whole).1 (List.append_eq_nil_iff.mp same.symm).1
    · obtain ⟨left, right, -, fraction, same⟩ := spells_seq.mp digits
      exact (spells_plus.mp fraction).1 (List.append_eq_nil_iff.mp same.symm).2
  · have sign : ∀ c, (c == '+' || c == '-') = true → isTrimmed c = false := by
      intro c same
      simp only [Bool.or_eq_true, beq_iff_eq] at same
      rcases same with rfl | rfl <;> rfl
    have point : ∀ c, (c == '.') = true → isTrimmed c = false := by
      intro c same
      rw [eq_of_beq same]
      rfl
    exact ⟨⟨sign, trivial⟩, ⟨⟨kept, kept⟩, ⟨point, kept⟩, trivial⟩, point, kept, kept⟩

theorem kept_currentTimestampToken {word : List Char} (spells : Spells (currentTimestampToken classes) word) :
    ∀ c ∈ word, isTrimmed c = false := by
  obtain ⟨name, rest, named, precise, rfl⟩ := spells_seq.mp spells
  have letters := words_anyCase (by decide) named
  have symbol (d : Char) (plain : isTrimmed d = false) : ∀ c, (c == d) = true → isTrimmed c = false := by
    intro c same
    rwa [eq_of_beq same]
  have digits : ∀ c ∈ rest, isTrimmed c = false :=
    precise.within ⟨⟨symbol '(' rfl, kept, symbol ')' rfl, trivial⟩, trivial⟩
  exact List.forall_mem_append.mpr ⟨fun c member => kept_foldedWord (letters c member), digits⟩

theorem sturdy_currentTimestampToken {word : List Char} (spells : Spells (currentTimestampToken classes) word) :
    Sturdy word := by
  refine sturdy_of_all ?_ (kept_currentTimestampToken kept spells)
  obtain ⟨name, rest, named, -, rfl⟩ := spells_seq.mp spells
  exact fun empty => anyCase_nonempty (by decide) named (List.append_eq_nil_iff.mp empty).1

omit kept in
theorem ends_modifier {name : String} (letters : name.toList.all isFoldedWord = true) (some_letter : name.toList ≠ [])
    {word : List Char} (spells : Spells (modifier classes name) word) : Ends word := by
  rcases spells_optional.mp spells with spells | rfl
  · obtain ⟨blank, text, -, named, rfl⟩ := spells_seq.mp spells
    exact Ends.behind blank (anyCase_nonempty some_letter named)
      (ends_of_all fun c member => kept_foldedWord (words_anyCase letters named c member))
  · exact ends_nil

omit kept in
theorem ends_lengthArguments {word : List Char} (spells : Spells (lengthArguments classes) word) : Ends word := by
  rcases spells_optional.mp spells with spells | rfl
  · simp only [all, List.foldr_cons, List.foldr_nil, spells_seq, spells_empty] at spells
    obtain ⟨blank, _, -, ⟨opening, _, -, ⟨blank', _, -, ⟨number, _, -, ⟨more, _, -,
      ⟨blank'', _, -, ⟨closing, _, shuts, rfl, rfl⟩, rfl⟩, rfl⟩, rfl⟩, rfl⟩, rfl⟩, rfl⟩ := spells
    obtain ⟨c, same, rfl⟩ := spells_char.mp shuts
    rw [eq_of_beq same]
    have last : Ends [')'] := by
      refine ends_of_all fun c member => ?_
      rw [List.mem_singleton.mp member]
      decide
    have around : blank ++ (opening ++ (blank' ++ (number ++ (more ++ (blank'' ++ ([')'] ++ [])))))) =
        (blank ++ (opening ++ (blank' ++ (number ++ (more ++ blank''))))) ++ [')'] := by
      rw [List.append_nil]
      simp only [List.append_assoc]
    rw [around]
    exact Ends.behind _ (List.cons_ne_nil _ _) last
  · exact ends_nil

omit kept in
/-- A type begins with its name and ends with it, its arguments or a modifier. -/
theorem sturdy_columnType {word : List Char} (spells : Spells (columnType classes) word) : Sturdy word := by
  simp only [columnType, all, List.foldr_cons, List.foldr_nil, spells_seq, spells_empty] at spells
  obtain ⟨name, _, named, ⟨lengths, _, arguments, ⟨unsigned, _, former, ⟨zerofill, _, latter, rfl, rfl⟩, rfl⟩, rfl⟩, rfl⟩ := spells
  obtain ⟨part, listed, spelled⟩ := spells_any named
  obtain ⟨text, known, rfl⟩ := List.mem_map.mp listed
  have letters : typeNames.all fun text => text.toList.all isFoldedWord && !text.toList.isEmpty := by decide
  obtain ⟨letters, some_letter⟩ := Bool.and_eq_true_iff.mp (List.all_eq_true.mp letters text known)
  have nonempty := anyCase_nonempty (by simpa using some_letter) spelled
  have words : ∀ c ∈ name, isTrimmed c = false := fun c member => kept_foldedWord (words_anyCase letters spelled c member)
  obtain ⟨c, rest, rfl⟩ := List.exists_cons_of_ne_nil nonempty
  refine ⟨List.cons_ne_nil _ _, ?_, ?_⟩
  · intro d same
    obtain rfl := Option.some.inj same
    exact words c List.mem_cons_self
  · have modifiers := (ends_modifier (by decide) (by decide) former).append
      ((ends_modifier (by decide) (by decide) latter).append ends_nil)
    exact (ends_of_all words).append ((ends_lengthArguments arguments).append modifiers)

end Words

end Pipa.ColumnPatterns
