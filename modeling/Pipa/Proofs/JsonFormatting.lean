import Pipa.Library.JsonLexemes
import Pipa.ResultExport
import Pipa.TableEdits

/-! Formatting JSON keeps its lexemes. On a document the characters of the formatter amount
to one step for each lexeme, so the result depends on the lexemes alone. -/

namespace Pipa.ResultExport
open JsonText Text
open SqlLexer (units)

/-! ### One lexeme -/

/-- The characters of a lexeme. -/
def spelling (written : Lexeme) : List Char := written.text.map Char.ofNat

/-- The formatted text and the depth of its brackets behind one more lexeme. -/
def place (state : List Char × Nat) (written : Lexeme) : List Char × Nat :=
  match written.token with
  | .openArray | .openObject => (state.1 ++ (spelling written ++ lineAt (state.2 + 1)), state.2 + 1)
  | .closeArray | .closeObject =>
    (state.1.rdropWhile isJsWhitespace ++ (lineAt (state.2 - 1) ++ spelling written), state.2 - 1)
  | .comma => (state.1 ++ (spelling written ++ lineAt state.2), state.2)
  | .colon => (state.1 ++ (spelling written ++ [' ']), state.2)
  | _ => (state.1 ++ spelling written, state.2)

/-- Outside of strings. -/
def outside (state : List Char × Nat) : FormatState := ⟨state.1, state.2, false, false⟩

theorem jsWhitespace_hidden {c : Char} (blank : isJsWhitespace c = true) : c.toNat ≤ 32 ∨ 127 ≤ c.toNat := by
  simp only [isJsWhitespace, isWhitespace, Bool.or_eq_true, Bool.and_eq_true, decide_eq_true_eq, beq_iff_eq] at blank
  omega

theorem space_cases {c : Char} (space : isSpace c.toNat = true) : c = ' ' ∨ c = '\t' ∨ c = '\n' ∨ c = '\r' := by
  have code (d : Char) : (c.toNat = d.toNat) = (c = d) := propext Char.toNat_inj
  have listed : c.toNat = ' '.toNat ∨ c.toNat = '\t'.toNat ∨ c.toNat = '\n'.toNat ∨ c.toNat = '\r'.toNat := by
    simpa [isSpace, or_assoc] using space
  simpa only [code] using listed

theorem formatStep_space (state : List Char × Nat) {c : Char} (space : isSpace c.toNat = true) :
    formatStep (outside state) c = outside state := by
  rcases space_cases space with rfl | rfl | rfl | rfl
  all_goals rfl

/-- Characters that stand for themselves outside of strings. -/
def Plain (c : Char) : Prop := 32 < c.toNat ∧ c.toNat < 127 ∧ ¬c ∈ ['"', '\x7b', '[', '\x7d', ']', ',', ':']

theorem formatStep_plain (state : List Char × Nat) {c : Char} (plain : Plain c) :
    formatStep (outside state) c = outside (state.1 ++ [c], state.2) := by
  obtain ⟨low, high, other⟩ := plain
  have solid : isJsWhitespace c = false := by
    rw [Bool.eq_false_iff]
    intro blank
    have hidden := jsWhitespace_hidden blank
    omega
  simp only [List.mem_cons, List.not_mem_nil, or_false, not_or] at other
  simp [formatStep, outside, other, solid]

theorem format_plain (state : List Char × Nat) {text : List Char} (plain : ∀ c ∈ text, Plain c) :
    text.foldl formatStep (outside state) = outside (state.1 ++ text, state.2) := by
  induction text generalizing state with
  | nil => simp
  | cons c text ih =>
    obtain ⟨first, later⟩ := List.forall_mem_cons.mp plain
    rw [List.foldl_cons, formatStep_plain state first, ih _ later, List.append_assoc, List.singleton_append]

/-- Inside of a string. -/
def inside (state : List Char × Nat) (escaped : Bool) : FormatState := ⟨state.1, state.2, true, escaped⟩

theorem formatStep_escaped (state : List Char × Nat) (c : Char) :
    formatStep (inside state true) c = inside (state.1 ++ [c], state.2) false := by
  simp [formatStep, inside]

theorem formatStep_backslash (state : List Char × Nat) :
    formatStep (inside state false) '\\' = inside (state.1 ++ ['\\'], state.2) true := by
  simp [formatStep, inside]

theorem formatStep_quote (state : List Char × Nat) :
    formatStep (inside state false) '"' = outside (state.1 ++ ['"'], state.2) := by
  simp [formatStep, inside, outside]

theorem formatStep_inside (state : List Char × Nat) {c : Char} (unquoted : c ≠ '"') (bare : c ≠ '\\') :
    formatStep (inside state false) c = inside (state.1 ++ [c], state.2) false := by
  simp [formatStep, inside, unquoted, bare]

theorem char_of_toNat {c d : Char} (same : c.toNat = d.toNat) : c = d := Char.toNat_inj.mp same

/-- The digits of an escape are no quotes and no backslashes. -/
theorem hex_other {c : Char} {value : Nat} (digit : hexDigit c.toNat = some value) : c ≠ '"' ∧ c ≠ '\\' := by
  constructor
  · rintro rfl
    cases digit
  · rintro rfl
    cases digit

/-- The body of a string is copied, and its escapes end where the string reads on. -/
theorem format_body {body units : List Nat} (isBody : Body body units) {text : List Char} (written : text.map Char.toNat = body)
    (state : List Char × Nat) : text.foldl formatStep (inside state false) = inside (state.1 ++ text, state.2) false := by
  induction isBody generalizing text state with
  | nil =>
    obtain rfl := List.map_eq_nil_iff.mp written
    simp
  | @unicode first second third fourth unit body units hex behind ih =>
    obtain ⟨c, text₁, rfl, backslash, written₁⟩ := List.map_eq_cons_iff.mp written
    obtain ⟨letter, text₂, rfl, isLetter, written₂⟩ := List.map_eq_cons_iff.mp written₁
    obtain ⟨c₁, text₃, rfl, rfl, written₃⟩ := List.map_eq_cons_iff.mp written₂
    obtain ⟨c₂, text₄, rfl, rfl, written₄⟩ := List.map_eq_cons_iff.mp written₃
    obtain ⟨c₃, text₅, rfl, rfl, written₅⟩ := List.map_eq_cons_iff.mp written₄
    obtain ⟨c₄, text₆, rfl, rfl, written₆⟩ := List.map_eq_cons_iff.mp written₅
    obtain rfl : c = '\\' := char_of_toNat backslash
    obtain ⟨_, digit₁, hex⟩ := Option.bind_eq_some_iff.mp hex
    obtain ⟨_, digit₂, hex⟩ := Option.bind_eq_some_iff.mp hex
    obtain ⟨_, digit₃, hex⟩ := Option.bind_eq_some_iff.mp hex
    obtain ⟨_, digit₄, hex⟩ := Option.bind_eq_some_iff.mp hex
    rw [List.foldl_cons, formatStep_backslash, List.foldl_cons, formatStep_escaped, List.foldl_cons,
      formatStep_inside _ (hex_other digit₁).1 (hex_other digit₁).2, List.foldl_cons,
      formatStep_inside _ (hex_other digit₂).1 (hex_other digit₂).2, List.foldl_cons,
      formatStep_inside _ (hex_other digit₃).1 (hex_other digit₃).2, List.foldl_cons,
      formatStep_inside _ (hex_other digit₄).1 (hex_other digit₄).2, ih written₆]
    simp
  | @escape letter unit body units means behind ih =>
    obtain ⟨c, text₁, rfl, backslash, written₁⟩ := List.map_eq_cons_iff.mp written
    obtain ⟨c', text₂, rfl, isLetter, written₂⟩ := List.map_eq_cons_iff.mp written₁
    obtain rfl : c = '\\' := char_of_toNat backslash
    rw [List.foldl_cons, formatStep_backslash, List.foldl_cons, formatStep_escaped, ih written₂]
    simp
  | @plain unit body units visible unquoted bare behind ih =>
    obtain ⟨c, text₁, rfl, rfl, written₁⟩ := List.map_eq_cons_iff.mp written
    have unquoted' : c ≠ '"' := by
      rintro rfl
      exact unquoted rfl
    have bare' : c ≠ '\\' := by
      rintro rfl
      exact bare rfl
    rw [List.foldl_cons, formatStep_inside _ unquoted' bare', ih written₁]
    simp

theorem plain_numeral {c : Char} (inside : numeralUnit c.toNat = true) : Plain c := by
  have bounds : 32 < c.toNat ∧ c.toNat < 127 := by
    simp only [numeralUnit, isDigit, Bool.or_eq_true, Bool.and_eq_true, decide_eq_true_eq, beq_iff_eq] at inside
    omega
  refine ⟨bounds.1, bounds.2, fun listed => ?_⟩
  have none : ∀ c ∈ ['"', '\x7b', '[', '\x7d', ']', ',', ':'], numeralUnit c.toNat = false :=
    @of_decide_eq_true _ (List.decidableBAll _ _) rfl
  rw [none c listed] at inside
  cases inside

theorem plain_literal {text : List Char} (listed : text.map Char.toNat ∈ literalTexts) : ∀ c ∈ text, Plain c := by
  intro c member
  have all : ∀ name ∈ literalTexts, ∀ unit ∈ name, 97 ≤ unit ∧ unit ≤ 122 := by decide
  have letter := all _ listed c.toNat (List.mem_map_of_mem member)
  refine ⟨by omega, by omega, fun marked => ?_⟩
  have none : ∀ c ∈ ['"', '\x7b', '[', '\x7d', ']', ',', ':'], ¬(97 ≤ c.toNat ∧ c.toNat ≤ 122) :=
    @of_decide_eq_true _ (List.decidableBAll _ _) rfl
  exact none c marked letter

/-- The characters of one lexeme amount to one step. -/
theorem format_lexeme {written : Lexeme} (proper : Proper written) {text : List Char} (spelled : text.map Char.toNat = written.text)
    (state : List Char × Nat) : text.foldl formatStep (outside state) = outside (place state written) := by
  have same : spelling written = text := by
    rw [spelling, ← spelled, List.map_map]
    exact (List.map_congr_left fun c _ => Char.ofNat_toNat c).trans (List.map_id _)
  cases proper with
  | @mark unit token marks =>
    obtain ⟨c, _, rfl, isUnit, ended⟩ := List.map_eq_cons_iff.mp spelled
    obtain rfl := List.map_eq_nil_iff.mp ended
    have listed := markOf_cases marks
    simp only [List.mem_cons, List.not_mem_nil, or_false, Prod.mk.injEq] at listed
    rcases listed with ⟨rfl, rfl⟩ | ⟨rfl, rfl⟩ | ⟨rfl, rfl⟩ | ⟨rfl, rfl⟩ | ⟨rfl, rfl⟩ | ⟨rfl, rfl⟩
    · obtain rfl : c = '[' := char_of_toNat isUnit
      simp only [place, same]
      rfl
    · obtain rfl : c = ']' := char_of_toNat isUnit
      simp only [place, same, ← List.append_assoc]
      rfl
    · obtain rfl : c = '\x7b' := char_of_toNat isUnit
      simp only [place, same]
      rfl
    · obtain rfl : c = '\x7d' := char_of_toNat isUnit
      simp only [place, same, ← List.append_assoc]
      rfl
    · obtain rfl : c = ',' := char_of_toNat isUnit
      simp only [place, same]
      rfl
    · obtain rfl : c = ':' := char_of_toNat isUnit
      simp only [place, same]
      rfl
  | @string body units isBody =>
    obtain ⟨c, rest, rfl, quote, behind⟩ := List.map_eq_cons_iff.mp spelled
    obtain ⟨front, last, rfl, isBody', closing⟩ := List.map_eq_append_iff.mp behind
    obtain ⟨c', _, rfl, quote', ended⟩ := List.map_eq_cons_iff.mp closing
    obtain rfl := List.map_eq_nil_iff.mp ended
    obtain rfl : c = '"' := char_of_toNat quote
    obtain rfl : c' = '"' := char_of_toNat quote'
    have opens : formatStep (outside state) '"' = inside (state.1 ++ ['"'], state.2) false := rfl
    rw [List.foldl_cons, opens, List.foldl_append, format_body isBody isBody', List.foldl_cons, formatStep_quote, List.foldl_nil]
    simp [place, same]
  | literal listed =>
    rw [format_plain state (plain_literal (spelled ▸ listed))]
    simp [place, same]
  | number nonempty part =>
    have plain : ∀ c ∈ text, Plain c := by
      intro c member
      have inside : c.toNat ∈ text.map Char.toNat := List.mem_map_of_mem member
      rw [spelled] at inside
      exact plain_numeral (part.digits _ inside)
    rw [format_plain state plain]
    simp [place, same]

/-- On a text with these lexemes the formatter places one after another. -/
theorem format_laid {written : List Lexeme} {units : List Nat} (laid : Laid written units) {text : List Char}
    (spelled : text.map Char.toNat = units) (state : List Char × Nat) :
    text.foldl formatStep (outside state) = outside (written.foldl place state) := by
  induction laid generalizing text state with
  | nil =>
    obtain rfl := List.map_eq_nil_iff.mp spelled
    rfl
  | blank space behind ih =>
    obtain ⟨c, rest, rfl, rfl, later⟩ := List.map_eq_cons_iff.mp spelled
    rw [List.foldl_cons, formatStep_space state space]
    exact ih later state
  | lexeme proper behind ih =>
    obtain ⟨front, rest, rfl, here, later⟩ := List.map_eq_append_iff.mp spelled
    rw [List.foldl_append, format_lexeme proper here, List.foldl_cons]
    exact ih later _

/-- The layout of lexemes. -/
def layout (written : List Lexeme) : List Char := (written.foldl place ([], 0)).1

theorem formatJsonText_laid {written : List Lexeme} {text : String} (laid : Laid written (units text)) :
    formatJsonText text = String.ofList (layout written) := by
  rw [formatJsonText, layout]
  exact congrArg (fun state => String.ofList state.result) (format_laid laid rfl ([], 0))

/-! ### The layout reads as its lexemes -/

/-- A lexeme that is written in characters. -/
structure Spells (written : Lexeme) : Prop where
  proper : Proper written
  spelled : (spelling written).map Char.toNat = written.text

theorem spells_of_laid {written : List Lexeme} {units : List Nat} (laid : Laid written units) {text : List Char}
    (spelled : text.map Char.toNat = units) : ∀ lexeme ∈ written, Spells lexeme := by
  induction laid generalizing text with
  | nil => exact fun _ member => absurd member List.not_mem_nil
  | blank space behind ih =>
    obtain ⟨c, rest, rfl, -, later⟩ := List.map_eq_cons_iff.mp spelled
    exact ih later
  | lexeme proper behind ih =>
    obtain ⟨front, rest, rfl, here, later⟩ := List.map_eq_append_iff.mp spelled
    refine List.forall_mem_cons.mpr ⟨⟨proper, ?_⟩, ih later⟩
    have same : (front.map Char.toNat).map Char.ofNat = front := by
      rw [List.map_map]
      exact (List.map_congr_left fun c _ => Char.ofNat_toNat c).trans (List.map_id _)
    rw [spelling, ← here, same]

theorem laid_line (depth : Nat) : Laid [] ((lineAt depth).map Char.toNat) := by
  apply laid_blanks
  intro unit member
  obtain ⟨c, inside, rfl⟩ := List.mem_map.mp member
  obtain rfl | blank := List.mem_cons.mp inside
  · rfl
  · rw [List.eq_of_mem_replicate blank]
    rfl

/-- The last character of a lexeme is no blank. -/
theorem last_visible {written : Lexeme} (proper : Proper written) {unit : Nat} (last : written.text.getLast? = some unit) :
    32 < unit ∧ unit < 127 := by
  cases proper with
  | @mark mark token marks =>
    obtain rfl : mark = unit := Option.some.inj last
    have listed := markOf_cases marks
    simp only [List.mem_cons, List.not_mem_nil, or_false, Prod.mk.injEq] at listed
    omega
  | string isBody =>
    rw [← List.cons_append, List.getLast?_append_of_ne_nil _ (List.cons_ne_nil _ _)] at last
    obtain rfl := Option.some.inj last
    decide
  | literal listed =>
    have all : ∀ text ∈ literalTexts, ∀ unit ∈ text, 32 < unit ∧ unit < 127 := by decide
    exact all _ listed unit (List.mem_of_getLast? last)
  | number nonempty part =>
    have inside := part.digits unit (List.mem_of_getLast? last)
    simp only [numeralUnit, isDigit, Bool.or_eq_true, Bool.and_eq_true, decide_eq_true_eq, beq_iff_eq] at inside
    omega

/-- A blank at the end can go. -/
theorem laid_pop {written : List Lexeme} {text front : List Nat} {unit : Nat} (laid : Laid written text) (shape : text = front ++ [unit])
    (hidden : unit ≤ 32 ∨ 127 ≤ unit) : Laid written front := by
  induction laid generalizing front with
  | nil => simp at shape
  | @blank written other text space behind ih =>
    cases front with
    | nil =>
      obtain rfl := (List.cons.inj shape).2
      exact behind
    | cons first front =>
      obtain ⟨rfl, later⟩ := List.cons.inj shape
      exact .blank space (ih later)
  | @lexeme first written text proper behind ih =>
    rcases List.eq_nil_or_concat text with rfl | ⟨text, last, rfl⟩
    · rw [List.append_nil] at shape
      have visible := @last_visible first proper unit (by rw [shape]; simp)
      omega
    · rw [List.concat_eq_append] at shape ih
      rw [← List.append_assoc] at shape
      obtain ⟨rfl, same⟩ := List.append_inj' shape rfl
      exact .lexeme proper (ih (by rw [List.singleton_inj.mp same]))

theorem laid_trimmed {written : List Lexeme} {text : List Char} (laid : Laid written (text.map Char.toNat)) :
    Laid written ((text.rdropWhile isJsWhitespace).map Char.toNat) := by
  induction text using List.reverseRecOn with
  | nil => exact laid
  | append_singleton text c ih =>
    rw [List.rdropWhile_concat]
    split
    next blank =>
      have shorter := laid_pop laid (List.map_append) (jsWhitespace_hidden blank)
      exact ih shorter
    next => exact laid

theorem laid_place {done : List Lexeme} {state : List Char × Nat} (laid : Laid done (state.1.map Char.toNat)) {written : Lexeme}
    (spells : Spells written) : Laid (done ++ [written]) ((place state written).1.map Char.toNat) := by
  have here : Laid [written] ((spelling written).map Char.toNat) := by
    rw [spells.spelled]
    exact laid_single spells.proper
  have after (blanks : List Char) (isLaid : Laid [] (blanks.map Char.toNat)) :
      Laid (done ++ [written]) ((state.1 ++ (spelling written ++ blanks)).map Char.toNat) := by
    rw [List.map_append, List.map_append]
    simpa using laid.append (here.append isLaid)
  have before : Laid (done ++ [written])
      ((state.1.rdropWhile isJsWhitespace ++ (lineAt (state.2 - 1) ++ spelling written)).map Char.toNat) := by
    rw [List.map_append, List.map_append]
    exact (laid_trimmed laid).append ((laid_line _).append here)
  have alone := after [] .nil
  rw [List.append_nil] at alone
  rw [place]
  cases written.token with
  | openArray | openObject => exact after _ (laid_line _)
  | closeArray | closeObject => exact before
  | comma => exact after _ (laid_line _)
  | colon => exact after [' '] (.blank rfl .nil)
  | literal | number | string => exact alone

theorem laid_layout {written : List Lexeme} (spells : ∀ lexeme ∈ written, Spells lexeme) :
    Laid written ((layout written).map Char.toNat) := by
  have run (done : List Lexeme) (state : List Char × Nat) (laid : Laid done (state.1.map Char.toNat)) :
      Laid (done ++ written) ((written.foldl place state).1.map Char.toNat) := by
    induction written generalizing done state with
    | nil => simpa using laid
    | cons first written ih =>
      obtain ⟨here, later⟩ := List.forall_mem_cons.mp spells
      have next := ih later (done ++ [first]) (place state first) (laid_place laid here)
      rwa [List.append_assoc] at next
  exact run [] ([], 0) .nil

/-- A document keeps its lexemes when it is formatted, and formatting it again changes nothing. -/
theorem formatJsonText_lexemes {text : String} (valid : TableEdits.jsonParses text = true) : ∃ written,
    lexemes (units text) = some written ∧ lexemes (units (formatJsonText text)) = some written ∧
      formatJsonText (formatJsonText text) = formatJsonText text := by
  obtain ⟨tokens, read, accepted⟩ := (Option.any_eq_true _ _).mp valid
  rw [tokens_eq] at read
  obtain ⟨written, scanned, rfl⟩ := Option.map_eq_some_iff.mp read
  have laid := laid_of_lexemes scanned
  have apart := apart_of_value ((accepts_iff _).mp accepted)
  have formatted := formatJsonText_laid laid
  have again : Laid written (units (formatJsonText text)) := by
    rw [formatted, units, String.toList_ofList]
    exact laid_layout (spells_of_laid laid rfl)
  refine ⟨written, scanned, lexemes_of_laid again apart, ?_⟩
  exact (formatJsonText_laid again).trans formatted.symm

theorem formatJsonText_lexemes_nested : ∃ written,
    lexemes (units "[1.50, \x7b\"a\": \"x, \\\"y\"\x7d]") = some written ∧
      lexemes (units (formatJsonText "[1.50, \x7b\"a\": \"x, \\\"y\"\x7d]")) = some written ∧
      formatJsonText (formatJsonText "[1.50, \x7b\"a\": \"x, \\\"y\"\x7d]") = formatJsonText "[1.50, \x7b\"a\": \"x, \\\"y\"\x7d]" :=
  formatJsonText_lexemes (by decide +kernel)

end Pipa.ResultExport
