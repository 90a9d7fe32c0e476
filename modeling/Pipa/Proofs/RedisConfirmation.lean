import Mathlib.Data.List.DropRight
import Pipa.ColumnPatterns
import Pipa.Proofs.RedisQuoting
import Pipa.RedisCommand

/-! The tokenizer against the whitespace split. A part of the split that is an ASCII name is the
argument the tokenizer reads, unless that argument goes on with a character that only one of the
two takes for whitespace, and that character is not ASCII. -/

namespace Pipa.Redis
open Text

/-! ### What the tokenizer does to the arguments read so far -/

/-- The arguments that are read stay, and the one that has started is only added to. -/
def Extends (state : ParseState) (arguments : List (List UInt8)) : Prop :=
  ∃ later, arguments = state.arguments ++ later ∧
    (state.started = true → ∃ more rest, later = (state.argument ++ more) :: rest)

theorem Extends.finish {state : ParseState} {arguments : List (List UInt8)} (goes : Extends state.finish arguments) :
    Extends state arguments := by
  obtain ⟨later, rfl, -⟩ := goes
  by_cases started : state.started = true
  · refine ⟨state.argument :: later, by simp [ParseState.finish, started], fun _ => ⟨[], later, by simp⟩⟩
  · exact ⟨later, by simp [ParseState.finish, started], fun begun => absurd begun started⟩

theorem Extends.push {state : ParseState} {bytes : List UInt8} {arguments : List (List UInt8)}
    (goes : Extends (state.push bytes) arguments) : Extends state arguments := by
  obtain ⟨later, same, begun⟩ := goes
  obtain ⟨more, rest, rfl⟩ := begun rfl
  exact ⟨_, same, fun _ => ⟨bytes ++ more, rest, by simp [ParseState.push]⟩⟩

theorem Extends.quote {state : ParseState} {quote : Option Char} {started : Bool} {arguments : List (List UInt8)}
    (goes : Extends { state with quote, started } arguments) (kept : state.started = true → started = true) :
    Extends state arguments := by
  obtain ⟨later, same, begun⟩ := goes
  exact ⟨later, same, fun held => begun (kept held)⟩

theorem parseCharacters_extends {state final : ParseState} {text : List Char} (parsed : parseCharacters state text = .ok final) :
    Extends state final.finish.arguments := by
  revert parsed
  fun_induction parseCharacters state text with
  | case1 state =>
    intro parsed
    obtain rfl := Except.ok.inj parsed
    exact Extends.finish ⟨[], (List.append_nil _).symm, fun started => by simp [ParseState.finish] at started; split at started <;> simp_all⟩
  | case2 state character rest blank ih => exact fun parsed => (ih parsed).finish
  | case3 state character rest blank quotes closes ih => exact fun parsed => (ih parsed).quote id
  | case4 state character rest blank quotes closes free ih => exact fun parsed => (ih parsed).quote fun _ => rfl
  | case5 state character rest blank quotes closes free ih => exact fun parsed => (ih parsed).push
  | case6 => intro parsed; cases parsed
  | case7 state high low rest byte value blank quotes ih => exact fun parsed => (ih parsed).push
  | case8 => intro parsed; cases parsed
  | case9 => intro parsed; cases parsed
  | case10 state escaped rest other blank quotes ih => exact fun parsed => (ih parsed).push
  | case11 state character rest blank quotes escape ih => exact fun parsed => (ih parsed).push

/-- A character the tokenizer adds to an argument as it stands. -/
def Plain (c : Char) : Prop := isWhitespace c = false ∧ c ≠ '\'' ∧ c ≠ '"' ∧ c ≠ '\\'

theorem parseCharacters_plain_open {state : ParseState} {c : Char} (plain : Plain c) (rest : List Char) :
    parseCharacters state (c :: rest) = parseCharacters (state.push (String.utf8EncodeChar c)) rest := by
  obtain ⟨visible, single, double, escape⟩ := plain
  rw [parseCharacters.eq_def]
  dsimp only
  rw [if_neg (by simp [visible]), if_neg (by simp [single, double]), if_neg escape]

/-- A word of such characters is added to the argument. -/
theorem parseCharacters_word {word : List Char} (plain : ∀ c ∈ word, Plain c) (nonempty : word ≠ []) (state : ParseState)
    (rest : List Char) :
    parseCharacters state (word ++ rest) = parseCharacters (state.push (word.flatMap String.utf8EncodeChar)) rest := by
  induction word generalizing state with
  | nil => exact absurd rfl nonempty
  | cons c word ih =>
    rw [List.cons_append, parseCharacters_plain_open (plain c List.mem_cons_self)]
    by_cases more : word = []
    · simp [more]
    · rw [ih (fun d member => plain d (List.mem_cons_of_mem _ member)) more]
      simp [ParseState.push]

theorem parseCharacters_blanks {blanks : List Char} (white : ∀ c ∈ blanks, isWhitespace c = true) {state : ParseState}
    (unquoted : state.quote = none) (between : state.started = false) (rest : List Char) :
    parseCharacters state (blanks ++ rest) = parseCharacters state rest := by
  induction blanks with
  | nil => rfl
  | cons c blanks ih =>
    rw [List.cons_append, parseCharacters.eq_def]
    dsimp only
    rw [if_pos ⟨unquoted, white c List.mem_cons_self⟩]
    have same : state.finish = state := by simp [ParseState.finish, between]
    rw [same, ih fun d member => white d (List.mem_cons_of_mem _ member)]

/-! ### One part of the split -/

/-- The argument has a character outside ASCII, which no command name has. -/
def NonAscii (argument : List UInt8) : Prop := ∃ byte ∈ argument, 128 ≤ byte.toNat

theorem nonAscii_encode {c : Char} (foreign : 128 ≤ c.toNat) : NonAscii (String.utf8EncodeChar c) := by
  have beyond : ¬ c.val.toNat ≤ 127 := by
    change ¬ c.toNat ≤ 127
    omega
  rw [String.utf8EncodeChar, if_neg beyond]
  split
  · refine ⟨_, List.mem_cons_self, ?_⟩
    rw [UInt8.toNat_ofNat']
    omega
  split
  · refine ⟨_, List.mem_cons_self, ?_⟩
    rw [UInt8.toNat_ofNat']
    omega
  · refine ⟨_, List.mem_cons_self, ?_⟩
    rw [UInt8.toNat_ofNat']
    omega

/-- An argument that has started and comes to a character outside ASCII. -/
theorem foreign_read {state final : ParseState} {c : Char} {rest : List Char} (plain : Plain c) (foreign : 128 ≤ c.toNat)
    (parsed : parseCharacters state (c :: rest) = .ok final) :
    ∃ argument later, final.finish.arguments = state.arguments ++ argument :: later ∧ NonAscii argument := by
  rw [parseCharacters_plain_open plain] at parsed
  obtain ⟨later, same, begun⟩ := parseCharacters_extends parsed
  obtain ⟨more, rest, rfl⟩ := begun rfl
  obtain ⟨byte, member, high⟩ := nonAscii_encode foreign
  refine ⟨_, _, same, byte, ?_, high⟩
  simp [ParseState.push, member]

/-- Whitespace of the split is whitespace of the tokenizer or a plain character outside ASCII. -/
theorem jsWhitespace_cases {c : Char} (blank : isJsWhitespace c = true) : isWhitespace c = true ∨ Plain c ∧ 128 ≤ c.toNat := by
  rw [isJsWhitespace, Bool.or_eq_true, Bool.and_eq_true, beq_iff_eq] at blank
  by_cases white : isWhitespace c = true
  · exact .inl white
  · have code := blank.resolve_left fun both => white both.1
    refine .inr ⟨⟨Bool.eq_false_iff.mpr white, ?_, ?_, ?_⟩, by omega⟩ <;> rintro rfl <;> cases code

theorem word_read {arguments : List (List UInt8)} {final : ParseState} {blanks word rest : List Char}
    (parsed : parseCharacters (between arguments) (blanks ++ (word ++ rest)) = .ok final)
    (white : ∀ c ∈ blanks, isJsWhitespace c = true) (plain : ∀ c ∈ word, Plain c) (nonempty : word ≠ [])
    (ends : ∀ c ∈ rest.head?, isJsWhitespace c = true) :
    (∃ argument later, final.finish.arguments = arguments ++ argument :: later ∧ NonAscii argument) ∨
      (∀ c ∈ word, c.toNat < 128) ∧
        ((rest = [] ∧ final.finish.arguments = arguments ++ [word.flatMap String.utf8EncodeChar]) ∨
          ∃ c others, rest = c :: others ∧
            parseCharacters (between (arguments ++ [word.flatMap String.utf8EncodeChar])) others = .ok final) := by
  induction blanks with
  | cons c blanks ih =>
    rcases jsWhitespace_cases (white c List.mem_cons_self) with blank | ⟨visible, foreign⟩
    · refine ih ?_ fun d member => white d (List.mem_cons_of_mem _ member)
      rw [← parsed]
      exact (@parseCharacters_blanks [c] (by simpa using blank) _ rfl rfl _).symm
    · exact .inl (foreign_read visible foreign parsed)
  | nil =>
    rw [List.nil_append, parseCharacters_word plain nonempty] at parsed
    by_cases ascii : ∀ c ∈ word, c.toNat < 128
    · cases rest with
      | nil =>
        obtain rfl := Except.ok.inj parsed
        exact .inr ⟨ascii, .inl ⟨rfl, rfl⟩⟩
      | cons c others =>
        rcases jsWhitespace_cases (ends c rfl) with blank | ⟨visible, foreign⟩
        · rw [parseCharacters.eq_def] at parsed
          dsimp only at parsed
          rw [if_pos ⟨rfl, blank⟩] at parsed
          exact .inr ⟨ascii, .inr ⟨c, others, rfl, parsed⟩⟩
        · obtain ⟨argument, later, same, high⟩ := foreign_read visible foreign parsed
          exact .inl ⟨argument, later, same, high⟩
    · obtain ⟨c, member, foreign⟩ : ∃ c ∈ word, 128 ≤ c.toNat := by simpa using ascii
      obtain ⟨byte, within, high⟩ := nonAscii_encode foreign
      obtain ⟨later, same, begun⟩ := parseCharacters_extends parsed
      obtain ⟨more, others, rfl⟩ := begun rfl
      refine .inl ⟨_, _, same, byte, List.mem_append_left _ (List.mem_append_right _ ?_), high⟩
      exact List.mem_flatMap.mpr ⟨c, member, within⟩

/-! ### Names in upper case -/

/-- What the upper-case mappings of Unicode say of ASCII and of whitespace, which has no case. -/
structure UpperCase (upper : Char → List Char) : Prop where
  ascii : ∀ c, c.toNat < 128 → upper c = [c.toUpper]
  blank : ∀ c, isWhitespace c = true → upper c = [c]

def isNameCharacter (c : Char) : Bool := c.isUpper || c == '_' || c == '-'

/-- A part of the split that is one of the names in upper case. -/
def Part (upper : Char → List Char) (part : List Char) (names : List String) : Prop :=
  toUpperCase upper (String.ofList part) ∈ names

/-- The argument is one of the names, whatever the case of its ASCII letters. -/
def Names (argument : List UInt8) (names : List String) : Prop :=
  ∃ text, argument = utf8 text ∧ toAsciiUppercase text ∈ names

def wellNamed (names : List String) : Bool := names.all fun name => !name.toList.isEmpty && name.toList.all isNameCharacter

section
variable {upper : Char → List Char} {part : List Char} {names : List String}

theorem Part.name (named : Part upper part names) (well : wellNamed names = true) :
    part ≠ [] ∧ ∀ c ∈ part, ∀ d ∈ upper c, isNameCharacter d = true := by
  have known := List.all_eq_true.mp well _ named
  rw [toUpperCase, String.toList_ofList, String.toList_ofList, Bool.and_eq_true, Bool.not_eq_true'] at known
  constructor
  · rintro rfl
    cases known.1
  · intro c member d within
    exact List.all_eq_true.mp known.2 d (List.mem_flatMap.mpr ⟨c, member, within⟩)

theorem nameCharacter_visible {c : Char} (name : isNameCharacter c = true) : isWhitespace c = false := by
  have codes : (65 ≤ c.toNat ∧ c.toNat ≤ 90) ∨ c.toNat = 95 ∨ c.toNat = 45 := by
    rw [isNameCharacter, Bool.or_eq_true, Bool.or_eq_true, beq_iff_eq, beq_iff_eq, or_assoc] at name
    rcases name with upper | rfl | rfl
    · change decide (c.val ≥ 'A'.val ∧ c.val ≤ 'Z'.val) = true at upper
      obtain ⟨low, high⟩ := of_decide_eq_true upper
      exact .inl ⟨UInt32.le_iff_toNat_le.mp low, UInt32.le_iff_toNat_le.mp high⟩
    · exact .inr (.inl rfl)
    · exact .inr (.inr rfl)
  simp [isWhitespace]
  omega

theorem Part.plain (cased : UpperCase upper) (named : Part upper part names) (well : wellNamed names = true) : ∀ c ∈ part, Plain c := by
  intro c member
  have spelled := (named.name well).2 c member
  have letter (d : Char) (same : c = d) (low : d.toNat < 128) : isNameCharacter d.toUpper = true := by
    subst same
    exact spelled _ (by rw [cased.ascii c low]; exact List.mem_singleton_self _)
  refine ⟨?_, ?_, ?_, ?_⟩
  · by_contra blank
    have white := (Bool.not_eq_false _).mp blank
    have name := spelled c (by rw [cased.blank c white]; exact List.mem_singleton_self _)
    exact blank (nameCharacter_visible name)
  · intro same
    exact absurd (letter _ same (by decide)) (by decide)
  · intro same
    exact absurd (letter _ same (by decide)) (by decide)
  · intro same
    exact absurd (letter _ same (by decide)) (by decide)

theorem Part.ascii (cased : UpperCase upper) (named : Part upper part names) (ascii : ∀ c ∈ part, c.toNat < 128) :
    Names (part.flatMap String.utf8EncodeChar) names := by
  refine ⟨String.ofList part, (utf8_ofList part).symm, ?_⟩
  have same : part.flatMap upper = part.map Char.toUpper := by
    rw [List.map_eq_flatMap]
    exact List.flatMap_congr fun c member => cased.ascii c (ascii c member)
  rw [Part, toUpperCase, String.toList_ofList, same] at named
  rw [toAsciiUppercase, String.toList_ofList]
  exact named

/-- A part of the split that is a name, and the argument the tokenizer reads for it. -/
theorem Part.read (cased : UpperCase upper) (named : Part upper part names) (well : wellNamed names = true)
    {arguments : List (List UInt8)} {final : ParseState} {blanks rest : List Char}
    (parsed : parseCharacters (between arguments) (blanks ++ (part ++ rest)) = .ok final)
    (white : ∀ c ∈ blanks, isJsWhitespace c = true) (ends : ∀ c ∈ rest.head?, isJsWhitespace c = true) :
    ∃ argument later, final.finish.arguments = arguments ++ argument :: later ∧
      (NonAscii argument ∨ Names argument names ∧ ((rest = [] ∧ later = []) ∨
        ∃ c others, rest = c :: others ∧ parseCharacters (between (arguments ++ [argument])) others = .ok final)) := by
  rcases word_read parsed white (named.plain cased well) (named.name well).1 ends with
    ⟨argument, later, same, foreign⟩ | ⟨ascii, ⟨done, same⟩ | ⟨c, others, done, parsed⟩⟩
  · exact ⟨argument, later, same, .inl foreign⟩
  · exact ⟨_, [], same, .inr ⟨named.ascii cased ascii, .inl ⟨done, rfl⟩⟩⟩
  · obtain ⟨later, same, -⟩ := parseCharacters_extends parsed
    refine ⟨_, later, ?_, .inr ⟨named.ascii cased ascii, .inr ⟨c, others, done, parsed⟩⟩⟩
    rw [same]
    simp [between]

end

/-! ### Both parts -/

/-- The commands that are read-only with one of these subcommands. -/
def redisReadOnlySubcommands : List (String × List String) :=
  [("MEMORY", ["DOCTOR", "MALLOC-STATS", "STATS", "USAGE"]), ("SCRIPT", ["EXISTS"]), ("CONFIG", ["GET"])]

/-- Text around what `trim` leaves. -/
theorem jsTrim_around (command : String) : ∃ before after, command.toList = before ++ ((jsTrim command).toList ++ after) ∧
    (∀ c ∈ before, isJsWhitespace c = true) ∧ ∀ c ∈ after, isJsWhitespace c = true := by
  refine ⟨command.toList.takeWhile isJsWhitespace, (command.toList.dropWhile isJsWhitespace).rtakeWhile isJsWhitespace, ?_,
    fun c => List.mem_takeWhile_imp, fun c => List.mem_rtakeWhile_imp⟩
  rw [jsTrim, trimMatches, trimEndMatches, trimStartMatches, String.toList_ofList, String.toList_ofList,
    List.rdropWhile_append_rtakeWhile, List.takeWhile_append_dropWhile]

theorem head_dropWhile_blank {text after : List Char} (white : ∀ c ∈ after, isJsWhitespace c = true) :
    ∀ c ∈ ((text.dropWhile fun c => !isJsWhitespace c) ++ after).head?, isJsWhitespace c = true := by
  intro c first
  cases left : text.dropWhile fun c => !isJsWhitespace c with
  | nil =>
    rw [left] at first
    exact white c (List.mem_of_mem_head? first)
  | cons d others =>
    have kept : (text.dropWhile fun c => !isJsWhitespace c) ≠ [] := by simp [left]
    have here := List.head_dropWhile_not (fun c => !isJsWhitespace c) kept
    rw [left] at first
    simp only [left, List.head_cons, Bool.not_eq_false'] at here
    obtain rfl := Option.some.inj first
    exact here

variable {upper : Char → List Char}

/-- A command that needs no confirmation names a read-only command first. -/
theorem unconfirmed_parts {command : String} (unconfirmed : redisCommandNeedsProductionConfirmation upper command = false) :
    toUpperCase upper (firstParts command).1 ∈ redisReadOnlyCommands ∨
      ∃ name allowed, (name, allowed) ∈ redisReadOnlySubcommands ∧ toUpperCase upper (firstParts command).1 ∈ [name] ∧
        toUpperCase upper (firstParts command).2 ∈ allowed := by
  rw [redisCommandNeedsProductionConfirmation] at unconfirmed
  split at unconfirmed
  case isTrue memory =>
    refine .inr ⟨_, _, List.mem_cons_self, List.mem_singleton.mpr memory, List.contains_iff_mem.mp ?_⟩
    simpa only [Bool.not_eq_false'] using unconfirmed
  split at unconfirmed
  case isTrue script =>
    refine .inr ⟨_, _, List.mem_cons_of_mem _ List.mem_cons_self, List.mem_singleton.mpr script, ?_⟩
    simpa using unconfirmed
  split at unconfirmed
  case isTrue config =>
    refine .inr ⟨_, _, List.mem_cons_of_mem _ (List.mem_cons_of_mem _ List.mem_cons_self), List.mem_singleton.mpr config, ?_⟩
    simpa using unconfirmed
  case isFalse =>
    refine .inl (List.contains_iff_mem.mp ?_)
    simpa only [Bool.not_eq_false'] using unconfirmed

theorem wellNamed_readOnly : wellNamed redisReadOnlyCommands = true := by decide +kernel

theorem wellNamed_subcommands : ∀ entry ∈ redisReadOnlySubcommands, wellNamed [entry.1] = true ∧ wellNamed entry.2 = true := by
  decide +kernel

/-- The text behind the first part: one blank, others, the second part and the rest. -/
theorem second_part {text after : List Char} {c : Char} {others : List Char}
    (behind : (text.dropWhile fun c => !isJsWhitespace c) ++ after = c :: others)
    (nonempty : ((text.dropWhile fun c => !isJsWhitespace c).dropWhile isJsWhitespace).takeWhile (fun c => !isJsWhitespace c) ≠ []) :
    ∃ blanks remaining : List Char, (∀ c ∈ blanks, isJsWhitespace c = true) ∧
      others = blanks ++ (((text.dropWhile fun c => !isJsWhitespace c).dropWhile isJsWhitespace).takeWhile (fun c => !isJsWhitespace c) ++
        ((remaining.dropWhile fun c => !isJsWhitespace c) ++ after)) := by
  have kept : (text.dropWhile fun c => !isJsWhitespace c) ≠ [] := by
    intro none
    simp [none] at nonempty
  have blank := List.head_dropWhile_not (fun c => !isJsWhitespace c) kept
  cases left : text.dropWhile fun c => !isJsWhitespace c with
  | nil => exact absurd left kept
  | cons d rest =>
    simp only [left, List.head_cons, Bool.not_eq_false'] at blank
    rw [left] at behind
    obtain ⟨rfl, rfl⟩ := List.cons.inj behind
    refine ⟨rest.takeWhile isJsWhitespace, rest.dropWhile isJsWhitespace, fun c => List.mem_takeWhile_imp, ?_⟩
    rw [List.dropWhile_cons_of_pos blank, ← List.append_assoc, ← List.append_assoc, List.append_assoc _ (List.takeWhile _ _),
      List.takeWhile_append_dropWhile, List.takeWhile_append_dropWhile]
    rfl

/-- A command that runs in production without confirmation: the first argument that is sent is a
read-only command, or it is one with a read-only subcommand behind it, or the argument that
decides this has a character outside ASCII. -/
theorem unconfirmed_reads (cased : UpperCase upper) (command : String) (arguments : List (List UInt8))
    (unconfirmed : redisCommandNeedsProductionConfirmation upper command = false)
    (parsed : parseCommand command = .ok arguments) :
    ∃ first rest, arguments = first :: rest ∧
      (NonAscii first ∨ Names first redisReadOnlyCommands ∨
        ∃ name allowed, (name, allowed) ∈ redisReadOnlySubcommands ∧ Names first [name] ∧
          ∃ second others, rest = second :: others ∧ (NonAscii second ∨ Names second allowed)) := by
  obtain ⟨final, read, -, rfl, -⟩ := (parseCommand_ok (parseCommand_small parsed) _).mp parsed
  obtain ⟨before, after, around, lead, trail⟩ := jsTrim_around command
  have parts := unconfirmed_parts unconfirmed
  rw [firstParts] at parts
  generalize (jsTrim command).toList = text at around parts
  -- the text as the split takes it apart
  have split : text = (text.takeWhile fun c => !isJsWhitespace c) ++ text.dropWhile fun c => !isJsWhitespace c :=
    List.takeWhile_append_dropWhile.symm
  rw [around, split, List.append_assoc] at read
  rcases parts with named | ⟨name, allowed, known, named, second⟩
  · obtain ⟨first, rest, same, holds⟩ := Part.read cased named wellNamed_readOnly read lead (head_dropWhile_blank trail)
    exact ⟨first, rest, same, holds.imp id fun names => .inl names.1⟩
  obtain ⟨wellNamed, wellAllowed⟩ := wellNamed_subcommands _ known
  obtain ⟨first, rest, same, foreign | ⟨names, next⟩⟩ := Part.read cased named wellNamed read lead (head_dropWhile_blank trail)
  · exact ⟨first, rest, same, .inl foreign⟩
  refine ⟨first, rest, same, .inr (.inr ⟨name, allowed, known, names, ?_⟩)⟩
  have nonempty := (Part.name second wellAllowed).1
  rcases next with ⟨ended, -⟩ | ⟨c, others, behind, read⟩
  · have none := (List.append_eq_nil_iff.mp ended).1
    simp [none] at nonempty
  obtain ⟨blanks, remaining, white, shape⟩ := second_part behind nonempty
  rw [shape] at read
  obtain ⟨argument, later, both, holds⟩ := Part.read cased second wellAllowed read white (head_dropWhile_blank trail)
  have tail : rest = argument :: later := (List.cons.inj (same.symm.trans both)).2
  exact ⟨argument, later, tail, holds.imp id fun names => names.1⟩

/-- The upper case of a text of ASCII characters only. -/
def asciiUpper (c : Char) : List Char := [c.toUpper]

theorem asciiUpper_cased : UpperCase asciiUpper := by
  refine ⟨fun c _ => rfl, fun c blank => ?_⟩
  have same : c.toUpper = c := by
    rw [← Char.toNat_inj, ColumnPatterns.toUpper_toNat, if_neg]
    simp [isWhitespace] at blank
    omega
  rw [asciiUpper, same]

def getCommand : List Char := ['G', 'e', 't', ' ', 'k']

theorem getCommand_parsed : parseCommand (String.ofList getCommand) = .ok [[71, 101, 116], [107]] := by
  have short : ¬ (utf8 (String.ofList getCommand)).length > maxCommandBytes := by
    rw [utf8_ofList]
    decide
  rw [parseCommand, if_neg short, String.toList_ofList]
  rfl

theorem getCommand_unconfirmed : redisCommandNeedsProductionConfirmation asciiUpper (String.ofList getCommand) = false := by
  have parts : firstParts (String.ofList getCommand) = (String.ofList ['G', 'e', 't'], String.ofList ['k']) := by
    rw [firstParts, jsTrim, trimMatches, trimEndMatches, trimStartMatches, String.toList_ofList, String.toList_ofList,
      String.toList_ofList]
    rfl
  rw [redisCommandNeedsProductionConfirmation, parts, toUpperCase, toUpperCase, String.toList_ofList, String.toList_ofList]
  decide +kernel

theorem unconfirmed_reads_get :
    ∃ first rest, [[71, 101, 116], [107]] = first :: rest ∧
      (NonAscii first ∨ Names first redisReadOnlyCommands ∨
        ∃ name allowed, (name, allowed) ∈ redisReadOnlySubcommands ∧ Names first [name] ∧
          ∃ second others, rest = second :: others ∧ (NonAscii second ∨ Names second allowed)) :=
  unconfirmed_reads asciiUpper_cased (String.ofList getCommand) _ getCommand_unconfirmed getCommand_parsed

end Pipa.Redis
