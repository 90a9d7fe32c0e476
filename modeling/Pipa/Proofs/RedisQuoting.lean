import Mathlib.Data.List.Forall2
import Pipa.RedisCommand

/-! Quoted arguments joined by blanks are tokenized into exactly the bytes they were
quoted from, and an inspection command gives back its key. -/

namespace Pipa.Redis
open Text

/-! ### Quoting -/

/-- The five replacements, one after the other, escape every character on its own. -/
def escaped (c : Char) : List Char :=
  if c = '\\' then ['\\', '\\'] else if c = '"' then ['\\', '"'] else if c = '\n' then ['\\', 'n']
  else if c = '\r' then ['\\', 'r'] else if c = '\t' then ['\\', 't'] else [c]

theorem replace_toList (old : Char) (new text : String) :
    (replace old new text).toList = text.toList.flatMap fun c => if c = old then new.toList else [c] := by
  rw [replace, String.toList_ofList]

theorem quoteRedisArgument_toList (value : String) :
    (quoteRedisArgument value).toList = '"' :: (value.toList.flatMap escaped ++ ['"']) := by
  have eachCharacter : (replace '\t' "\\t" (replace '\r' "\\r" (replace '\n' "\\n" (replace '"' "\\\""
      (replace '\\' "\\\\" value))))).toList = value.toList.flatMap escaped := by
    simp only [replace_toList, List.flatMap_assoc]
    congr 1
    funext c
    by_cases backslash : c = '\\'
    · subst backslash
      decide
    by_cases quote : c = '"'
    · subst quote
      decide
    by_cases newline : c = '\n'
    · subst newline
      decide
    by_cases return' : c = '\r'
    · subst return'
      decide
    by_cases tab : c = '\t'
    · subst tab
      decide
    simp [escaped, backslash, quote, newline, return', tab]
  simp only [quoteRedisArgument, String.toList_append, eachCharacter]
  rfl

theorem hex_digits : ∀ value : Fin 16, hexValue (hexDigit value) = some value.val ∧ hexDigit value ≠ '+' := by decide

theorem hexByte_hexText (byte : UInt8) : hexByte (hexDigit (byte.toNat / 16)) (hexDigit (byte.toNat % 16)) = some byte := by
  have below := byte.toNat_lt
  obtain ⟨upper, sign⟩ := hex_digits ⟨byte.toNat / 16, by omega⟩
  obtain ⟨lower, -⟩ := hex_digits ⟨byte.toNat % 16, by omega⟩
  rw [hexByte, lower]
  dsimp only
  have whole : UInt8.ofNat (16 * (byte.toNat / 16) + byte.toNat % 16) = byte := Base64.ofNat_eq (by omega)
  rw [if_neg sign, upper, Option.map_some, whole]

/-! ### Tokenizing -/

example (state : ParseState) : parseCharacters state [] = .ok state := by rw [parseCharacters.eq_def]

/-- Within double quotes this text stands for these bytes. -/
def Reads (text : List Char) (bytes : List UInt8) : Prop :=
  ∀ (state : ParseState) (rest : List Char), state.quote = some '"' → state.started = true →
    parseCharacters state (text ++ rest) = parseCharacters { state with argument := state.argument ++ bytes } rest

theorem Reads.nil : Reads [] [] := by
  intro state rest _ _
  simp

theorem Reads.append {text others : List Char} {bytes more : List UInt8} (first : Reads text bytes)
    (later : Reads others more) : Reads (text ++ others) (bytes ++ more) := by
  intro state rest quoted started
  have next := later { state with argument := state.argument ++ bytes } rest quoted started
  rw [List.append_assoc, first state _ quoted started, next]
  simp only [List.append_assoc]

theorem Reads.flatMap {α : Type} {write : α → List Char} {bytes : α → List UInt8}
    (each : ∀ item, Reads (write item) (bytes item)) (items : List α) :
    Reads (items.flatMap write) (items.flatMap bytes) := by
  induction items with
  | nil => exact .nil
  | cons item items ih => exact (each item).append ih

theorem push_eq {state : ParseState} (started : state.started = true) (bytes : List UInt8) :
    state.push bytes = { state with argument := state.argument ++ bytes } := by
  cases state
  cases started
  rfl

theorem parseCharacters_escape (state : ParseState) {c : Char} (other : c ≠ 'x') (rest : List Char) :
    parseCharacters state ('\\' :: c :: rest) = parseCharacters (state.push (String.utf8EncodeChar (unescapeCharacter c))) rest := by
  have visible : ¬(state.quote = none ∧ isWhitespace '\\' = true) := fun both => absurd both.2 (by decide)
  rw [parseCharacters.eq_def]
  dsimp only
  rw [if_neg visible, if_neg (by decide), if_pos rfl, if_neg other]

theorem parseCharacters_hex (state : ParseState) {high low : Char} {byte : UInt8} (value : hexByte high low = some byte)
    (rest : List Char) : parseCharacters state ('\\' :: 'x' :: high :: low :: rest) = parseCharacters (state.push [byte]) rest := by
  have visible : ¬(state.quote = none ∧ isWhitespace '\\' = true) := fun both => absurd both.2 (by decide)
  rw [parseCharacters.eq_def]
  dsimp only
  rw [if_neg visible, if_neg (by decide), if_pos rfl, if_pos rfl, value]

theorem parseCharacters_plain {state : ParseState} {quote c : Char} (quoted : state.quote = some quote) (noQuote : c ≠ quote)
    (noEscape : c ≠ '\\') (rest : List Char) :
    parseCharacters state (c :: rest) = parseCharacters (state.push (String.utf8EncodeChar c)) rest := by
  have open' : state.quote ≠ some c := by simp [quoted, noQuote.symm]
  rw [parseCharacters.eq_def]
  dsimp only
  rw [if_neg (by simp [quoted])]
  by_cases isQuote : c = '\'' ∨ c = '"'
  · rw [if_pos isQuote, if_neg open', if_neg (by simp [quoted])]
  · rw [if_neg isQuote, if_neg noEscape]

theorem escaped_reads (c : Char) : Reads (escaped c) (String.utf8EncodeChar c) := by
  intro state rest quoted started
  rw [← push_eq started, escaped]
  split
  next backslash =>
    subst backslash
    exact parseCharacters_escape state (by decide) rest
  next backslash =>
    split
    next quote =>
      subst quote
      exact parseCharacters_escape state (by decide) rest
    next quote =>
      split
      next newline =>
        subst newline
        exact parseCharacters_escape state (by decide) rest
      split
      next return' =>
        subst return'
        exact parseCharacters_escape state (by decide) rest
      split
      next tab =>
        subst tab
        exact parseCharacters_escape state (by decide) rest
      exact parseCharacters_plain quoted quote backslash rest

theorem hex_reads (byte : UInt8) : Reads (['\\', 'x'] ++ hexText byte) [byte] := by
  intro state rest quoted started
  rw [← push_eq started]
  exact parseCharacters_hex state (hexByte_hexText byte) rest

/-- The text is one quoted argument for the bytes. -/
def Spells (text : String) (bytes : List UInt8) : Prop :=
  ∃ body, text.toList = '"' :: (body ++ ['"']) ∧ Reads body bytes

theorem quoteRedisArgument_spells (value : String) : Spells (quoteRedisArgument value) (utf8 value) := by
  refine ⟨_, quoteRedisArgument_toList value, ?_⟩
  have bytes : utf8 value = value.toList.flatMap String.utf8EncodeChar := by
    rw [← utf8_ofList, String.ofList_toList]
  exact bytes ▸ Reads.flatMap escaped_reads value.toList

theorem quoteRedisBinaryArgument_spells {value text : String} {bytes : List UInt8}
    (decodes : Base64.atob (jsTrim value).toList = some bytes) (quoted : quoteRedisBinaryArgument value = some text) :
    Spells text bytes := by
  rw [quoteRedisBinaryArgument, decodes] at quoted
  obtain rfl := Option.some.inj quoted
  refine ⟨bytes.flatMap fun byte => ['\\', 'x'] ++ hexText byte, ?_, ?_⟩
  · simp only [String.toList_append, String.toList_ofList]
    rfl
  · simpa using Reads.flatMap hex_reads bytes

/-- The state between two arguments. -/
def between (arguments : List (List UInt8)) : ParseState :=
  { arguments, argument := [], quote := none, started := false }

/-- The state behind the closing quote of an argument. -/
def behind (arguments : List (List UInt8)) (argument : List UInt8) : ParseState :=
  { arguments, argument, quote := none, started := true }

theorem Spells.read {text : String} {bytes : List UInt8} (spelling : Spells text bytes) (arguments : List (List UInt8))
    (rest : List Char) : parseCharacters (between arguments) (text.toList ++ rest) = parseCharacters (behind arguments bytes) rest := by
  obtain ⟨body, shape, reads⟩ := spelling
  have opened : parseCharacters (between arguments) ('"' :: (body ++ ('"' :: rest))) =
      parseCharacters { between arguments with quote := some '"', started := true } (body ++ ('"' :: rest)) := by
    rw [parseCharacters.eq_def]
    dsimp only
    rw [if_neg (by simp [between, isWhitespace]), if_pos (by decide), if_neg (by simp [between]), if_pos (by rfl : (between arguments).quote = none)]
  have closed : ∀ state : ParseState, state.quote = some '"' →
      parseCharacters state ('"' :: rest) = parseCharacters { state with quote := none } rest := by
    intro state quoted
    rw [parseCharacters.eq_def]
    dsimp only
    rw [if_neg (by simp [quoted]), if_pos (by decide), if_pos quoted]
  rw [shape, List.cons_append, List.append_assoc, List.singleton_append, opened, reads _ _ rfl rfl, closed _ rfl]
  rfl

theorem parseCharacters_blank (arguments : List (List UInt8)) (argument : List UInt8) (rest : List Char) :
    parseCharacters (behind arguments argument) (' ' :: rest) = parseCharacters (between (arguments ++ [argument])) rest := by
  rw [parseCharacters.eq_def]
  dsimp only
  rw [if_pos ⟨rfl, by decide⟩]
  rfl

/-- Arguments joined by blanks, after those already read. -/
theorem parseCharacters_joined {texts : List String} {contents : List (List UInt8)} (spellings : List.Forall₂ Spells texts contents)
    (nonempty : texts ≠ []) (arguments : List (List UInt8)) :
    ∃ state, parseCharacters (between arguments) (String.intercalate " " texts).toList = .ok state ∧ state.quote = none ∧
      state.finish.arguments = arguments ++ contents := by
  induction spellings generalizing arguments with
  | nil => exact absurd rfl nonempty
  | @cons text bytes texts contents spelling spellings ih =>
    cases spellings with
    | nil =>
      refine ⟨behind arguments bytes, ?_, rfl, rfl⟩
      have alone := spelling.read arguments []
      simpa [String.toList_intercalate, parseCharacters] using alone
    | @cons next nextBytes others more _ _ =>
      obtain ⟨state, parsed, closed, finished⟩ := ih (by simp) (arguments ++ [bytes])
      refine ⟨state, ?_, closed, by simpa using finished⟩
      have joined : (String.intercalate " " (text :: next :: others)).toList =
          text.toList ++ ' ' :: (String.intercalate " " (next :: others)).toList := by
        simp [String.toList_intercalate, List.intercalate]
      rw [joined, spelling.read, parseCharacters_blank, parsed]

/-- One argument of a command, with the Base64 text that stands for its bytes. -/
inductive Argument where
  | text (value : String)
  | binary (value : String) (bytes : List UInt8) (decodes : Base64.atob (jsTrim value).toList = some bytes)

def Argument.bytes : Argument → List UInt8
  | .text value => utf8 value
  | .binary _ bytes _ => bytes

def Argument.quote : Argument → Option String
  | .text value => some (quoteRedisArgument value)
  | .binary value _ _ => quoteRedisBinaryArgument value

theorem Argument.quote_spells (argument : Argument) : ∃ text, argument.quote = some text ∧ Spells text argument.bytes := by
  cases argument with
  | text value => exact ⟨_, rfl, quoteRedisArgument_spells value⟩
  | binary value bytes decodes =>
    have quoted : ∃ text, quoteRedisBinaryArgument value = some text := by simp [quoteRedisBinaryArgument, decodes]
    obtain ⟨text, quoted⟩ := quoted
    exact ⟨text, quoted, quoteRedisBinaryArgument_spells decodes quoted⟩

theorem quote_all (arguments : List Argument) : ∃ texts, arguments.mapM Argument.quote = some texts ∧
    List.Forall₂ Spells texts (arguments.map Argument.bytes) := by
  induction arguments with
  | nil => exact ⟨[], rfl, .nil⟩
  | cons argument arguments ih =>
    obtain ⟨text, quoted, spelling⟩ := argument.quote_spells
    obtain ⟨texts, quotedAll, spellings⟩ := ih
    refine ⟨text :: texts, ?_, .cons spelling spellings⟩
    simp only [List.mapM_cons, quoted, quotedAll]
    rfl

theorem parseCommand_small {command : String} {arguments : List (List UInt8)} (parsed : parseCommand command = .ok arguments) :
    (utf8 command).length ≤ maxCommandBytes := by
  by_contra large
  rw [parseCommand, if_pos (Nat.not_le.mp large)] at parsed
  cases parsed

theorem parseCommand_ok {command : String} (small : (utf8 command).length ≤ maxCommandBytes) (arguments : List (List UInt8)) :
    parseCommand command = .ok arguments ↔ ∃ state, parseCharacters (between []) command.toList = .ok state ∧ state.quote = none ∧
      state.finish.arguments = arguments ∧ arguments ≠ [] := by
  rw [parseCommand, if_neg (Nat.not_lt.mpr small)]
  change ((parseCharacters (between []) command.toList) >>= _) = _ ↔ _
  cases parseCharacters (between []) command.toList with
  | error error =>
    constructor
    · intro accepted
      cases accepted
    · intro ⟨state, parsed, _⟩
      cases parsed
  | ok state =>
    simp only [bind, Except.bind]
    constructor
    · intro accepted
      split at accepted
      next => cases accepted
      next closed =>
        split at accepted
        next => cases accepted
        next nonempty =>
          obtain rfl := Except.ok.inj accepted
          exact ⟨state, rfl, Decidable.not_not.mp closed, rfl, nonempty⟩
    · intro ⟨reached, parsed, closed, finished, nonempty⟩
      obtain rfl := Except.ok.inj parsed
      rw [if_neg (not_not.mpr closed), finished, if_neg nonempty]
      rfl

theorem parseCommand_joined {texts : List String} {contents : List (List UInt8)} (spellings : List.Forall₂ Spells texts contents)
    (nonempty : texts ≠ []) (small : (utf8 (String.intercalate " " texts)).length ≤ maxCommandBytes) :
    parseCommand (String.intercalate " " texts) = .ok contents := by
  obtain ⟨state, parsed, closed, finished⟩ := parseCharacters_joined spellings nonempty []
  have present : contents ≠ [] := by
    rintro rfl
    cases spellings
    exact nonempty rfl
  exact (parseCommand_ok small contents).mpr ⟨state, parsed, closed, finished, present⟩

/-! ### Inspection commands -/

theorem quotedBody_single {c : Char} {rest body : List Char} (noQuote : c ≠ '"') (noEscape : c ≠ '\\')
    (later : quotedBody rest = some body) : quotedBody (c :: rest) = some (c :: body) := by
  rw [quotedBody.eq_def]
  dsimp only
  rw [if_neg noQuote, later]
  cases rest <;> simp [noEscape]

theorem quotedBody_escape {c : Char} {rest body : List Char} (visible : isLineTerminator c = false)
    (later : quotedBody rest = some body) : quotedBody ('\\' :: c :: rest) = some ('\\' :: c :: body) := by
  rw [quotedBody.eq_def]
  dsimp only
  rw [if_neg (by decide), if_pos ⟨rfl, visible⟩, later]
  rfl

theorem quotedBody_escaped {c : Char} {rest body : List Char} (later : quotedBody rest = some body) :
    quotedBody (escaped c ++ rest) = some (escaped c ++ body) := by
  rw [escaped]
  split
  · exact quotedBody_escape (by decide) later
  next backslash =>
    split
    · exact quotedBody_escape (by decide) later
    next quote =>
      split
      · exact quotedBody_escape (by decide) later
      split
      · exact quotedBody_escape (by decide) later
      split
      · exact quotedBody_escape (by decide) later
      exact quotedBody_single quote backslash later

/-- The match ends at the closing quote. -/
theorem quotedBody_quoted (key rest : List Char) :
    quotedBody (key.flatMap escaped ++ '"' :: rest) = some (key.flatMap escaped) := by
  induction key with
  | nil =>
    rw [List.flatMap_nil, List.nil_append, quotedBody.eq_def]
    exact if_pos rfl
  | cons c key ih =>
    rw [List.flatMap_cons, List.append_assoc]
    exact quotedBody_escaped ih

theorem decodeEscapes_escape {c : Char} (known : c ∈ ['\\', 'n', 'r', 't', '"']) (rest : List Char) :
    decodeEscapes ('\\' :: c :: rest) = unescapeCharacter c :: decodeEscapes rest := by
  rw [decodeEscapes, if_pos rfl, if_pos known]

theorem decodeEscapes_plain {c : Char} (noEscape : c ≠ '\\') (rest : List Char) :
    decodeEscapes (c :: rest) = c :: decodeEscapes rest := by
  rw [decodeEscapes.eq_def]
  exact if_neg noEscape

theorem decodeEscapes_escaped (c : Char) (rest : List Char) : decodeEscapes (escaped c ++ rest) = c :: decodeEscapes rest := by
  rw [escaped]
  split
  next backslash =>
    subst backslash
    exact decodeEscapes_escape (by decide) rest
  next backslash =>
    split
    next quote =>
      subst quote
      exact decodeEscapes_escape (by decide) rest
    split
    next newline =>
      subst newline
      exact decodeEscapes_escape (by decide) rest
    split
    next return' =>
      subst return'
      exact decodeEscapes_escape (by decide) rest
    split
    next tab =>
      subst tab
      exact decodeEscapes_escape (by decide) rest
    exact decodeEscapes_plain backslash rest

theorem decodeEscapes_flatMap (key : List Char) : decodeEscapes (key.flatMap escaped) = key := by
  induction key with
  | nil => rfl
  | cons c key ih => rw [List.flatMap_cons, decodeEscapes_escaped, ih]

theorem inspectionKeyFromSql_type (key suffix : String) :
    inspectionKeyFromSql ("TYPE " ++ quoteRedisArgument key ++ suffix) = some key := by
  have shape : ("TYPE " ++ quoteRedisArgument key ++ suffix).toList =
      'T' :: 'Y' :: 'P' :: 'E' :: ' ' :: '"' :: (key.toList.flatMap escaped ++ '"' :: suffix.toList) := by
    simp [quoteRedisArgument_toList]
  have behindType : afterType ("TYPE " ++ quoteRedisArgument key ++ suffix).toList =
      some ('"' :: (key.toList.flatMap escaped ++ '"' :: suffix.toList)) := by
    have blank : isJsWhitespace ' ' = true := by decide
    have quote : isJsWhitespace '"' = false := by decide
    have word : eqIgnoreAsciiCase (String.ofList ['T', 'Y', 'P', 'E']) "TYPE" = true := by decide
    rw [shape, afterType]
    simp [blank, quote, word]
  rw [inspectionKeyFromSql, behindType]
  simp only [List.head?_cons, if_true, List.tail_cons, quotedBody_quoted, decodeEscapes_flatMap, String.ofList_toList]

/-- Base64 text has no space to trim. -/
theorem jsTrim_encode (bytes : List UInt8) :
    Base64.atob (jsTrim (String.ofList (Base64.encode bytes))).toList = some bytes := by
  have visible : ∀ number : Fin 64, isJsWhitespace (Base64.sign number) = false := by decide
  have spaceless : ∀ c ∈ (String.ofList (Base64.encode bytes)).toList, isJsWhitespace c = false := by
    rw [String.toList_ofList]
    intro c member
    rcases Base64.mem_encode member with ⟨number, rfl⟩ | rfl
    · exact visible number
    · decide
  rw [jsTrim, trimMatches_of_none spaceless, String.toList_ofList, Base64.atob_encode]

/-- Any arguments quoted for a command, joined by blanks, are tokenized into their bytes;
every byte sequence has a text to quote it from; and a TYPE command, whatever follows
it, gives back the key it was built for. -/
theorem quoted_arguments_round_trip :
    (∀ arguments : List Argument, arguments ≠ [] → ∃ texts, arguments.mapM Argument.quote = some texts ∧
      ((utf8 (String.intercalate " " texts)).length ≤ maxCommandBytes →
        parseCommand (String.intercalate " " texts) = .ok (arguments.map Argument.bytes))) ∧
    (∀ bytes, Base64.atob (jsTrim (String.ofList (Base64.encode bytes))).toList = some bytes) ∧
    (∀ key suffix, inspectionKeyFromSql ("TYPE " ++ quoteRedisArgument key ++ suffix) = some key) ∧
    (∀ key, inspectionKeyFromSql (redisKeyInspectionCommands key) = some key) := by
  refine ⟨fun arguments nonempty => ?_, jsTrim_encode, inspectionKeyFromSql_type, fun key => ?_⟩
  · obtain ⟨texts, quoted, spellings⟩ := quote_all arguments
    refine ⟨texts, quoted, fun small => parseCommand_joined spellings ?_ small⟩
    rintro rfl
    exact nonempty (List.map_eq_nil_iff.mp (List.forall₂_nil_left_iff.mp spellings))
  · simpa [redisKeyInspectionCommands, String.append_assoc] using inspectionKeyFromSql_type key
      (";\nTTL " ++ quoteRedisArgument key ++ ";\nMEMORY USAGE " ++ quoteRedisArgument key ++ ";")

theorem quoted_arguments_round_trip_set :
    ∃ texts, [Argument.text "SET", .text "it's \"a\" \\ key\n", .text "", .binary " /w== " [255] (by decide +kernel)].mapM
        Argument.quote = some texts ∧
      parseCommand (String.intercalate " " texts) =
        .ok ([Argument.text "SET", .text "it's \"a\" \\ key\n", .text "", .binary " /w== " [255] (by decide +kernel)].map
          Argument.bytes) := by
  obtain ⟨texts, quoted, parsed⟩ := quoted_arguments_round_trip.1
    [.text "SET", .text "it's \"a\" \\ key\n", .text "", .binary " /w== " [255] (by decide +kernel)] (by simp)
  have same : some texts = some ["\"SET\"", "\"it's \\\"a\\\" \\\\ key\\n\"", "\"\"", "\"\\xff\""] := by
    rw [← quoted]
    decide +kernel
  obtain rfl := Option.some.inj same
  exact ⟨_, quoted, parsed (by decide +kernel)⟩

end Pipa.Redis
