import Pipa.Proofs.RedisQuoting

/-! The grammar of commands with quoted and escaped arguments. The tokenizer accepts this
language and what it reads are the bytes that the grammar assigns, except for hex escapes
that begin with a plus sign. -/

namespace Pipa.Redis
open Text

/-- A backslash with two hexadecimal digits behind an `x`, or with any other character. -/
inductive Escape : List Char → List UInt8 → Prop
  | hex {high low : Char} {upper lower : Nat} (first : hexValue high = some upper) (second : hexValue low = some lower) :
      Escape ['\\', 'x', high, low] [UInt8.ofNat (16 * upper + lower)]
  | character {c : Char} (other : c ≠ 'x') : Escape ['\\', c] (String.utf8EncodeChar (unescapeCharacter c))

/-- What may stand between two quotes. -/
inductive QuotedUnit (quote : Char) : List Char → List UInt8 → Prop
  | plain {c : Char} (noQuote : c ≠ quote) (noEscape : c ≠ '\\') : QuotedUnit quote [c] (String.utf8EncodeChar c)
  | escape {text : List Char} {bytes : List UInt8} (escape : Escape text bytes) : QuotedUnit quote text bytes

/-- Any number of such units, one after the other. -/
inductive Sequence (unit : List Char → List UInt8 → Prop) : List Char → List UInt8 → Prop
  | nil : Sequence unit [] []
  | snoc {text more : List Char} {bytes others : List UInt8} (front : Sequence unit text bytes) (last : unit more others) :
      Sequence unit (text ++ more) (bytes ++ others)

theorem Sequence.nil_or_snoc {unit : List Char → List UInt8 → Prop} {text : List Char} {bytes : List UInt8}
    (sequence : Sequence unit text bytes) : text = [] ∧ bytes = [] ∨ ∃ front more before others, text = front ++ more ∧
      bytes = before ++ others ∧ Sequence unit front before ∧ unit more others := by
  cases sequence with
  | nil => exact .inl ⟨rfl, rfl⟩
  | snoc front last => exact .inr ⟨_, _, _, _, rfl, rfl, front, last⟩

/-- Either quote. -/
def IsQuote (c : Char) : Prop := c = '\'' ∨ c = '"'

instance : DecidablePred IsQuote := fun c => inferInstanceAs (Decidable (c = '\'' ∨ c = '"'))

theorem IsQuote.noEscape {c : Char} (isQuote : IsQuote c) : c ≠ '\\' := by
  rintro rfl
  exact absurd isQuote (by decide)

theorem noEscape_of_blank {c : Char} (isBlank : isWhitespace c = true) : c ≠ '\\' := by
  rintro rfl
  exact absurd isBlank (by decide)

/-- What an argument is made of: characters, escapes and quoted parts. -/
inductive ArgumentUnit : List Char → List UInt8 → Prop
  | plain {c : Char} (visible : isWhitespace c = false) (noQuote : ¬IsQuote c) (noEscape : c ≠ '\\') :
      ArgumentUnit [c] (String.utf8EncodeChar c)
  | escape {text : List Char} {bytes : List UInt8} (escape : Escape text bytes) : ArgumentUnit text bytes
  | quoted {quote : Char} {text : List Char} {bytes : List UInt8} (isQuote : IsQuote quote)
      (inside : Sequence (QuotedUnit quote) text bytes) : ArgumentUnit (quote :: (text ++ [quote])) bytes

/-- Arguments that blanks separate and end. -/
inductive Separated : List Char → List (List UInt8) → Prop
  | nil : Separated [] []
  | blank {text : List Char} {arguments : List (List UInt8)} {c : Char} (front : Separated text arguments)
      (isBlank : isWhitespace c = true) : Separated (text ++ [c]) arguments
  | argument {text body : List Char} {arguments : List (List UInt8)} {bytes : List UInt8} {c : Char}
      (front : Separated text arguments) (last : Sequence ArgumentUnit body bytes) (present : body ≠ [])
      (isBlank : isWhitespace c = true) : Separated (text ++ (body ++ [c])) (arguments ++ [bytes])

/-- The command stands for these arguments, of which there is one at least. -/
inductive Command : List Char → List (List UInt8) → Prop
  | ended {text : List Char} {arguments : List (List UInt8)} (front : Separated text arguments) (nonempty : arguments ≠ []) :
      Command text arguments
  | unended {text body : List Char} {arguments : List (List UInt8)} {bytes : List UInt8} (front : Separated text arguments)
      (last : Sequence ArgumentUnit body bytes) (present : body ≠ []) : Command (text ++ body) (arguments ++ [bytes])

/-! ### What the grammar accepts is read -/

theorem hexByte_digits {high low : Char} {upper lower : Nat} (first : hexValue high = some upper) (second : hexValue low = some lower) :
    hexByte high low = some (UInt8.ofNat (16 * upper + lower)) := by
  have unsigned : high ≠ '+' := by
    intro plus
    have none : hexValue '+' = none := by decide
    rw [plus, none] at first
    cases first
  rw [hexByte, second]
  dsimp only
  rw [if_neg unsigned, first]
  rfl

theorem Escape.read {text : List Char} {bytes : List UInt8} (escape : Escape text bytes) (state : ParseState) (rest : List Char) :
    parseCharacters state (text ++ rest) = parseCharacters (state.push bytes) rest := by
  cases escape with
  | hex first second => exact parseCharacters_hex state (hexByte_digits first second) rest
  | character other => exact parseCharacters_escape state other rest

theorem push_push (state : ParseState) (bytes others : List UInt8) : (state.push bytes).push others = state.push (bytes ++ others) := by
  rw [ParseState.push, ParseState.push, ParseState.push, List.append_assoc]

theorem QuotedUnit.read {quote : Char} {text : List Char} {bytes : List UInt8} (unit : QuotedUnit quote text bytes)
    {state : ParseState} (quoted : state.quote = some quote) (rest : List Char) :
    parseCharacters state (text ++ rest) = parseCharacters (state.push bytes) rest := by
  cases unit with
  | plain noQuote noEscape => exact parseCharacters_plain quoted noQuote noEscape rest
  | escape escape => exact escape.read state rest

section Sequences
variable {unit : List Char → List UInt8 → Prop} {text : List Char} {bytes : List UInt8}

/-- Reading the units of a sequence one by one reads the sequence, which begins an argument
if there is any unit. -/
theorem Sequence.read {quote : Option Char} (present : ∀ {text bytes}, unit text bytes → text ≠ [])
    (reads : ∀ {text bytes}, unit text bytes → ∀ {state : ParseState}, state.quote = quote → ∀ rest,
      parseCharacters state (text ++ rest) = parseCharacters (state.push bytes) rest)
    (sequence : Sequence unit text bytes) {state : ParseState} (same : state.quote = quote) (rest : List Char) :
    parseCharacters state (text ++ rest) = parseCharacters (if text = [] then state else state.push bytes) rest := by
  induction sequence generalizing rest with
  | nil => rfl
  | @snoc text more bytes others front last ih =>
    have nonempty : text ++ more ≠ [] := fun none => present last (List.append_eq_nil_iff.mp none).2
    rw [List.append_assoc, ih, if_neg nonempty]
    by_cases alone : text = []
    · rw [if_pos alone, reads last same]
      subst alone
      obtain ⟨-, none⟩ | ⟨_, _, _, _, same, -, -, unit⟩ := front.nil_or_snoc
      · rw [none, List.nil_append]
      · exact absurd (List.append_eq_nil_iff.mp same.symm).2 (present unit)
    · have started : (state.push bytes).quote = quote := same
      rw [if_neg alone, ← push_push]
      exact reads last started rest

theorem Sequence.read_started {quote : Option Char} (present : ∀ {text bytes}, unit text bytes → text ≠ [])
    (reads : ∀ {text bytes}, unit text bytes → ∀ {state : ParseState}, state.quote = quote → ∀ rest,
      parseCharacters state (text ++ rest) = parseCharacters (state.push bytes) rest)
    (sequence : Sequence unit text bytes) {state : ParseState} (same : state.quote = quote) (started : state.started = true)
    (rest : List Char) : parseCharacters state (text ++ rest) = parseCharacters (state.push bytes) rest := by
  rw [sequence.read present reads same]
  split
  next alone =>
    obtain ⟨-, none⟩ | ⟨_, _, _, _, more, -, -, unit⟩ := sequence.nil_or_snoc
    · rw [push_eq started, none, List.append_nil]
    · rw [alone] at more
      exact absurd (List.append_eq_nil_iff.mp more.symm).2 (present unit)
  next => rfl

end Sequences

theorem Escape.present {text : List Char} {bytes : List UInt8} (escape : Escape text bytes) : text ≠ [] := by
  cases escape <;> exact List.cons_ne_nil _ _

theorem QuotedUnit.present {quote : Char} {text : List Char} {bytes : List UInt8} (unit : QuotedUnit quote text bytes) : text ≠ [] := by
  cases unit with
  | plain => exact List.cons_ne_nil _ _
  | escape escape => exact escape.present

theorem ArgumentUnit.present {text : List Char} {bytes : List UInt8} (unit : ArgumentUnit text bytes) : text ≠ [] := by
  cases unit with
  | plain => exact List.cons_ne_nil _ _
  | escape escape => exact escape.present
  | quoted => exact List.cons_ne_nil _ _

theorem isWhitespace_quote {c : Char} (isQuote : IsQuote c) : isWhitespace c = false := by
  rcases isQuote with rfl | rfl
  · decide
  · decide

theorem parseCharacters_opened {state : ParseState} {quote : Char} (isQuote : IsQuote quote) (unquoted : state.quote = none)
    (rest : List Char) :
    parseCharacters state (quote :: rest) = parseCharacters { state with quote := some quote, started := true } rest := by
  rw [parseCharacters.eq_def]
  dsimp only
  rw [if_neg (by simp [isWhitespace_quote isQuote]), if_pos (show quote = '\'' ∨ quote = '"' from isQuote), if_neg (by simp [unquoted]), if_pos unquoted]

theorem parseCharacters_closed {state : ParseState} {quote : Char} (isQuote : IsQuote quote) (quoted : state.quote = some quote)
    (rest : List Char) : parseCharacters state (quote :: rest) = parseCharacters { state with quote := none } rest := by
  rw [parseCharacters.eq_def]
  dsimp only
  rw [if_neg (by simp [quoted]), if_pos (show quote = '\'' ∨ quote = '"' from isQuote), if_pos quoted]

theorem parseCharacters_blanked {state : ParseState} {c : Char} (isBlank : isWhitespace c = true) (unquoted : state.quote = none)
    (rest : List Char) : parseCharacters state (c :: rest) = parseCharacters state.finish rest := by
  rw [parseCharacters.eq_def]
  exact if_pos ⟨unquoted, isBlank⟩

theorem ArgumentUnit.read {text : List Char} {bytes : List UInt8} (unit : ArgumentUnit text bytes) {state : ParseState}
    (unquoted : state.quote = none) (rest : List Char) :
    parseCharacters state (text ++ rest) = parseCharacters (state.push bytes) rest := by
  cases unit with
  | @plain c visible noQuote noEscape =>
    rw [List.singleton_append, parseCharacters.eq_def]
    dsimp only
    rw [if_neg (by simp [visible]), if_neg (show ¬(c = '\'' ∨ c = '"') from noQuote), if_neg noEscape]
  | escape escape => exact escape.read state rest
  | @quoted quote text bytes isQuote inside =>
    rw [List.cons_append, List.append_assoc, parseCharacters_opened isQuote unquoted,
      inside.read_started QuotedUnit.present (fun unit => unit.read) rfl rfl, List.singleton_append,
      parseCharacters_closed isQuote rfl]
    rw [ParseState.push, ParseState.push, ← unquoted]

/-- The state between two arguments, or behind the last one. -/
theorem Separated.read {text : List Char} {arguments : List (List UInt8)} (separated : Separated text arguments) (rest : List Char) :
    parseCharacters (between []) (text ++ rest) = parseCharacters (between arguments) rest := by
  induction separated generalizing rest with
  | nil => rfl
  | blank front isBlank ih =>
    rw [List.append_assoc, ih]
    exact parseCharacters_blanked isBlank rfl rest
  | argument front last present isBlank ih =>
    rw [List.append_assoc, ih, List.append_assoc, last.read ArgumentUnit.present (fun unit => unit.read) rfl, if_neg present]
    exact parseCharacters_blanked isBlank rfl rest

theorem Command.read {text : List Char} {arguments : List (List UInt8)} (command : Command text arguments) :
    ∃ state, parseCharacters (between []) text = .ok state ∧ state.quote = none ∧ state.finish.arguments = arguments ∧ arguments ≠ [] := by
  cases command with
  | ended front nonempty =>
    have read := front.read []
    rw [List.append_nil] at read
    exact ⟨between arguments, read.trans (by rw [parseCharacters]), rfl, rfl, nonempty⟩
  | @unended text body arguments bytes front last present =>
    have read := front.read body
    have body := last.read ArgumentUnit.present (fun unit => unit.read) (show (between arguments).quote = none from rfl) []
    rw [List.append_nil, if_neg present] at body
    refine ⟨(between arguments).push bytes, (read.trans body).trans (by rw [parseCharacters]), rfl, rfl, ?_⟩
    exact List.append_ne_nil_of_right_ne_nil _ (List.cons_ne_nil _ _)

/-! ### What is read is in the grammar -/

/-- The digit 0 for a plus sign with a digit behind it. -/
def unsigned (high low : Char) : Char := if high = '+' ∧ (hexValue low).isSome then '0' else high

/-- The text with the digit 0 for every plus sign that a hex escape begins with. -/
def withoutSigns : List Char → List Char
  | [] => []
  | c :: rest =>
    if c = '\\' then
      match rest with
      | [] => [c]
      | escaped :: rest =>
        if escaped = 'x' then
          match rest with
          | high :: low :: rest => c :: escaped :: unsigned high low :: low :: withoutSigns rest
          | rest => c :: escaped :: rest
        else c :: escaped :: withoutSigns rest
    else c :: withoutSigns rest

/-- The text read so far, and the state that it leads to. -/
inductive ReadSoFar : List Char → ParseState → Prop
  | between {text : List Char} {arguments : List (List UInt8)} (front : Separated text arguments) : ReadSoFar text (between arguments)
  | behind {text body : List Char} {arguments : List (List UInt8)} {bytes : List UInt8} (front : Separated text arguments)
      (last : Sequence ArgumentUnit body bytes) (present : body ≠ []) : ReadSoFar (text ++ body) (behind arguments bytes)
  | within {text body inside : List Char} {arguments : List (List UInt8)} {bytes more : List UInt8} {quote : Char}
      (front : Separated text arguments) (last : Sequence ArgumentUnit body bytes) (isQuote : IsQuote quote)
      (part : Sequence (QuotedUnit quote) inside more) :
      ReadSoFar (text ++ (body ++ quote :: inside)) { arguments, argument := bytes ++ more, quote := some quote, started := true }

section Steps
variable {text : List Char} {state : ParseState}

theorem ReadSoFar.blank (read : ReadSoFar text state) {c : Char} (unquoted : state.quote = none) (isBlank : isWhitespace c = true) :
    ReadSoFar (text ++ [c]) state.finish := by
  cases read with
  | between front => exact .between (front.blank isBlank)
  | behind front last present =>
    rw [List.append_assoc]
    exact .between (front.argument last present isBlank)
  | within => cases unquoted

theorem ReadSoFar.opened (read : ReadSoFar text state) {quote : Char} (unquoted : state.quote = none) (isQuote : IsQuote quote) :
    ReadSoFar (text ++ [quote]) { state with quote := some quote, started := true } := by
  cases read with
  | between front => exact .within front .nil isQuote .nil
  | @behind text body arguments bytes front last present =>
    rw [List.append_assoc]
    have within := ReadSoFar.within front last isQuote (show Sequence (QuotedUnit quote) [] [] from .nil)
    rw [List.append_nil] at within
    exact within
  | within => cases unquoted

theorem ReadSoFar.closed (read : ReadSoFar text state) {quote : Char} (quoted : state.quote = some quote) :
    ReadSoFar (text ++ [quote]) { state with quote := none } := by
  cases read with
  | between front => cases quoted
  | behind front last present => cases quoted
  | @within text body inside arguments bytes more _ front last isQuote part =>
    obtain rfl := Option.some.inj quoted
    have unit := ArgumentUnit.quoted isQuote part
    have whole := ReadSoFar.behind front (last.snoc unit) (List.append_ne_nil_of_right_ne_nil _ unit.present)
    simp only [List.append_assoc, List.cons_append] at whole ⊢
    exact whole

theorem ReadSoFar.push (read : ReadSoFar text state) {unit : List Char} {bytes : List UInt8} (present : unit ≠ [])
    (outside : state.quote = none → ArgumentUnit unit bytes) (inside : ∀ quote, state.quote = some quote → QuotedUnit quote unit bytes) :
    ReadSoFar (text ++ unit) (state.push bytes) := by
  cases read with
  | between front => exact .behind front (Sequence.nil.snoc (outside rfl)) present
  | behind front last _ =>
    rw [List.append_assoc]
    exact .behind front (last.snoc (outside rfl)) (List.append_ne_nil_of_right_ne_nil _ present)
  | within front last isQuote part =>
    have whole := ReadSoFar.within front last isQuote (part.snoc (inside _ rfl))
    rw [ParseState.push]
    simp only [List.append_assoc, List.cons_append] at whole ⊢
    exact whole

theorem ReadSoFar.isQuote (read : ReadSoFar text state) {quote : Char} (quoted : state.quote = some quote) : IsQuote quote := by
  cases read with
  | between => cases quoted
  | behind => cases quoted
  | within _ _ isQuote =>
    obtain rfl := Option.some.inj quoted
    exact isQuote

theorem ReadSoFar.escape (read : ReadSoFar text state) {unit : List Char} {bytes : List UInt8} (escape : Escape unit bytes) :
    ReadSoFar (text ++ unit) (state.push bytes) :=
  read.push escape.present (fun _ => .escape escape) fun _ _ => .escape escape

end Steps

section Signs
variable {high low : Char} (rest : List Char)

theorem withoutSigns_plain {c : Char} (noEscape : c ≠ '\\') : withoutSigns (c :: rest) = c :: withoutSigns rest := by
  rw [withoutSigns.eq_def]
  exact if_neg noEscape

theorem withoutSigns_character {c : Char} (other : c ≠ 'x') :
    withoutSigns ('\\' :: c :: rest) = '\\' :: c :: withoutSigns rest := by
  rw [withoutSigns.eq_def]
  dsimp only
  rw [if_pos rfl, if_neg other]

theorem withoutSigns_hex (high low : Char) :
    withoutSigns ('\\' :: 'x' :: high :: low :: rest) = '\\' :: 'x' :: unsigned high low :: low :: withoutSigns rest := by
  rw [withoutSigns.eq_def]
  dsimp only
  rw [if_pos rfl, if_pos rfl]

theorem withoutSigns_short {rest : List Char} (short : ∀ high low others, rest = high :: low :: others → False) :
    withoutSigns ('\\' :: 'x' :: rest) = '\\' :: 'x' :: rest := by
  rw [withoutSigns.eq_def]
  dsimp only
  rw [if_pos rfl, if_pos rfl]
  split
  next high low others => exact absurd rfl (short high low others)
  next => rfl

/-- The library that reads the digits does not tell a plus sign from the digit 0. -/
theorem hexByte_unsigned (high low : Char) : hexByte (unsigned high low) low = hexByte high low := by
  rw [unsigned]
  split
  next signed =>
    obtain ⟨rfl, digit⟩ := signed
    obtain ⟨lower, value⟩ := Option.isSome_iff_exists.mp digit
    rw [hexByte, hexByte, value]
    dsimp only
    rw [if_neg (by decide), if_pos rfl]
    have zero : hexValue '0' = some 0 := by decide
    rw [zero, Option.map_some, Nat.mul_zero, Nat.zero_add]
  next => rfl

theorem unsigned_unsigned (high low : Char) : unsigned (unsigned high low) low = unsigned high low := by
  by_cases signed : high = '+' ∧ (hexValue low).isSome
  · rw [unsigned, if_neg]
    rw [unsigned, if_pos signed]
    exact fun both => absurd both.1 (by decide)
  · have same : unsigned high low = high := if_neg signed
    rw [same, same]

/-- A byte that is read from two characters without a sign is written with two digits. -/
theorem hexByte_some {byte : UInt8} (read : hexByte high low = some byte) (unsigned : unsigned high low = high) :
    Escape ['\\', 'x', high, low] [byte] := by
  rw [hexByte] at read
  cases second : hexValue low with
  | none =>
    rw [second] at read
    cases read
  | some lower =>
    rw [second] at read
    dsimp only at read
    have noSign : high ≠ '+' := by
      rintro rfl
      rw [Redis.unsigned, if_pos ⟨rfl, by rw [second]; rfl⟩] at unsigned
      exact absurd unsigned (by decide)
    rw [if_neg noSign] at read
    obtain ⟨upper, first, rfl⟩ := Option.map_eq_some_iff.mp read
    exact .hex first second

end Signs

/-- One iteration of the tokenizer that goes on: the text that it reads, and the next state. -/
inductive Iteration (state : ParseState) : List Char → ParseState → Prop
  | blank {c : Char} (unquoted : state.quote = none) (isBlank : isWhitespace c = true) : Iteration state [c] state.finish
  | closed {c : Char} (isQuote : IsQuote c) (quoted : state.quote = some c) : Iteration state [c] { state with quote := none }
  | opened {c : Char} (isQuote : IsQuote c) (unquoted : state.quote = none) :
      Iteration state [c] { state with quote := some c, started := true }
  | plain {c : Char} (noEscape : c ≠ '\\') (outside : state.quote = none → isWhitespace c = false ∧ ¬IsQuote c)
      (inside : IsQuote c → state.quote ≠ some c) : Iteration state [c] (state.push (String.utf8EncodeChar c))
  | character {c : Char} (other : c ≠ 'x') :
      Iteration state ['\\', c] (state.push (String.utf8EncodeChar (unescapeCharacter c)))
  | hex {high low : Char} {byte : UInt8} (value : hexByte high low = some byte) :
      Iteration state ['\\', 'x', high, low] (state.push [byte])

/-- What holds at the end of a text and is kept by every iteration holds of every text that is read. -/
theorem parseCharacters_run {final : ParseState} {motive : ParseState → List Char → Prop} (ended : motive final [])
    (step : ∀ {state unit next} rest, Iteration state unit next → motive next rest → motive state (unit ++ rest))
    {state : ParseState} {text : List Char} (parsed : parseCharacters state text = .ok final) : motive state text := by
  induction state, text using parseCharacters.induct with
  | case1 state =>
    rw [parseCharacters] at parsed
    obtain rfl := Except.ok.inj parsed
    exact ended
  | case2 state c rest blank ih =>
    rw [parseCharacters_blanked blank.2 blank.1] at parsed
    exact step rest (.blank blank.1 blank.2) (ih parsed)
  | case3 state c rest visible isQuote quoted ih =>
    rw [parseCharacters_closed isQuote quoted] at parsed
    exact step rest (.closed isQuote quoted) (ih parsed)
  | case4 state c rest visible isQuote other unquoted ih =>
    rw [parseCharacters_opened isQuote unquoted] at parsed
    exact step rest (.opened isQuote unquoted) (ih parsed)
  | case5 state c rest visible isQuote other quoted ih =>
    have noEscape := IsQuote.noEscape isQuote
    obtain ⟨quote, within⟩ := Option.ne_none_iff_exists'.mp quoted
    have noQuote : c ≠ quote := fun same => other (same ▸ within)
    rw [parseCharacters_plain within noQuote noEscape] at parsed
    exact step rest (.plain noEscape (fun unquoted => absurd unquoted quoted) fun _ => other) (ih parsed)
  | case6 state visible noQuote =>
    rw [parseCharacters.eq_def] at parsed
    dsimp only at parsed
    rw [if_neg visible, if_neg noQuote, if_pos rfl] at parsed
    cases parsed
  | case7 state high low rest byte value visible noQuote ih =>
    rw [parseCharacters_hex state value] at parsed
    exact step rest (.hex value) (ih parsed)
  | case8 state high low rest value visible noQuote =>
    rw [parseCharacters.eq_def] at parsed
    dsimp only at parsed
    rw [if_neg visible, if_neg noQuote, if_pos rfl, if_pos rfl, value] at parsed
    cases parsed
  | case9 state rest short visible noQuote =>
    rw [parseCharacters.eq_def] at parsed
    dsimp only at parsed
    rw [if_neg visible, if_neg noQuote, if_pos rfl, if_pos rfl] at parsed
    split at parsed
    next high low rest => exact absurd rfl (short high low rest)
    next => cases parsed
  | case10 state escaped rest other visible noQuote ih =>
    rw [parseCharacters_escape state other] at parsed
    exact step rest (.character other) (ih parsed)
  | case11 state c rest visible noQuote noEscape ih =>
    have read : parseCharacters state (c :: rest) = parseCharacters (state.push (String.utf8EncodeChar c)) rest := by
      rw [parseCharacters.eq_def]
      dsimp only
      rw [if_neg visible, if_neg noQuote, if_neg noEscape]
    rw [read] at parsed
    refine step rest (.plain noEscape ?_ fun isQuote => absurd isQuote noQuote) (ih parsed)
    exact fun unquoted => ⟨Bool.eq_false_iff.mpr fun blank => visible ⟨unquoted, blank⟩, noQuote⟩

/-- An iteration that is not about an escape reads a character that begins none. -/
theorem withoutSigns_single {c : Char} {rest : List Char} (noEscape : c ≠ '\\') (strict : withoutSigns (c :: rest) = c :: rest) :
    withoutSigns rest = rest := by
  rw [withoutSigns_plain rest noEscape] at strict
  exact (List.cons.inj strict).2

/-- What was read belongs to the grammar, if no escape that was met begins with a sign. -/
theorem ReadSoFar.run {read : List Char} {state final : ParseState} {text : List Char} (soFar : ReadSoFar read state)
    (strict : withoutSigns text = text) (parsed : parseCharacters state text = .ok final) : ReadSoFar (read ++ text) final := by
  refine parseCharacters_run (motive := fun state text =>
    ∀ read, ReadSoFar read state → withoutSigns text = text → ReadSoFar (read ++ text) final) ?_ ?_ parsed read soFar strict
  · intro read soFar _
    rw [List.append_nil]
    exact soFar
  · intro state unit next rest iteration later read soFar strict
    rw [← List.append_assoc]
    cases iteration with
    | blank unquoted isBlank =>
      exact later _ (soFar.blank unquoted isBlank) (withoutSigns_single (noEscape_of_blank isBlank) strict)
    | closed isQuote quoted =>
      exact later _ (soFar.closed quoted) (withoutSigns_single isQuote.noEscape strict)
    | opened isQuote unquoted =>
      exact later _ (soFar.opened unquoted isQuote) (withoutSigns_single isQuote.noEscape strict)
    | plain noEscape outside inside =>
      refine later _ (soFar.push (List.cons_ne_nil _ _) ?_ ?_) (withoutSigns_single noEscape strict)
      · exact fun unquoted => .plain (outside unquoted).1 (outside unquoted).2 noEscape
      · intro quote within
        refine .plain ?_ noEscape
        rintro rfl
        exact inside (soFar.isQuote within) within
    | character other =>
      change withoutSigns ('\\' :: _ :: rest) = '\\' :: _ :: rest at strict
      rw [withoutSigns_character rest other] at strict
      injection strict with _ strict
      injection strict with _ strict
      exact later _ (soFar.escape (.character other)) strict
    | @hex high low byte value =>
      change withoutSigns ('\\' :: 'x' :: high :: low :: rest) = '\\' :: 'x' :: high :: low :: rest at strict
      rw [withoutSigns_hex] at strict
      injection strict with _ strict
      injection strict with _ strict
      injection strict with same strict
      injection strict with _ strict
      exact later _ (soFar.escape (hexByte_some value same)) strict

/-! ### Signs are read as zeros -/

theorem parseCharacters_next (state : ParseState) {c : Char} (noEscape : c ≠ '\\') :
    ∃ next, ∀ rest, parseCharacters state (c :: rest) = parseCharacters next rest := by
  by_cases blank : state.quote = none ∧ isWhitespace c = true
  · exact ⟨state.finish, parseCharacters_blanked blank.2 blank.1⟩
  by_cases isQuote : IsQuote c
  · by_cases same : state.quote = some c
    · exact ⟨_, parseCharacters_closed isQuote same⟩
    cases within : state.quote with
    | none => exact ⟨_, parseCharacters_opened isQuote within⟩
    | some quote =>
      refine ⟨_, parseCharacters_plain within ?_ noEscape⟩
      rintro rfl
      exact same within
  · refine ⟨state.push (String.utf8EncodeChar c), fun rest => ?_⟩
    rw [parseCharacters.eq_def]
    dsimp only
    rw [if_neg blank, if_neg (show ¬(c = '\'' ∨ c = '"') from isQuote), if_neg noEscape]

theorem parseCharacters_unread (state : ParseState) {high low : Char} (rest : List Char) (unread : hexByte high low = none) :
    parseCharacters state ('\\' :: 'x' :: high :: low :: rest) =
      .error (validationError "Redis command contains an invalid hex escape") := by
  have visible : ¬(state.quote = none ∧ isWhitespace '\\' = true) := fun both => absurd both.2 (by decide)
  rw [parseCharacters.eq_def]
  dsimp only
  rw [if_neg visible, if_neg (by decide), if_pos rfl, if_pos rfl, unread]

theorem parseCharacters_withoutSigns (state : ParseState) (text : List Char) :
    parseCharacters state (withoutSigns text) = parseCharacters state text := by
  induction text using withoutSigns.induct generalizing state with
  | case1 => rfl
  | case2 => rfl
  | case3 high low rest ih =>
    rw [withoutSigns_hex]
    cases value : hexByte high low with
    | none => rw [parseCharacters_unread _ _ value, parseCharacters_unread _ _ ((hexByte_unsigned high low).trans value)]
    | some byte =>
      rw [parseCharacters_hex _ value, parseCharacters_hex _ ((hexByte_unsigned high low).trans value), ih]
  | case4 rest short => rw [withoutSigns_short short]
  | case5 escaped rest other ih =>
    rw [withoutSigns_character rest other, parseCharacters_escape _ other, parseCharacters_escape _ other, ih]
  | case6 c rest noEscape ih =>
    obtain ⟨next, step⟩ := parseCharacters_next state noEscape
    rw [withoutSigns_plain rest noEscape, step, step, ih]

theorem withoutSigns_withoutSigns (text : List Char) : withoutSigns (withoutSigns text) = withoutSigns text := by
  induction text using withoutSigns.induct with
  | case1 => rfl
  | case2 => rfl
  | case3 high low rest ih => rw [withoutSigns_hex, withoutSigns_hex, unsigned_unsigned, ih]
  | case4 rest short => rw [withoutSigns_short short, withoutSigns_short short]
  | case5 escaped rest other ih => rw [withoutSigns_character rest other, withoutSigns_character _ other, ih]
  | case6 c rest noEscape ih => rw [withoutSigns_plain rest noEscape, withoutSigns_plain _ noEscape, ih]

/-- No escape of this text begins with a sign, whatever follows it. -/
def Unsigned (text : List Char) : Prop := ∀ rest, withoutSigns (text ++ rest) = text ++ withoutSigns rest

theorem Unsigned.append {text others : List Char} (first : Unsigned text) (later : Unsigned others) : Unsigned (text ++ others) := by
  intro rest
  rw [List.append_assoc, first, later, List.append_assoc]

theorem Unsigned.singleton {c : Char} (noEscape : c ≠ '\\') : Unsigned [c] := fun rest => withoutSigns_plain rest noEscape

theorem Escape.unsigned {text : List Char} {bytes : List UInt8} (escape : Escape text bytes) : Unsigned text := by
  intro rest
  cases escape with
  | @hex high low upper lower first second =>
    have noSign : high ≠ '+' := by
      rintro rfl
      exact absurd first (by decide +revert)
    have same : Redis.unsigned high low = high := if_neg fun both => noSign both.1
    exact (withoutSigns_hex rest high low).trans (by rw [same]; rfl)
  | character other => exact withoutSigns_character rest other

theorem Sequence.unsigned {unit : List Char → List UInt8 → Prop} (unsigned : ∀ {text bytes}, unit text bytes → Unsigned text)
    {text : List Char} {bytes : List UInt8} (sequence : Sequence unit text bytes) : Unsigned text := by
  induction sequence with
  | nil => exact fun rest => rfl
  | snoc front last ih => exact ih.append (unsigned last)

theorem QuotedUnit.unsigned {quote : Char} {text : List Char} {bytes : List UInt8} (unit : QuotedUnit quote text bytes) :
    Unsigned text := by
  cases unit with
  | plain _ noEscape => exact .singleton noEscape
  | escape escape => exact escape.unsigned

theorem ArgumentUnit.unsigned {text : List Char} {bytes : List UInt8} (unit : ArgumentUnit text bytes) : Unsigned text := by
  cases unit with
  | plain _ _ noEscape => exact .singleton noEscape
  | escape escape => exact escape.unsigned
  | @quoted quote text bytes isQuote inside =>
    have quote := Unsigned.singleton isQuote.noEscape
    exact quote.append ((inside.unsigned QuotedUnit.unsigned).append quote)

theorem Separated.unsigned {text : List Char} {arguments : List (List UInt8)} (separated : Separated text arguments) : Unsigned text := by
  induction separated with
  | nil => exact fun rest => rfl
  | blank front isBlank ih => exact ih.append (.singleton (noEscape_of_blank isBlank))
  | argument front last present isBlank ih =>
    exact ih.append ((last.unsigned ArgumentUnit.unsigned).append (.singleton (noEscape_of_blank isBlank)))

theorem Command.withoutSigns_eq {text : List Char} {arguments : List (List UInt8)} (command : Command text arguments) :
    withoutSigns text = text := by
  have unsigned : Unsigned text := by
    cases command with
    | ended front _ => exact front.unsigned
    | unended front last _ => exact front.unsigned.append (last.unsigned ArgumentUnit.unsigned)
  have whole := unsigned []
  rwa [List.append_nil, withoutSigns, List.append_nil] at whole

/-! ### The language of the tokenizer -/

/-- Without signs, the tokenizer reads the language of the grammar. -/
theorem parse_command {text : List Char} (strict : withoutSigns text = text) (arguments : List (List UInt8)) :
    (∃ state, parseCharacters (between []) text = .ok state ∧ state.quote = none ∧ state.finish.arguments = arguments ∧ arguments ≠ []) ↔
      Command text arguments := by
  constructor
  · intro ⟨state, parsed, closed, finished, nonempty⟩
    have read : ReadSoFar ([] ++ text) state := (ReadSoFar.between .nil).run strict parsed
    rw [List.nil_append] at read
    subst finished
    cases read with
    | between front => exact .ended front nonempty
    | behind front last present => exact .unended front last present
    | within => cases closed
  · exact Command.read

/-- A command is accepted exactly if it belongs to the grammar, and read as the bytes that
the grammar assigns, exactly if no hex escape of it begins with a sign, or it is no
command with zeros for the signs either. -/
theorem parseCommand_grammar (command : String) (small : (utf8 command).length ≤ maxCommandBytes) :
    (∀ arguments, parseCommand command = .ok arguments ↔ Command command.toList arguments) ↔
      (withoutSigns command.toList = command.toList ∨ ∀ arguments, ¬Command (withoutSigns command.toList) arguments) := by
  have accepted (arguments : List (List UInt8)) :
      parseCommand command = .ok arguments ↔ Command (withoutSigns command.toList) arguments := by
    rw [parseCommand_ok small, ← parseCharacters_withoutSigns]
    exact parse_command (withoutSigns_withoutSigns _) arguments
  constructor
  · intro grammar
    by_cases strict : withoutSigns command.toList = command.toList
    · exact .inl strict
    · refine .inr fun arguments zeros => strict ?_
      exact ((grammar arguments).mp ((accepted arguments).mpr zeros)).withoutSigns_eq
  · rintro (strict | none) arguments
    · rw [accepted, strict]
    · refine iff_of_false (fun parsed => none arguments ((accepted arguments).mp parsed)) ?_
      intro member
      have same := member.withoutSigns_eq
      exact none arguments (same.symm ▸ member)

theorem parseCommand_grammar_quoted : Command "SET 'a b' \"\" \\x41".toList [utf8 "SET", utf8 "a b", [], [65]] :=
  ((parseCommand_grammar "SET 'a b' \"\" \\x41" (by decide +kernel)).mpr (.inl (by decide +kernel)) _).mp (by decide +kernel)

/-- A hex escape with a plus sign is accepted. -/
theorem parseCommand_grammar_signed :
    ¬∀ command : String, (utf8 command).length ≤ maxCommandBytes →
      ∀ arguments, parseCommand command = .ok arguments ↔ Command command.toList arguments := by
  intro grammar
  have parsed : parseCommand "\\x+f" = .ok [[15]] := by decide +kernel
  have member := (grammar "\\x+f" (by decide +kernel) [[15]]).mp parsed
  exact absurd member.withoutSigns_eq (by decide +kernel)

end Pipa.Redis
