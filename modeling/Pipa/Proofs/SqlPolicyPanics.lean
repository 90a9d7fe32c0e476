import Pipa.Proofs.SqlPolicyLexing
import Pipa.SqlPolicyIndexed
import Pipa.Text

/-! The policy never panics. Its indices walk over the suffixes that the policy without
indices is given, words end on character boundaries because what follows an ASCII byte
begins a character, and a statement that is balanced never closes more than it opened. -/

namespace Pipa.SqlPolicy.Indexed
open Checked

/-- What follows an ASCII byte begins a character. -/
def Characters (bytes : List Nat) : Prop := bytes.IsChain fun byte next => byte < 128 → next < 128 ∨ 192 ≤ next

section Walk
variable {α : Type} {items : List α} {index : Nat} {item : α} {rest : List α}

/-- The item at an index, and the suffix behind it. -/
structure Here (items : List α) (index : Nat) (item : α) (rest : List α) : Prop where
  below : index < items.length
  item : items[index]? = some item
  rest : items.drop (index + 1) = rest

theorem here_of_drop (at_ : items.drop index = item :: rest) : Here items index item rest := by
  have below : index < items.length := by
    have nonempty : 0 < (items.drop index).length := by
      rw [at_]
      exact Nat.succ_pos _
    rw [List.length_drop] at nonempty
    omega
  rw [List.drop_eq_getElem_cons below, List.cons.injEq] at at_
  exact ⟨below, by rw [List.getElem?_eq_getElem below, at_.1], at_.2⟩

theorem drop_of_some (present : items[index]? = some item) : items.drop index = item :: items.drop (index + 1) := by
  obtain ⟨below, rfl⟩ := List.getElem?_eq_some_iff.mp present
  exact List.drop_eq_getElem_cons below

theorem Here.next (here : Here items index item rest) : items[index + 1]? = rest.head? := by
  rw [← here.rest, List.head?_drop]

theorem Here.second (here : Here items index item rest) : items[index + 2]? = rest.tail.head? := by
  rw [← here.rest, List.tail_drop, List.head?_drop]

theorem Here.third (here : Here items index item rest) : items[index + 3]? = rest.tail.tail.head? := by
  rw [← here.rest, List.tail_drop, List.tail_drop, List.head?_drop]

theorem end_of_drop (within : index ≤ items.length) (at_ : items.drop index = []) : items.length = index := by
  have short := List.drop_eq_nil_iff.mp at_
  omega

variable (small : items.length < 4294967296)
include small

theorem advance_ok (within : index ≤ items.length) {count : Nat} (few : count ≤ 3) : advance index count = .ok (index + count) :=
  add_ok (by unfold usizeMax; omega)

end Walk

/-- Where a scan is: behind its start, with a result that does not depend on how far it
has come. -/
structure Scanning {β : Type} (bytes : List Nat) (start : Nat) (scan : List Nat → β) (target : β) (index : Nat) : Prop where
  behind : start ≤ index
  within : index ≤ bytes.length
  same : scan (bytes.drop index) = target

/-- A scan left the text at the index where the list function leaves it. -/
structure Left (bytes : List Nat) (start : Nat) (rest : List Nat) (stop : Nat) : Prop where
  behind : start ≤ stop
  within : stop ≤ bytes.length
  rest : bytes.drop stop = rest

/-- It did so, or both failed. -/
def Leaves (bytes : List Nat) (start : Nat) : Option (List Nat) → Option Nat → Prop
  | some rest, some stop => Left bytes start rest stop
  | none, none => True
  | _, _ => False

section Scans
variable {bytes : List Nat} (small : bytes.length < 4294967296) {start : Nat} (within : start ≤ bytes.length)
include small

theorem consumeQuoted_round {quote : Nat} {escapes : Bool} {target : Option (List Nat)} {index : Nat}
    (scanning : Scanning bytes start (SqlPolicy.consumeQuoted quote escapes) target index) :
    Round (Scanning bytes start (SqlPolicy.consumeQuoted quote escapes) target) (bytes.length - ·) (Leaves bytes start target)
      index (consumeQuotedRound bytes quote escapes index) := by
  obtain ⟨behind, within, rfl⟩ := scanning
  rw [consumeQuotedRound]
  cases at_ : bytes.drop index with
  | nil =>
    have ends := end_of_drop within at_
    rw [if_neg (by omega)]
    exact .done trivial
  | cons byte rest =>
    have here := here_of_drop at_
    have below := here.below
    have on {next : Nat} (later : index < next) (fits : next ≤ bytes.length)
        (same : SqlPolicy.consumeQuoted quote escapes (bytes.drop next) = SqlPolicy.consumeQuoted quote escapes (byte :: rest)) :
        Round (Scanning bytes start (SqlPolicy.consumeQuoted quote escapes) (SqlPolicy.consumeQuoted quote escapes (byte :: rest)))
          (bytes.length - ·) (Leaves bytes start (SqlPolicy.consumeQuoted quote escapes (byte :: rest))) index (.ok (.inl next)) :=
      .next ⟨by omega, fits, same⟩ (by omega)
    rw [if_pos here.below, read_ok here.item, ok_bind, advance_ok small within (by decide), ok_bind, here.next]
    cases rest with
    | nil =>
      have ends := end_of_drop below here.rest
      rw [if_pos (show bytes.length ≤ index + 1 by omega)]
      by_cases escaped : (escapes && byte == 92) = true
      · rw [if_pos escaped, SqlPolicy.consumeQuoted, if_pos escaped]
        exact .done trivial
      · rw [if_neg escaped]
        by_cases closes : byte = quote
        · rw [if_pos closes, if_neg (by simp), SqlPolicy.consumeQuoted, if_neg escaped, if_pos closes]
          exact .done ⟨by omega, by omega, here.rest⟩
        · rw [if_neg closes]
          refine on (by omega) (by omega) ?_
          rw [here.rest, SqlPolicy.consumeQuoted, SqlPolicy.consumeQuoted, if_neg escaped, if_neg closes]
    | cons next rest =>
      have here' := here_of_drop here.rest
      have below' := here'.below
      rw [if_neg (show ¬bytes.length ≤ index + 1 by omega), advance_ok small within (by decide), ok_bind]
      by_cases escaped : (escapes && byte == 92) = true
      · rw [if_pos escaped]
        refine on (by omega) below' ?_
        rw [here'.rest, SqlPolicy.consumeQuoted, if_pos escaped]
      · rw [if_neg escaped]
        by_cases closes : byte = quote
        · rw [if_pos closes]
          by_cases twice : next = quote
          · rw [List.head?_cons, if_pos (congrArg some twice)]
            refine on (by omega) below' ?_
            rw [here'.rest, SqlPolicy.consumeQuoted, if_neg escaped, if_pos closes, if_pos twice]
          · rw [List.head?_cons, if_neg (fun same => twice (Option.some.inj same)), SqlPolicy.consumeQuoted, if_neg escaped, if_pos closes,
              if_neg twice]
            exact .done ⟨by omega, by omega, here.rest⟩
        · rw [if_neg closes]
          refine on (by omega) (by omega) ?_
          rw [here.rest, SqlPolicy.consumeQuoted, if_neg escaped, if_neg closes]

include within in
theorem consumeQuoted_ok (quote : Nat) (escapes : Bool) (below : start < bytes.length) :
    ∃ result, consumeQuoted bytes start quote escapes = .ok result ∧
      Leaves bytes (start + 1) (SqlPolicy.consumeQuoted quote escapes (bytes.drop (start + 1))) result := by
  rw [consumeQuoted, advance_ok small within (by decide), ok_bind]
  exact loop_ok (fun index scanning => consumeQuoted_round small scanning) ⟨Nat.le_refl _, below, rfl⟩ (by omega)

theorem consumeLineComment_round {target : List Nat} {index : Nat}
    (scanning : Scanning bytes start SqlPolicy.consumeLineComment target index) :
    Round (Scanning bytes start SqlPolicy.consumeLineComment target) (bytes.length - ·) (Left bytes start target) index
      (consumeLineCommentRound bytes index) := by
  obtain ⟨behind, within, rfl⟩ := scanning
  rw [consumeLineCommentRound]
  cases at_ : bytes.drop index with
  | nil =>
    have ends := end_of_drop within at_
    rw [if_neg (by omega)]
    exact .done ⟨behind, within, at_⟩
  | cons byte rest =>
    have here := here_of_drop at_
    have below := here.below
    rw [if_pos below, read_ok here.item, ok_bind, advance_ok small within (by decide), ok_bind]
    by_cases newline : byte = 10
    · rw [if_neg (not_not.mpr newline), SqlPolicy.consumeLineComment, if_pos newline]
      exact .done ⟨behind, within, at_⟩
    · rw [if_pos newline]
      refine .next ⟨by omega, below, ?_⟩ (by omega)
      rw [here.rest, SqlPolicy.consumeLineComment, if_neg newline]

include within in
theorem consumeLineComment_ok : ∃ stop, consumeLineComment bytes start = .ok stop ∧
    Left bytes start (SqlPolicy.consumeLineComment (bytes.drop start)) stop :=
  loop_ok (fun _ scanning => consumeLineComment_round small scanning) ⟨Nat.le_refl _, within, rfl⟩ (by omega)

theorem consumeBlockComment_round {target : Option (List Nat)} {index : Nat}
    (scanning : Scanning bytes start SqlPolicy.consumeBlockComment target index) :
    Round (Scanning bytes start SqlPolicy.consumeBlockComment target) (bytes.length - ·) (Leaves bytes start target) index
      (consumeBlockCommentRound bytes index) := by
  obtain ⟨behind, within, rfl⟩ := scanning
  rw [consumeBlockCommentRound, advance_ok small within (by decide), ok_bind]
  cases at_ : bytes.drop index with
  | nil =>
    have ends := end_of_drop within at_
    rw [if_neg (by omega)]
    exact .done trivial
  | cons byte rest =>
    have here := here_of_drop at_
    have below := here.below
    cases rest with
    | nil =>
      have ends := end_of_drop below here.rest
      rw [if_neg (by omega)]
      exact .done trivial
    | cons next rest =>
      have here' := here_of_drop here.rest
      have below' := here'.below
      rw [if_pos below', read_ok here.item, ok_bind, read_ok here'.item, ok_bind, SqlPolicy.consumeBlockComment]
      by_cases closes : byte = 42 ∧ next = 47
      · rw [if_pos closes, if_pos closes, advance_ok small within (by decide), ok_bind]
        exact .done ⟨by omega, by omega, here'.rest⟩
      · rw [if_neg closes, if_neg closes]
        refine .next ⟨by omega, by omega, ?_⟩ (by omega)
        rw [here.rest]

include within in
theorem consumeBlockComment_ok : ∃ result, consumeBlockComment bytes start = .ok result ∧
    Leaves bytes start (SqlPolicy.consumeBlockComment (bytes.drop start)) result :=
  loop_ok (fun _ scanning => consumeBlockComment_round small scanning) ⟨Nat.le_refl _, within, rfl⟩ (by omega)

theorem wordEnd_round {target : List Nat} {index : Nat} (scanning : Scanning bytes start (List.dropWhile isWordByte) target index) :
    Round (Scanning bytes start (List.dropWhile isWordByte) target) (bytes.length - ·) (Left bytes start target) index
      (wordEndRound bytes index) := by
  obtain ⟨behind, within, rfl⟩ := scanning
  rw [wordEndRound]
  cases at_ : bytes.drop index with
  | nil =>
    have ends := end_of_drop within at_
    rw [if_neg (by omega)]
    exact .done ⟨behind, within, at_⟩
  | cons byte rest =>
    have here := here_of_drop at_
    have below := here.below
    rw [if_pos below, read_ok here.item, ok_bind, advance_ok small within (by decide), ok_bind]
    by_cases inside : isWordByte byte = true
    · rw [if_pos inside]
      refine .next ⟨by omega, below, ?_⟩ (by omega)
      rw [here.rest, List.dropWhile_cons_of_pos inside]
    · rw [if_neg inside, List.dropWhile_cons_of_neg inside]
      exact .done ⟨behind, within, at_⟩

include within in
theorem wordEnd_ok : ∃ stop, wordEnd bytes start = .ok stop ∧ Left bytes start ((bytes.drop start).dropWhile isWordByte) stop :=
  loop_ok (fun _ scanning => wordEnd_round small scanning) ⟨Nat.le_refl _, within, rfl⟩ (by omega)

end Scans

/-! ### Words -/

theorem word_ascii {byte : Nat} (inside : isWordByte byte = true) : byte < 128 := by
  simp only [isWordByte, isAsciiAlphabetic, isAsciiDigit, Bool.or_eq_true, Bool.and_eq_true, decide_eq_true_eq, beq_iff_eq] at inside
  omega

theorem starts_ascii {byte : Nat} (starts : (isAsciiAlphabetic byte || byte == 95) = true) : byte < 128 := by
  simp only [isAsciiAlphabetic, Bool.or_eq_true, Bool.and_eq_true, decide_eq_true_eq, beq_iff_eq] at starts
  omega

section Words
variable {bytes : List Nat} {index byte : Nat} {rest : List Nat}

theorem boundary_ascii (present : bytes[index]? = some byte) (ascii : byte < 128) : isCharBoundary bytes index = true := by
  have below := (List.getElem?_eq_some_iff.mp present).1
  rw [isCharBoundary, if_neg (by omega), present, Option.any_some]
  simp [ascii]

/-- Behind an ASCII byte a character begins, or the text ends. -/
theorem boundary_behind (characters : Characters bytes) (present : bytes[index]? = some byte) (ascii : byte < 128) :
    isCharBoundary bytes (index + 1) = true := by
  obtain ⟨below, same⟩ := List.getElem?_eq_some_iff.mp present
  rw [isCharBoundary]
  by_cases last : bytes.length ≤ index + 1
  · rw [if_pos last]
    simp only [Bool.or_eq_true, beq_iff_eq]
    omega
  · have next := List.isChain_iff_getElem.mp characters index (by omega) (same ▸ ascii)
    rw [if_neg last, List.getElem?_eq_getElem (by omega), Option.any_some]
    simpa using next

/-- A word is a slice of its text. -/
theorem slice_word (characters : Characters bytes) (at_ : bytes.drop index = byte :: rest) (ascii : byte < 128) {stop : Nat}
    (left : Left bytes (index + 1) (rest.dropWhile isWordByte) stop) :
    slice bytes index stop = .ok (byte :: rest.takeWhile isWordByte) := by
  have here := here_of_drop at_
  have below := here.below
  obtain ⟨behind, within, later⟩ := left
  have whole := @List.takeWhile_append_dropWhile _ isWordByte rest
  have taken : stop = index + (byte :: rest.takeWhile isWordByte).length := by
    have lengths := congrArg List.length whole
    have lengths' := congrArg List.length at_
    have lengths'' := congrArg List.length later
    simp only [List.length_append, List.length_drop, List.length_cons] at lengths lengths' lengths'' ⊢
    omega
  have inside : bytes.drop index = (byte :: rest.takeWhile isWordByte) ++ rest.dropWhile isWordByte := by
    rw [at_, List.cons_append, whole]
  have text : (bytes.take stop).drop index = byte :: rest.takeWhile isWordByte := by
    rw [List.drop_take, inside, taken, Nat.add_sub_cancel_left, List.take_left']
    rfl
  have last : ∃ final, bytes[stop - 1]? = some final ∧ final < 128 := by
    have short : stop - 1 = index + (byte :: rest.takeWhile isWordByte).length - 1 := by omega
    have position : index + ((byte :: rest.takeWhile isWordByte).length - 1) = stop - 1 := by
      simp only [List.length_cons] at taken ⊢
      omega
    have found := @List.getElem?_drop _ bytes index ((byte :: rest.takeWhile isWordByte).length - 1)
    have inWord : (byte :: rest.takeWhile isWordByte).length - 1 < (byte :: rest.takeWhile isWordByte).length :=
      Nat.sub_lt (Nat.succ_pos _) Nat.one_pos
    rw [inside, List.getElem?_append_left inWord, position] at found
    have member := List.getElem_mem inWord
    refine ⟨_, by rw [← found, List.getElem?_eq_getElem inWord], ?_⟩
    rcases List.mem_cons.mp member with same | later
    · exact lt_of_eq_of_lt same ascii
    · exact word_ascii (List.mem_takeWhile_imp later)
  obtain ⟨final, present, small⟩ := last
  have boundary := boundary_behind characters present small
  rw [Nat.sub_add_cancel (by omega)] at boundary
  rw [slice, if_pos ⟨by omega, within⟩, boundary_ascii here.item ascii, boundary, text]
  rfl

end Words

/-! ### The lexer -/

section Lexer
variable {bytes : List Nat} (small : bytes.length < 4294967296) (characters : Characters bytes)

/-- How a round of the lexer follows the round without indices. -/
inductive Follows (bytes : List Nat) (index : Nat) (tokens : List SqlToken) : Option (Option SqlToken × List Nat) → Lexed → Prop
  | fails : Follows bytes index tokens none (.inr none)
  | goes {token : Option SqlToken} {after : List Nat} {stop : Nat} (left : Left bytes (index + 1) after stop) :
    Follows bytes index tokens (some (token, after)) (.inl (stop, tokens ++ token.toList))

theorem follows_behind {index start : Nat} {tokens : List SqlToken} {left : Option (List Nat)} {result : Option Nat}
    (later : index + 1 ≤ start) (leaves : Leaves bytes start left result) (token : Option SqlToken) :
    Follows bytes index tokens (left.map (token, ·)) (behind (tokens ++ token.toList) result) := by
  cases left with
  | none =>
    cases result with
    | none => exact .fails
    | some stop => exact leaves.elim
  | some rest =>
    cases result with
    | none => exact leaves.elim
    | some stop => exact .goes ⟨by have := leaves.behind; omega, leaves.within, leaves.rest⟩

include small characters

theorem lexRound_ok {escapes : Bool} {index byte : Nat} {rest : List Nat} (tokens : List SqlToken)
    (at_ : bytes.drop index = byte :: rest) :
    ∃ lexed, lexRound bytes escapes (index, tokens) = .ok lexed ∧ Follows bytes index tokens (lexStep escapes byte rest) lexed := by
  have here := here_of_drop at_
  have below := here.below
  have single (token : Option SqlToken) : Follows bytes index tokens (some (token, rest)) (.inl (index + 1, tokens ++ token.toList)) :=
    .goes ⟨Nat.le_refl _, below, here.rest⟩
  have silent {stop : Nat} {after : List Nat} (left : Left bytes (index + 1) after stop) :
      Follows bytes index tokens (some (none, after)) (.inl (stop, tokens)) := by
    simpa using @Follows.goes bytes index tokens none after stop left
  have advanced (count : Nat) (few : count ≤ 3) := advance_ok small (Nat.le_of_lt below) few
  rw [lexRound]
  rw [if_pos below, read_ok here.item, ok_bind, advanced 1 (by decide), ok_bind, advanced 2 (by decide), ok_bind, lexStep,
    here.next, here.second]
  by_cases blank : isAsciiWhitespace byte = true
  · rw [if_pos blank, if_pos blank]
    exact ⟨_, rfl, silent ⟨Nat.le_refl _, below, here.rest⟩⟩
  rw [if_neg blank, if_neg blank]
  by_cases quote : byte = 39 ∨ byte = 34
  · obtain ⟨result, consumed, leaves⟩ := consumeQuoted_ok small (Nat.le_of_lt below) byte escapes below
    rw [if_pos quote, if_pos quote, consumed, ok_bind]
    rw [here.rest] at leaves
    exact ⟨_, rfl, follows_behind (Nat.le_refl _) leaves (some .atom)⟩
  rw [if_neg quote, if_neg quote]
  by_cases back : byte = 96
  · obtain ⟨result, consumed, leaves⟩ := consumeQuoted_ok small (Nat.le_of_lt below) 96 false below
    rw [if_pos back, if_pos back, consumed, ok_bind]
    rw [here.rest] at leaves
    exact ⟨_, rfl, follows_behind (Nat.le_refl _) leaves (some .atom)⟩
  rw [if_neg back, if_neg back]
  by_cases hash : byte = 35
  · obtain ⟨stop, consumed, left⟩ := consumeLineComment_ok small below
    rw [if_pos hash, if_pos hash, consumed, ok_bind]
    rw [here.rest] at left
    exact ⟨_, rfl, silent left⟩
  rw [if_neg hash, if_neg hash]
  by_cases dashes : byte = 45 ∧ rest.head? = some 45 ∧
      (rest.tail.head?.any fun next => isAsciiWhitespace next || isAsciiControl next) = true
  · have fits : index + 2 ≤ bytes.length := by
      have second := here.next.trans dashes.2.1
      exact (List.getElem?_eq_some_iff.mp second).1
    obtain ⟨stop, consumed, left⟩ := consumeLineComment_ok small fits
    rw [if_pos dashes, if_pos dashes, consumed, ok_bind]
    rw [← List.tail_drop, here.rest] at left
    exact ⟨_, rfl, silent ⟨by have := left.behind; omega, left.within, left.rest⟩⟩
  rw [if_neg dashes, if_neg dashes]
  by_cases block : byte = 47 ∧ rest.head? = some 42
  · have fits : index + 2 ≤ bytes.length := by
      have second := here.next.trans block.2
      exact (List.getElem?_eq_some_iff.mp second).1
    obtain ⟨result, consumed, leaves⟩ := consumeBlockComment_ok small fits
    have executable : isExecutableComment bytes index = .ok (SqlPolicy.isExecutableComment rest.tail) := by
      rw [isExecutableComment, advanced 2 (by decide), ok_bind, advanced 3 (by decide), ok_bind, here.second, here.third]
      rfl
    rw [if_pos block, if_pos block, executable, ok_bind]
    by_cases runs : SqlPolicy.isExecutableComment rest.tail = true
    · rw [if_pos runs, if_pos runs]
      exact ⟨_, rfl, .fails⟩
    · rw [if_neg runs, if_neg runs, consumed, ok_bind]
      rw [← List.tail_drop, here.rest] at leaves
      have follows := @follows_behind bytes index _ tokens _ _ (by omega) leaves none
      rw [Option.toList_none, List.append_nil] at follows
      exact ⟨_, rfl, follows⟩
  rw [if_neg block, if_neg block]
  by_cases opens : byte = 40
  · rw [if_pos opens, if_pos opens]
    exact ⟨_, rfl, single (some .openParen)⟩
  rw [if_neg opens, if_neg opens]
  by_cases closes : byte = 41
  · rw [if_pos closes, if_pos closes]
    exact ⟨_, rfl, single (some .closeParen)⟩
  rw [if_neg closes, if_neg closes]
  by_cases separates : byte = 59
  · rw [if_pos separates, if_pos separates]
    exact ⟨_, rfl, single (some .semicolon)⟩
  rw [if_neg separates, if_neg separates]
  by_cases starts : (isAsciiAlphabetic byte || byte == 95) = true
  · obtain ⟨stop, consumed, left⟩ := wordEnd_ok small below
    rw [here.rest] at left
    have text := slice_word characters at_ (starts_ascii starts) left
    rw [if_pos starts, if_pos starts, consumed, ok_bind, text, ok_bind]
    exact ⟨_, rfl, .goes left⟩
  rw [if_neg starts, if_neg starts]
  by_cases punctuation : isAsciiPunctuation byte = true
  · rw [if_pos punctuation, if_pos punctuation]
    exact ⟨_, rfl, single (some (.symbol byte))⟩
  rw [if_neg punctuation, if_neg punctuation]
  exact ⟨_, rfl, silent ⟨Nat.le_refl _, below, here.rest⟩⟩

/-- The lexer ends with the tokens of the text. -/
theorem lexMysql_ok (escapes : Bool) : lexMysql bytes escapes = .ok (SqlPolicy.lexMysql bytes escapes) := by
  have rounds : ∀ state : Nat × List SqlToken,
      (state.1 ≤ bytes.length ∧ (SqlPolicy.lexMysql (bytes.drop state.1) escapes).map (state.2 ++ ·) =
        SqlPolicy.lexMysql bytes escapes) →
      Round (fun state : Nat × List SqlToken => state.1 ≤ bytes.length ∧
          (SqlPolicy.lexMysql (bytes.drop state.1) escapes).map (state.2 ++ ·) = SqlPolicy.lexMysql bytes escapes)
        (fun state => bytes.length - state.1) (· = SqlPolicy.lexMysql bytes escapes) state (lexRound bytes escapes state) := by
    intro state holds
    obtain ⟨index, tokens⟩ := state
    obtain ⟨within, same⟩ := holds
    dsimp only at within same
    cases at_ : bytes.drop index with
    | nil =>
      have ends := end_of_drop within at_
      rw [at_, lexMysql_nil, Option.map_some, List.append_nil] at same
      rw [lexRound, if_neg (by omega)]
      exact .done same
    | cons byte rest =>
      have here := here_of_drop at_
      have below := here.below
      obtain ⟨lexed, round, follows⟩ := lexRound_ok small characters tokens at_
      rw [round]
      rw [at_] at same
      cases read : lexStep escapes byte rest with
      | none =>
        rw [read] at follows
        cases follows
        have failed : SqlPolicy.lexMysql (byte :: rest) escapes = none := by
          rw [SqlPolicy.lexMysql, Scanner.scan_cons (lexStep_advances escapes), read]
          rfl
        rw [failed] at same
        exact .done same
      | some found =>
        obtain ⟨token, after⟩ := found
        rw [read] at follows
        cases follows with
        | @goes _ _ stop left =>
          have behind := left.behind
          refine .next ⟨left.within, ?_⟩ (by dsimp only; omega)
          dsimp only
          rw [left.rest, ← same, lexMysql_step read, Option.map_map]
          congr 1
          funext later
          exact List.append_assoc ..
  obtain ⟨result, ended, rfl⟩ := @loop_ok _ _ _ _ _ _ rounds (bytes.length + 1) (0, []) ⟨Nat.zero_le _, by simp⟩
    (by dsimp only; omega)
  exact ended

theorem lexConsistently_ok : lexConsistently bytes = .ok (SqlPolicy.lexConsistently bytes) := by
  rw [lexConsistently, lexMysql_ok small characters, ok_bind, SqlPolicy.lexConsistently]
  cases SqlPolicy.lexMysql bytes true with
  | none => rfl
  | some escaped =>
    dsimp only
    rw [lexMysql_ok small characters, ok_bind]
    cases SqlPolicy.lexMysql bytes false <;> rfl

theorem containsDangerousSqlKeyword_ok : containsDangerousSqlKeyword bytes = .ok (SqlPolicy.containsDangerousSqlKeyword bytes) := by
  rw [containsDangerousSqlKeyword, lexConsistently_ok small characters, ok_bind, SqlPolicy.containsDangerousSqlKeyword]
  cases SqlPolicy.lexConsistently bytes <;> rfl

end Lexer

/-- Every token takes a byte. -/
theorem lexMysql_length {escapes : Bool} {bytes : List Nat} {tokens : List SqlToken}
    (lexed : SqlPolicy.lexMysql bytes escapes = some tokens) : tokens.length ≤ bytes.length := by
  induction shorter : bytes.length using Nat.strong_induction_on generalizing bytes tokens with
  | _ length ih =>
    cases bytes with
    | nil =>
      obtain rfl := Option.some.inj lexed
      exact Nat.zero_le _
    | cons byte rest =>
      obtain ⟨token, after, later, read, behind, rfl⟩ := lexMysql_some lexed
      have less := lexStep_advances escapes byte rest token after read
      rw [List.length_cons] at shorter
      have fits := ih after.length (by omega) behind rfl
      have one : token.toList.length ≤ 1 := by cases token <;> simp
      rw [List.length_append]
      omega

/-! ### Classification -/

section Statement

theorem mem_semicolons {tokens : List SqlToken} {index : Nat} :
    index ∈ semicolons tokens ↔ tokens[index]? = some .semicolon := by
  rw [semicolons, List.mem_filterMap]
  constructor
  · intro found
    obtain ⟨⟨token, position⟩, listed, same⟩ := found
    obtain ⟨rfl, picked⟩ := Option.ite_none_right_eq_some.mp same
    obtain rfl := Option.some.inj picked
    exact List.mem_zipIdx_iff_getElem?.mp listed
  · intro found
    exact ⟨(.semicolon, index), List.mem_zipIdx_iff_getElem?.mpr found, if_pos rfl⟩

theorem length_semicolons (tokens : List SqlToken) : (semicolons tokens).length = tokens.count .semicolon := by
  have picks : (fun entry : SqlToken × Nat => (if entry.1 = .semicolon then some entry.2 else none).isSome) =
      (· == .semicolon) ∘ Prod.fst := by
    funext entry
    by_cases separates : entry.1 = .semicolon <;> simp [separates]
  have firsts : tokens.zipIdx.map Prod.fst = tokens := List.zipIdx_map_fst 0 tokens
  rw [semicolons, List.length_filterMap_eq_countP, List.count]
  change tokens.zipIdx.countP (fun entry => (if entry.1 = .semicolon then some entry.2 else none).isSome) = _
  rw [picks, ← List.countP_map, firsts]

theorem singleStatement_ok {tokens : List SqlToken} (short : tokens.length < 4294967296) :
    singleStatement tokens = .ok (SqlPolicy.singleStatement tokens) := by
  have count := length_semicolons tokens
  have members (index : Nat) := @mem_semicolons tokens index
  rw [singleStatement, SqlPolicy.singleStatement]
  generalize semicolons tokens = indices at count members
  match indices with
  | [] =>
    rw [if_pos (List.count_eq_zero.mp count.symm)]
    rfl
  | [index] =>
    have found := (members index).mp List.mem_cons_self
    have below := (List.getElem?_eq_some_iff.mp found).1
    have several : ¬SqlToken.semicolon ∉ tokens := not_not.mpr (List.mem_of_getElem? found)
    have ended : tokens.getLast? = some .semicolon ↔ index + 1 = tokens.length := by
      rw [List.getLast?_eq_getElem?, ← members, List.mem_singleton]
      omega
    have moved : advance index 1 = .ok (index + 1) := add_ok (by unfold usizeMax; omega)
    dsimp only
    rw [if_neg several, moved, ok_bind]
    by_cases last : index + 1 = tokens.length
    · rw [if_pos last, front_ok (Nat.le_of_lt below), ok_bind, if_pos ⟨count.symm, ended.mpr last⟩, List.dropLast_eq_take,
        ← last, Nat.add_sub_cancel]
      rfl
    · rw [if_neg last, if_neg fun single => last (ended.mp single.2)]
      rfl
  | _ :: _ :: _ =>
    have several : ¬SqlToken.semicolon ∉ tokens := by
      rw [← List.count_eq_zero, ← count]
      simp
    rw [if_neg several, if_neg fun single => by simp [← count] at single]
    rfl

theorem balancedFrom_ok (depth : Nat) (tokens : List SqlToken) :
    balancedFrom depth tokens = .ok (finalDepth depth tokens == some 0) := by
  fun_induction finalDepth depth tokens with
  | case1 depth => simp [balancedFrom]
  | case2 depth rest ih => exact ih
  | case3 rest => rfl
  | case4 depth rest open_ ih =>
    rw [balancedFrom, if_neg open_, sub_ok (Nat.pos_of_ne_zero open_), ok_bind]
    exact ih
  | case5 depth token rest _ _ ih =>
    cases token <;> first | exact ih | contradiction

/-- Tokens never close more than they opened, from a depth on. -/
def Nested (depth : Nat) (tokens : List SqlToken) : Prop := (finalDepth depth tokens).isSome = true

def Plain (token : SqlToken) : Prop := token ≠ .openParen ∧ token ≠ .closeParen

theorem nested_plain {depth : Nat} {token : SqlToken} (plain : Plain token) (rest : List SqlToken) :
    Nested depth (token :: rest) ↔ Nested depth rest := by
  cases token with
  | openParen => exact absurd rfl plain.1
  | closeParen => exact absurd rfl plain.2
  | _ => exact Iff.rfl

theorem isWord_some {words : List String} {token : Option SqlToken} (isWord_ : isWord words token = true) :
    ∃ text, token = some (.word text) := by
  unfold isWord at isWord_
  split at isWord_
  · exact ⟨_, rfl⟩
  · cases isWord_

section With
variable {tokens : List SqlToken} (short : tokens.length < 4294967296)
include short

/-- The depth of a nested statement never underflows, and it is bounded by its tokens. -/
theorem classifyWithFrom_ok {index depth : Nat} {rest : List SqlToken} (at_ : tokens.drop index = rest)
    (bounded : depth ≤ index) (within : index ≤ tokens.length) (nested : Nested depth rest) :
    classifyWithFrom tokens index depth rest = .ok (SqlPolicy.classifyWithFrom depth rest) := by
  induction rest generalizing index depth with
  | nil => rfl
  | cons token rest ih =>
    have below : index < tokens.length := by
      have length := congrArg List.length at_
      rw [List.length_drop, List.length_cons] at length
      omega
    have behind : tokens.drop (index + 1) = rest := by
      rw [← List.tail_drop, at_, List.tail_cons]
    cases token with
    | openParen =>
      have room : depth + 1 ≤ depthLimit := by
        unfold depthLimit
        omega
      rw [classifyWithFrom, add_ok room, ok_bind, SqlPolicy.classifyWithFrom]
      refine ih behind (by omega) below ?_
      rw [Nested, finalDepth, Nat.min_eq_left room] at nested
      exact nested
    | closeParen =>
      have open_ : depth ≠ 0 := by
        rintro rfl
        cases nested
      rw [classifyWithFrom, sub_ok (Nat.pos_of_ne_zero open_), ok_bind, SqlPolicy.classifyWithFrom]
      refine ih behind (by omega) below ?_
      rw [Nested, finalDepth, if_neg open_] at nested
      exact nested
    | word text =>
      rw [classifyWithFrom, SqlPolicy.classifyWithFrom, suffix_ok within, at_]
      split
      · rfl
      split
      · rfl
      · exact ih behind (by omega) below nested
    | atom => exact ih behind (by omega) below nested
    | semicolon => exact ih behind (by omega) below nested
    | symbol byte => exact ih behind (by omega) below nested

theorem classifyWith_ok (first : ∃ text, tokens.head? = some (.word text)) (nested : Nested 0 tokens) :
    classifyWith tokens = .ok (SqlPolicy.classifyWith tokens) := by
  obtain ⟨text, first⟩ := first
  obtain ⟨rest, rfl⟩ := List.head?_eq_some_iff.mp first
  exact classifyWithFrom_ok short rfl (Nat.zero_le _) (by simp) nested

end With

section Explain
variable {body : List SqlToken} (short : body.length < 4294967296)

/-- Where the loop over the options is: what it skipped was neither opened nor closed. -/
structure Skipping (body : List SqlToken) (index : Nat) : Prop where
  within : index ≤ body.length
  same : ∃ fuel, (body.drop index).length ≤ fuel ∧ skipExplainOptions fuel (body.drop index) = skipExplainOptions body.length body
  nested : Nested 0 body → Nested 0 (body.drop index)

include short

/-- The sign behind FORMAT is skipped where it stands. -/
theorem skip_sign {index : Nat} (within : index ≤ body.length) :
    ∃ next, skipSign body index = .ok next ∧ index ≤ next ∧ next ≤ body.length ∧
      body.drop next = (if (body.drop index).head? = some (.symbol 61) then (body.drop index).tail else body.drop index) ∧
      (Nested 0 (body.drop index) → Nested 0 (body.drop next)) := by
  rw [skipSign, List.head?_drop, advance_ok short within (by decide)]
  by_cases sign : body[index]? = some (.symbol 61)
  · have at_ := drop_of_some sign
    rw [if_pos sign, if_pos sign, List.tail_drop]
    refine ⟨index + 1, rfl, by omega, (here_of_drop at_).below, rfl, fun nested => ?_⟩
    rw [at_] at nested
    exact nested
  · rw [if_neg sign, if_neg sign]
    exact ⟨index, rfl, Nat.le_refl _, within, rfl, id⟩

/-- So is the format, a word or quoted text. -/
theorem skip_format {index : Nat} (within : index ≤ body.length) :
    ∃ next, skipFormat body index = .ok next ∧ index ≤ next ∧ next ≤ body.length ∧
      body.drop next = (match (body.drop index).head? with
        | some (.word _) | some .atom => (body.drop index).tail
        | _ => body.drop index) ∧ (Nested 0 (body.drop index) → Nested 0 (body.drop next)) := by
  rw [skipFormat, List.head?_drop, advance_ok short within (by decide)]
  have skipped {token : SqlToken} (present : body[index]? = some token) (plain : Plain token) :
      index + 1 ≤ body.length ∧ (Nested 0 (body.drop index) → Nested 0 (body.drop (index + 1))) := by
    have at_ := drop_of_some present
    refine ⟨(here_of_drop at_).below, fun nested => ?_⟩
    rw [at_] at nested
    exact (nested_plain plain _).mp nested
  cases present : body[index]? with
  | none => exact ⟨index, rfl, Nat.le_refl _, within, rfl, id⟩
  | some token =>
    cases token with
    | word text =>
      obtain ⟨fits, nests⟩ := skipped present ⟨nofun, nofun⟩
      exact ⟨index + 1, rfl, by omega, fits, List.tail_drop.symm, nests⟩
    | atom =>
      obtain ⟨fits, nests⟩ := skipped present ⟨nofun, nofun⟩
      exact ⟨index + 1, rfl, by omega, fits, List.tail_drop.symm, nests⟩
    | _ => exact ⟨index, rfl, Nat.le_refl _, within, rfl, id⟩

theorem explainRound_ok {index : Nat} (skipping : Skipping body index) :
    Round (Skipping body) (body.length - ·)
      (fun stop => stop ≤ body.length ∧ body.drop stop = skipExplainOptions body.length body ∧
        (Nested 0 body → Nested 0 (body.drop stop))) index (explainRound body index) := by
  obtain ⟨within, ⟨fuel, enough, same⟩, nested⟩ := skipping
  have option {words : List String} (isWord_ : isWord words body[index]? = true) :
      ∃ less, fuel = less + 1 ∧ index + 1 ≤ body.length ∧ (body.drop (index + 1)).length ≤ less ∧
        (Nested 0 body → Nested 0 (body.drop (index + 1))) := by
    obtain ⟨text, present⟩ := isWord_some isWord_
    have at_ := drop_of_some present
    rw [at_, List.length_cons] at enough
    refine ⟨fuel - 1, by omega, (here_of_drop at_).below, by omega, fun whole => ?_⟩
    have inner := nested whole
    rw [at_] at inner
    exact inner
  rw [explainRound]
  by_cases analyze : isWord ["ANALYZE"] body[index]? = true
  · obtain ⟨less, rfl, fits, shorter, nests⟩ := option analyze
    rw [if_pos analyze, advance_ok short within (by decide), ok_bind]
    refine .next ⟨fits, ⟨less, shorter, ?_⟩, nests⟩ (by omega)
    rw [← same, skipExplainOptions, List.head?_drop, if_pos analyze, List.tail_drop]
  rw [if_neg analyze]
  by_cases format : isWord ["FORMAT"] body[index]? = true
  · obtain ⟨less, rfl, fits, shorter, nests⟩ := option format
    obtain ⟨value, sign, behind, fits', left, nests'⟩ := skip_sign short fits
    obtain ⟨next, skipped, behind', fits'', left', nests''⟩ := skip_format short fits'
    rw [if_pos format, advance_ok short within (by decide), ok_bind, sign, ok_bind, skipped, ok_bind]
    refine .next ⟨fits'', ⟨less, ?_, ?_⟩, fun whole => nests'' (nests' (nests whole))⟩ (by omega)
    · rw [List.length_drop] at shorter ⊢
      omega
    · rw [← same, skipExplainOptions, List.head?_drop, if_neg analyze, if_pos format, List.tail_drop]
      rw [left', left]
      all_goals rfl
  rw [if_neg format]
  refine .done ⟨within, ?_, nested⟩
  rw [← same]
  cases fuel with
  | zero => rfl
  | succ fuel => rw [skipExplainOptions, List.head?_drop, if_neg analyze, if_neg format]

theorem classifyExplainBody_ok (nested : Nested 0 body) : classifyExplainBody body = .ok (SqlPolicy.classifyExplainBody body) := by
  have start : Skipping body 0 := ⟨Nat.zero_le _, ⟨body.length, Nat.le_refl _, rfl⟩, id⟩
  obtain ⟨index, ended, within, left, nests⟩ := @loop_ok _ _ _ _ _ _ (fun _ skipping => explainRound_ok short skipping)
    (body.length + 1) 0 start (by omega)
  have inner := nests nested
  have shorter : (body.drop index).length < 4294967296 := by
    rw [List.length_drop]
    omega
  rw [classifyExplainBody, ended, ok_bind, suffix_ok within, ok_bind, left]
  rw [left] at inner shorter
  rw [SqlPolicy.classifyExplainBody]
  generalize skipExplainOptions body.length body = remaining at inner shorter
  have second : remaining[1]? = remaining.tail.head? := by
    cases remaining with
    | nil => rfl
    | cons first rest => rw [List.tail_cons, List.head?_eq_getElem?]; rfl
  rw [second]
  dsimp only
  by_cases with_ : isWord ["WITH"] remaining.head? = true
  · rw [classifyWith_ok shorter (isWord_some with_) inner]
    (repeat' split) <;> rfl
  · rw [if_neg with_, if_neg with_]
    (repeat' split) <;> rfl

end Explain

section Classify
variable {tokens : List SqlToken} (short : tokens.length < 4294967296) (nested : Nested 0 tokens)
include short nested

theorem classifyDescribe_ok : classifyDescribe tokens = .ok (SqlPolicy.classifyDescribe tokens) := by
  rw [classifyDescribe, SqlPolicy.classifyDescribe, classifyExplainBody_ok short nested]
  (repeat' split) <;> rfl

theorem classifyStatement_ok : classifyStatement tokens = .ok (SqlPolicy.classifyStatement tokens) := by
  have behind {words : List String} (isWord_ : isWord words tokens.head? = true) :
      suffix tokens 1 = .ok tokens.tail ∧ tokens.tail.length < 4294967296 ∧ Nested 0 tokens.tail := by
    obtain ⟨text, first⟩ := isWord_some isWord_
    obtain ⟨rest, rfl⟩ := List.head?_eq_some_iff.mp first
    rw [List.length_cons] at short
    exact ⟨suffix_ok (by simp), by rw [List.tail_cons]; omega, nested⟩
  rw [classifyStatement, SqlPolicy.classifyStatement]
  split
  · rfl
  split
  · rfl
  split
  next describe =>
    obtain ⟨present, shorter, inner⟩ := behind describe
    rw [present, ok_bind, classifyDescribe_ok shorter inner]
  split
  next explain =>
    obtain ⟨present, shorter, inner⟩ := behind explain
    rw [present, ok_bind, classifyExplainBody_ok shorter inner]
  split
  next with_ => exact classifyWith_ok short (isWord_some with_) nested
  (repeat' split) <;> rfl

end Classify

theorem singleStatement_length {tokens statement : List SqlToken} (single : SqlPolicy.singleStatement tokens = some statement) :
    statement.length ≤ tokens.length := by
  rw [SqlPolicy.singleStatement] at single
  split at single
  · obtain rfl := Option.some.inj single
    exact Nat.le_refl _
  split at single
  · obtain rfl := Option.some.inj single
    rw [List.length_dropLast]
    omega
  · cases single

end Statement

section Policy
variable {bytes : List Nat} (small : bytes.length < 4294967296) (characters : Characters bytes)
include small characters

theorem classifySql_ok : classifySql bytes = .ok (SqlPolicy.classifySql bytes) := by
  rw [classifySql, lexConsistently_ok small characters, ok_bind, SqlPolicy.classifySql]
  cases lexed : SqlPolicy.lexConsistently bytes with
  | none => rfl
  | some tokens =>
    have fits : tokens.length ≤ bytes.length := by
      simp only [SqlPolicy.lexConsistently, Option.bind_eq_bind, Option.bind_eq_some_iff] at lexed
      obtain ⟨escaped, lexed, plain, -, same⟩ := lexed
      obtain ⟨-, same⟩ := Option.ite_none_right_eq_some.mp same
      obtain rfl := Option.some.inj same
      exact lexMysql_length lexed
    have single := @singleStatement_ok tokens (by omega)
    dsimp only
    rw [single, ok_bind, Option.bind_some]
    cases alone : SqlPolicy.singleStatement tokens with
    | none => rfl
    | some statement =>
      have shorter := singleStatement_length alone
      have balanced := balancedFrom_ok 0 statement
      dsimp only
      by_cases empty : statement.isEmpty = true
      · rw [if_pos empty, empty, Bool.true_or, if_pos rfl]
        rfl
      · rw [if_neg empty, parenthesesAreBalanced, balanced, ok_bind, SqlPolicy.parenthesesAreBalanced]
        cases depth : finalDepth 0 statement == some 0 with
        | false => simp
        | true =>
          have nested : Nested 0 statement := by
            rw [Nested, beq_iff_eq.mp depth]
            rfl
          rw [if_pos rfl, classifyStatement_ok (by omega) nested]
          simp [empty]

theorem mcpMayExecute_ok : mcpMayExecute bytes = .ok (SqlPolicy.mcpMayExecute bytes) := by
  rw [mcpMayExecute, classifySql_ok small characters, ok_bind, containsDangerousSqlKeyword_ok small characters, ok_bind,
    SqlPolicy.mcpMayExecute]
  (repeat' split) <;> rfl

end Policy

section Encoding

/-- The bytes of one character: the first begins a character and, when it is ASCII, stands alone. -/
structure Encoded (bytes : List Nat) (first : Nat) (others : List Nat) : Prop where
  bytes : bytes = first :: others
  begins : first < 128 ∨ 192 ≤ first
  alone : first < 128 → others = []
  continues : ∀ byte ∈ others, 128 ≤ byte

theorem encoded (c : Char) : ∃ first others, Encoded ((String.utf8EncodeChar c).map UInt8.toNat) first others := by
  have bound : c.val.toNat < 1114112 := by
    have valid := c.valid
    simp only [UInt32.isValidChar, Nat.isValidChar] at valid
    omega
  have several (first : UInt8) (others : List UInt8) (large : 192 ≤ first.toNat)
      (continues : ∀ byte ∈ others.map UInt8.toNat, 128 ≤ byte) :
      ∃ initial behind, Encoded ((first :: others).map UInt8.toNat) initial behind :=
    ⟨_, _, rfl, .inr large, fun small => absurd large (by omega), continues⟩
  unfold String.utf8EncodeChar
  dsimp only
  split
  · refine ⟨_, _, rfl, .inl ?_, fun _ => rfl, fun _ absent => nomatch absent⟩
    rw [UInt8.toNat_ofNat']
    omega
  split
  · apply several
    · rw [UInt8.toNat_ofNat']
      omega
    · intro byte present
      simp only [List.map_cons, List.map_nil, UInt8.toNat_ofNat', List.mem_cons, List.not_mem_nil, or_false] at present
      omega
  split
  · apply several
    · rw [UInt8.toNat_ofNat']
      omega
    · intro byte present
      simp only [List.map_cons, List.map_nil, UInt8.toNat_ofNat', List.mem_cons, List.not_mem_nil, or_false] at present
      omega
  · apply several
    · rw [UInt8.toNat_ofNat']
      omega
    · intro byte present
      simp only [List.map_cons, List.map_nil, UInt8.toNat_ofNat', List.mem_cons, List.not_mem_nil, or_false] at present
      omega

theorem continuations_chain {others rest : List Nat} (continues : ∀ byte ∈ others, 128 ≤ byte) (chain : Characters rest) :
    Characters (others ++ rest) := by
  induction others with
  | nil => exact chain
  | cons byte others ih =>
    have tail := ih fun later present => continues later (List.mem_cons_of_mem byte present)
    have large := continues byte List.mem_cons_self
    cases shape : others ++ rest with
    | nil =>
      rw [List.cons_append, shape]
      exact .singleton byte
    | cons next behind =>
      rw [shape] at tail
      rw [List.cons_append, shape]
      exact .cons_cons (fun small => absurd large (by omega)) tail

/-- A text of characters, and what its first byte is. -/
theorem characters_flatMap (text : List Char) :
    Characters (text.flatMap fun c => (String.utf8EncodeChar c).map UInt8.toNat) ∧
      ∀ first ∈ (text.flatMap fun c => (String.utf8EncodeChar c).map UInt8.toNat).head?, first < 128 ∨ 192 ≤ first := by
  induction text with
  | nil => exact ⟨.nil, fun _ absent => nomatch absent⟩
  | cons c text ih =>
    obtain ⟨chain, begins⟩ := ih
    obtain ⟨first, others, shape⟩ := encoded c
    rw [List.flatMap_cons, shape.bytes, List.cons_append]
    refine ⟨?_, fun _ same => Option.some.inj same ▸ shape.begins⟩
    have tail := continuations_chain shape.continues chain
    cases behind : others ++ text.flatMap fun c => (String.utf8EncodeChar c).map UInt8.toNat with
    | nil => exact .singleton first
    | cons next rest =>
      rw [behind] at tail
      refine .cons_cons (fun small => ?_) tail
      rw [shape.alone small, List.nil_append] at behind
      exact begins next (by rw [behind]; rfl)

theorem toList_loop (bytes : ByteArray) (index : Nat) (before : List UInt8) :
    ByteArray.toList.loop bytes index before = before.reverse ++ bytes.data.toList.drop index := by
  fun_induction ByteArray.toList.loop bytes index before with
  | case1 index before below ih =>
    have inside : index < bytes.data.toList.length := by simpa using below
    have present : bytes.get! index = bytes.data.toList[index] := by
      have inside : index < bytes.data.size := below
      show bytes.data[index]! = _
      rw [getElem!_pos bytes.data index inside, Array.getElem_toList]
    rw [ih, List.drop_eq_getElem_cons inside, present, List.reverse_cons, List.append_assoc]
    rfl
  | case2 index before ended =>
    rw [List.drop_eq_nil_of_le (by simpa using Nat.le_of_not_lt ended), List.append_nil]

theorem asBytes_eq (sql : String) : asBytes sql = (Text.utf8 sql).map UInt8.toNat := by
  rw [asBytes, Text.utf8, String.toUTF8_eq_toByteArray, ByteArray.toList, toList_loop, List.reverse_nil, List.nil_append, List.drop_zero]

theorem asBytes_length (sql : String) : (asBytes sql).length = sql.utf8ByteSize := by
  rw [asBytes_eq, List.length_map, Text.utf8, Array.length_toList]
  rfl

theorem characters_asBytes (sql : String) : Characters (asBytes sql) := by
  obtain ⟨text, rfl⟩ : ∃ text, sql = String.ofList text := ⟨sql.toList, String.ofList_toList.symm⟩
  have bytes : asBytes (String.ofList text) = text.flatMap fun c => (String.utf8EncodeChar c).map UInt8.toNat := by
    rw [asBytes_eq, Text.utf8_ofList, List.map_flatMap]
  exact bytes ▸ (characters_flatMap text).1

end Encoding

/-- Classifying a statement and deciding whether it may run return without a panic, whatever
characters the statement holds, and with the answers that the policy without indices gives. -/
theorem policy_never_panics (sql : String) (short : sql.utf8ByteSize < 4294967296) :
    classifySql (asBytes sql) = .ok (SqlPolicy.classifySql (asBytes sql)) ∧
      mcpMayExecute (asBytes sql) = .ok (SqlPolicy.mcpMayExecute (asBytes sql)) := by
  have small : (asBytes sql).length < 4294967296 := asBytes_length sql ▸ short
  exact ⟨classifySql_ok small (characters_asBytes sql), mcpMayExecute_ok small (characters_asBytes sql)⟩

theorem policy_never_panics_multibyte :
    "SELECT 'é\\é' AS été".utf8ByteSize < 4294967296 ∧
      classifySql (asBytes "SELECT 'é\\é' AS été") = .ok (SqlPolicy.classifySql (asBytes "SELECT 'é\\é' AS été")) ∧
      mcpMayExecute (asBytes "SELECT 'é\\é' AS été") = .ok (SqlPolicy.mcpMayExecute (asBytes "SELECT 'é\\é' AS été")) := by
  have short : "SELECT 'é\\é' AS été".utf8ByteSize < 4294967296 := by decide +kernel
  exact ⟨short, policy_never_panics "SELECT 'é\\é' AS été" short⟩

end Pipa.SqlPolicy.Indexed
