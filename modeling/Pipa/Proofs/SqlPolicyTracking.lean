import Pipa.Proofs.SqlPolicyLexing

/-! The policy's tokens track the lexemes of the server over a whole statement. -/

namespace Pipa.SqlPolicy
open SqlLexer

/-- Where the policy's lexer resumes behind a lexeme of the server. -/
def resume (swallowing : Bool) (after : List Nat) : List Nat :=
  if swallowing then after.dropWhile isWordByte else after

/-- One lexeme of the server and the policy's tokens for it. -/
structure Tracked (unit : Nat) (rest : List Nat) (tokens : List SqlToken) (lexeme : Option Token) (after : List Nat)
    (emitted later : List SqlToken) : Prop where
  read : SqlLexer.lexeme serverRules unit rest = some (lexeme, after)
  emits : Emits false lexeme emitted
  outside : swallows lexeme = true → startsWith isDigit after = false
  lexed : lexMysql (resume (swallows lexeme) after) true = some later
  tokens : tokens = emitted ++ later

section Lexemes
variable {unit : Nat} {rest : List Nat} {tokens : List SqlToken}

private theorem space_tracked (lexed : lexMysql (unit :: rest) true = some tokens) (space : isSpace unit = true) :
    ∃ lexeme after emitted later, Tracked unit rest tokens lexeme after emitted later := by
  have read : lexStep true unit rest = some (none, rest) := by
    by_cases vertical : unit = 11
    · subst unit
      rfl
    · have blank : isAsciiWhitespace unit = true := by
        simp only [isSpace, isAsciiWhitespace, Bool.or_eq_true, Bool.and_eq_true, decide_eq_true_eq, beq_iff_eq] at space ⊢
        omega
      rw [lexStep, if_pos blank]
  rw [lexMysql_step read] at lexed
  obtain ⟨later, behind, rfl⟩ := Option.map_eq_some_iff.mp lexed
  exact ⟨none, rest, [], later, by rw [SqlLexer.lexeme, if_pos space], emits_gap (by simp), by simp [swallows], behind, rfl⟩

private theorem string_tracked (lexed : lexMysql (unit :: rest) true = some tokens) (quote : unit = 39 ∨ unit = 34) :
    ∃ lexeme after emitted later, Tracked unit rest tokens lexeme after emitted later := by
  obtain ⟨token, after, later, read, behind, rfl⟩ := lexMysql_some lexed
  have consumed : lexStep true unit rest = (consumeQuoted unit true rest).map (some .atom, ·) := by
    rcases quote with rfl | rfl <;> rfl
  rw [consumed, consumeQuoted_eq (by omega), Option.map_map] at read
  obtain ⟨⟨body, left⟩, closed, same⟩ := Option.map_eq_some_iff.mp read
  obtain ⟨rfl, rfl⟩ := Prod.mk.inj same
  refine ⟨some (.string (unit :: body)), left, [.atom], later, ?_, ?_, by simp [swallows], behind, rfl⟩
  · rcases quote with rfl | rfl <;> simp [SqlLexer.lexeme, isSpace, serverRules, closed]
  · exact emits_plain (by simp) (by simp) (by simp [Plain]) (by simp) (by simp)

private theorem quoted_tracked (lexed : lexMysql (96 :: rest) true = some tokens) :
    ∃ lexeme after emitted later, Tracked 96 rest tokens lexeme after emitted later := by
  obtain ⟨token, after, later, read, behind, rfl⟩ := lexMysql_some lexed
  have consumed : lexStep true 96 rest = (consumeQuoted 96 false rest).map (some .atom, ·) := rfl
  rw [consumed, consumeQuoted_eq (by decide), Option.map_map] at read
  obtain ⟨⟨body, left⟩, closed, same⟩ := Option.map_eq_some_iff.mp read
  obtain ⟨rfl, rfl⟩ := Prod.mk.inj same
  refine ⟨some (.quoted (96 :: body)), left, [.atom], later, ?_, ?_, by simp [swallows], behind, rfl⟩
  · simp [SqlLexer.lexeme, isSpace, closed]
  · exact emits_plain (by simp) (by simp) (by simp [Plain]) (by simp) (by simp)

/-- A `--` at the very end is a comment for the server only. -/
private theorem line_tracked (lexed : lexMysql (unit :: rest) true = some tokens)
    (comment : unit = 35 ∨ startsLineComment unit rest = true) :
    ∃ lexeme after emitted later, Tracked unit rest tokens lexeme after emitted later := by
  have skipped {left : List Nat} (read : lexStep true unit rest = some (none, left)) (same : left = skipLine rest)
      (server : SqlLexer.lexeme serverRules unit rest = some (none, skipLine rest)) :
      ∃ lexeme after emitted later, Tracked unit rest tokens lexeme after emitted later := by
    rw [lexMysql_step read, same] at lexed
    obtain ⟨later, behind, rfl⟩ := Option.map_eq_some_iff.mp lexed
    exact ⟨none, _, [], later, server, emits_gap (by simp), by simp [swallows], behind, rfl⟩
  rcases comment with rfl | comment
  · exact skipped rfl (consumeLineComment_eq rest) rfl
  · simp only [startsLineComment, Bool.and_eq_true, beq_iff_eq] at comment
    obtain ⟨⟨rfl, second⟩, third⟩ := comment
    cases rest with
    | nil => cases second
    | cons dash rest =>
      obtain rfl : dash = 45 := Option.some.inj second
      cases rest with
      | nil =>
        obtain rfl : [.symbol 45, .symbol 45] = tokens := Option.some.inj lexed
        exact ⟨none, [], [.symbol 45, .symbol 45], [], rfl, emits_gap (by simp), by simp [swallows], rfl, rfl⟩
      | cons next rest =>
        have blank : (isSpace next || isControl next) = true := third
        have blank' : (isAsciiWhitespace next || isAsciiControl next) = true := by
          simp only [isSpace, isControl, isAsciiWhitespace, isAsciiControl, Bool.or_eq_true, Bool.and_eq_true,
            decide_eq_true_eq, beq_iff_eq] at blank ⊢
          omega
        have starts : startsLineComment 45 (45 :: next :: rest) = true := by simp [startsLineComment, blank]
        have read : lexStep true 45 (45 :: next :: rest) = some (none, consumeLineComment (next :: rest)) := by
          rw [lexStep, if_neg (by decide), if_neg (by decide), if_neg (by decide), if_neg (by decide),
            if_pos ⟨rfl, rfl, blank'⟩]
          rfl
        exact skipped read (consumeLineComment_eq _) (by simp [SqlLexer.lexeme, isSpace, starts])

private theorem block_tracked (lexed : lexMysql (unit :: rest) true = some tokens)
    (comment : startsBlockComment unit rest = true) :
    ∃ lexeme after emitted later, Tracked unit rest tokens lexeme after emitted later := by
  obtain ⟨token, after, later, read, behind, rfl⟩ := lexMysql_some lexed
  have starts := comment
  simp only [startsBlockComment, Bool.and_eq_true, beq_iff_eq, Bool.not_eq_true'] at comment
  obtain ⟨⟨rfl, star⟩, inert⟩ := comment
  have consumed : lexStep true 47 rest = (consumeBlockComment rest.tail).map (none, ·) := by
    have executable : isExecutableComment rest.tail = false := inert
    simp [lexStep, isAsciiWhitespace, star, executable]
  rw [consumed, consumeBlockComment_eq] at read
  obtain ⟨left, closed, same⟩ := Option.map_eq_some_iff.mp read
  obtain ⟨rfl, rfl⟩ := Prod.mk.inj same
  refine ⟨none, left, [], later, ?_, emits_gap (by simp), by simp [swallows], behind, rfl⟩
  simp [SqlLexer.lexeme, isSpace, startsLineComment, starts, closed]

private theorem number_tracked (lexed : lexMysql (unit :: rest) true = some tokens) (digit : isDigit unit = true) :
    ∃ lexeme after emitted later, Tracked unit rest tokens lexeme after emitted later := by
  obtain ⟨emitted, plain, bare, whole⟩ := lexed_numeral (unit :: rest)
  rw [whole] at lexed
  obtain ⟨later, behind, rfl⟩ := Option.map_eq_some_iff.mp lexed
  have kind : unit ≠ 32 ∧ ¬ (9 ≤ unit ∧ unit ≤ 13) ∧ unit ≠ 39 ∧ unit ≠ 34 ∧ unit ≠ 96 ∧ unit ≠ 35 ∧ unit ≠ 45 ∧
      unit ≠ 47 := by
    simp only [isDigit, Bool.and_eq_true, decide_eq_true_eq] at digit
    omega
  refine ⟨some (.number (numeral false (unit :: rest)).1), (numeral false (unit :: rest)).2, emitted, later, ?_, ?_,
    fun swallowing => (bare swallowing).2, behind, rfl⟩
  · simp [SqlLexer.lexeme, isSpace, startsLineComment, startsBlockComment, kind, digit, serverRules]
  · exact emits_plain (by simp) (by simp) plain (fun _ => trivial) fun swallowing => (bare swallowing).1

private theorem word_tracked (lexed : lexMysql (unit :: rest) true = some tokens) (undigited : isDigit unit = false)
    (identifier : isIdentifier unit = true) :
    ∃ lexeme after emitted later, Tracked unit rest tokens lexeme after emitted later := by
  have kind : unit ≠ 32 ∧ ¬ (9 ≤ unit ∧ unit ≤ 13) ∧ unit ≠ 39 ∧ unit ≠ 34 ∧ unit ≠ 96 ∧ unit ≠ 35 ∧ unit ≠ 45 ∧
      unit ≠ 47 := by
    simp only [isIdentifier, isLetter, isDigit, Bool.or_eq_true, Bool.and_eq_true, decide_eq_true_eq,
      beq_iff_eq] at identifier
    omega
  have inside : ∀ other ∈ unit :: rest.takeWhile isIdentifier, isIdentifier other = true :=
    List.forall_mem_cons.mpr ⟨identifier, fun other listed => List.mem_takeWhile_imp listed⟩
  have stops := startsWith_dropWhile isIdentifier rest
  obtain ⟨emitted, fragments, plain, unseen⟩ := lexed_identifier inside stops
  have whole : unit :: rest.takeWhile isIdentifier ++ rest.dropWhile isIdentifier = unit :: rest := by simp
  rw [← whole] at lexed
  obtain ⟨later, behind, rfl⟩ := fragments.some lexed
  refine ⟨some (.word (unit :: rest.takeWhile isIdentifier)), rest.dropWhile isIdentifier, emitted, later, ?_, ?_,
    by simp [swallows], behind, rfl⟩
  · simp [SqlLexer.lexeme, isSpace, startsLineComment, startsBlockComment, kind, undigited, identifier, serverRules]
  · exact {
      separator := by simp
      plain := fun _ => plain
      gap := by simp
      unseen := by
        rintro - empty token ⟨⟩
        exact unseen empty
      swallowed := by simp [swallows]
      keyword := by
        rintro - text ⟨⟩ letters
        obtain ⟨exact_, exactly, same⟩ := (lexed_word letters stops).some lexed
        have agreed : exact_ = later := Option.some.inj (exactly.symm.trans behind)
        rw [agreed] at same
        exact List.append_cancel_right same }

private theorem operator_tracked (lexed : lexMysql (unit :: rest) true = some tokens)
    (comparison : isComparison unit = true) :
    ∃ lexeme after emitted later, Tracked unit rest tokens lexeme after emitted later := by
  have kind : unit = 33 ∨ unit = 60 ∨ unit = 61 ∨ unit = 62 := by
    simp only [isComparison, Bool.or_eq_true, Bool.and_eq_true, decide_eq_true_eq, beq_iff_eq] at comparison
    omega
  have inside : ∀ other ∈ unit :: rest.takeWhile isComparison, isComparison other = true :=
    List.forall_mem_cons.mpr ⟨comparison, fun other listed => List.mem_takeWhile_imp listed⟩
  have whole : unit :: rest.takeWhile isComparison ++ rest.dropWhile isComparison = unit :: rest := by simp
  rw [← whole] at lexed
  obtain ⟨later, behind, rfl⟩ := (lexed_operator inside _).some lexed
  refine ⟨some (.operator (unit :: rest.takeWhile isComparison)), rest.dropWhile isComparison, _, later, ?_, ?_,
    by simp [swallows], behind, rfl⟩
  · rcases kind with rfl | rfl | rfl | rfl <;>
      simp [SqlLexer.lexeme, isSpace, startsLineComment, startsBlockComment, isDigit, isIdentifier, isLetter,
        isComparison, serverRules]
  · exact emits_plain (by simp) (by simp) (by simp [Plain]) (by simp) (by simp)

private theorem symbol_tracked (lexed : lexMysql (unit :: rest) true = some tokens) (unspaced : isSpace unit = false)
    (unquoted : unit ≠ 39 ∧ unit ≠ 34 ∧ unit ≠ 96 ∧ unit ≠ 35) (uncommented : startsLineComment unit rest = false)
    (undivided : startsBlockComment unit rest = false) (undigited : isDigit unit = false)
    (unidentified : isIdentifier unit = false) (uncompared : isComparison unit = false) :
    ∃ lexeme after emitted later, Tracked unit rest tokens lexeme after emitted later := by
  have server : SqlLexer.lexeme serverRules unit rest = some (some (.symbol unit), rest) := by
    simp [SqlLexer.lexeme, unspaced, unquoted, uncommented, undivided, undigited, unidentified, uncompared, serverRules]
  -- behind `/` and `*` only an executable comment remains, which the policy refuses
  have unstarred : unit = 47 → rest.head? ≠ some 42 := by
    rintro rfl star
    obtain ⟨token, after, later, read, -⟩ := lexMysql_some lexed
    have executable : isExecutableComment rest.tail = true := by
      simp only [startsBlockComment, star, beq_self_eq_true, Bool.true_and, Bool.not_eq_false'] at undivided
      exact undivided
    simp [lexStep, isAsciiWhitespace, star, executable] at read
  have tracked {token : Option SqlToken} (read : lexStep true unit rest = some (token, rest))
      (emits : Emits false (some (.symbol unit)) token.toList) :
      ∃ lexeme after emitted later, Tracked unit rest tokens lexeme after emitted later := by
    rw [lexMysql_step read] at lexed
    obtain ⟨later, behind, rfl⟩ := Option.map_eq_some_iff.mp lexed
    exact ⟨some (.symbol unit), rest, token.toList, later, server, emits, by simp [swallows], behind, rfl⟩
  by_cases opening : unit = 40
  · subst unit
    exact tracked rfl (emits_plain (by simp) (by simp) (by simp [Plain]) (by simp) (by simp))
  by_cases closing : unit = 41
  · subst unit
    exact tracked rfl (emits_plain (by simp) (by simp) (by simp [Plain]) (by simp) (by simp))
  by_cases separator : unit = 59
  · subst unit
    refine tracked rfl ?_
    exact {
      separator := fun _ => rfl
      plain := by simp
      gap := by simp
      unseen := by simp
      swallowed := by simp
      keyword := by simp }
  have symbolic : (some (.symbol unit) : Option Token) ≠ some (.symbol 59) := by simpa using separator
  cases control : isControl unit with
  | true =>
    have read := lexStep_passed (Or.inr (Or.inr ⟨control, unspaced⟩)) rest
    exact tracked read (emits_plain (by simpa using separator) (by simp) (by simp [Plain]) (fun _ => control)
      (by simp [swallows]))
  | false =>
    have punctuation : isAsciiPunctuation unit = true := by
      simp only [isControl, isSpace, isDigit, isIdentifier, isLetter, isAsciiPunctuation, Bool.or_eq_false_iff,
        Bool.and_eq_false_iff, decide_eq_false_iff_not, beq_eq_false_iff_ne, Bool.or_eq_true, Bool.and_eq_true,
        decide_eq_true_eq] at control unspaced undigited unidentified ⊢
      omega
    have plain : unit ≠ 39 ∧ unit ≠ 34 ∧ unit ≠ 96 ∧ unit ≠ 35 ∧ unit ≠ 40 ∧ unit ≠ 41 ∧ unit ≠ 59 ∧ unit ≠ 95 := by
      refine ⟨unquoted.1, unquoted.2.1, unquoted.2.2.1, unquoted.2.2.2, opening, closing, separator, ?_⟩
      rintro rfl
      cases unidentified
    have read := lexStep_symbol punctuation plain (fun _ => uncommented) unstarred
    exact tracked read (emits_plain (by simpa using separator) (by simp) (by simp [Plain]) (by simp) (by simp))

/-- Every lexeme of the server where the policy's lexer is outside of words. -/
theorem lexeme_tracked (lexed : lexMysql (unit :: rest) true = some tokens) :
    ∃ lexeme after emitted later, Tracked unit rest tokens lexeme after emitted later := by
  by_cases space : isSpace unit = true
  · exact space_tracked lexed space
  by_cases quote : unit = 39 ∨ unit = 34
  · exact string_tracked lexed quote
  by_cases backtick : unit = 96
  · subst unit
    exact quoted_tracked lexed
  by_cases line : unit = 35 ∨ startsLineComment unit rest = true
  · exact line_tracked lexed line
  by_cases block : startsBlockComment unit rest = true
  · exact block_tracked lexed block
  by_cases digit : isDigit unit = true
  · exact number_tracked lexed digit
  by_cases identifier : isIdentifier unit = true
  · exact word_tracked lexed (by simpa using digit) identifier
  by_cases comparison : isComparison unit = true
  · exact operator_tracked lexed comparison
  obtain ⟨unhashed, uncommented⟩ := not_or.mp line
  exact symbol_tracked lexed (by simpa using space) ⟨by tauto, by tauto, backtick, unhashed⟩ (by simpa using uncommented)
    (by simpa using block) (by simpa using digit) (by simpa using identifier) (by simpa using comparison)

end Lexemes

/-- Inside a word of the policy that a numeral began, the server may read a word of
its own, or both lexers are at a boundary. -/
private theorem inside_tracked {unit : Nat} {rest : List Nat} {tokens : List SqlToken}
    (outside : isDigit unit = false) (lexed : lexMysql ((unit :: rest).dropWhile isWordByte) true = some tokens) :
    ∃ lexeme after emitted later, SqlLexer.lexeme serverRules unit rest = some (lexeme, after) ∧
      Emits true lexeme emitted ∧ (swallows lexeme = true → startsWith isDigit after = false) ∧
      lexMysql (resume (swallows lexeme) after) true = some later ∧ tokens = emitted ++ later := by
  cases worded : isWordByte unit with
  | false =>
    rw [List.dropWhile_cons_of_neg (by simp [worded])] at lexed
    obtain ⟨lexeme, after, emitted, later, tracked⟩ := lexeme_tracked lexed
    exact ⟨lexeme, after, emitted, later, tracked.read, tracked.emits.weaken, tracked.outside, tracked.lexed, tracked.tokens⟩
  | true =>
    rw [List.dropWhile_cons_of_pos (by simp [worded])] at lexed
    have identifier := isIdentifier_of_isWordByte worded
    have kind : unit ≠ 32 ∧ ¬ (9 ≤ unit ∧ unit ≤ 13) ∧ unit ≠ 39 ∧ unit ≠ 34 ∧ unit ≠ 96 ∧ unit ≠ 35 ∧ unit ≠ 45 ∧
        unit ≠ 47 := by
      simp only [isIdentifier, isLetter, isDigit, Bool.or_eq_true, Bool.and_eq_true, decide_eq_true_eq,
        beq_iff_eq] at identifier
      omega
    -- what the policy's word leaves of the server's word is lexed as fragments
    have remains : rest.dropWhile isWordByte =
        (rest.takeWhile isIdentifier).dropWhile isWordByte ++ rest.dropWhile isIdentifier := by
      have stops : startsWith isWordByte (rest.dropWhile isIdentifier) = false :=
        startsWith_mono (fun _ => isIdentifier_of_isWordByte) (startsWith_dropWhile isIdentifier rest)
      conv_lhs => rw [← @List.takeWhile_append_dropWhile _ isIdentifier rest]
      exact (span_append _ stops).2
    have inside : ∀ other ∈ (rest.takeWhile isIdentifier).dropWhile isWordByte, isIdentifier other = true :=
      fun other listed => List.mem_takeWhile_imp ((List.dropWhile_suffix _).subset listed)
    obtain ⟨emitted, fragments, plain, -⟩ := lexed_identifier inside (startsWith_dropWhile isIdentifier rest)
    rw [remains] at lexed
    obtain ⟨later, behind, rfl⟩ := fragments.some lexed
    refine ⟨some (.word (unit :: rest.takeWhile isIdentifier)), rest.dropWhile isIdentifier, emitted, later, ?_, ?_,
      by simp [swallows], behind, rfl⟩
    · simp [SqlLexer.lexeme, isSpace, startsLineComment, startsBlockComment, kind, outside, identifier, serverRules]
    · exact {
        separator := by simp
        plain := fun _ => plain
        gap := by simp
        unseen := by simp
        swallowed := by simp [swallows]
        keyword := by simp }

/-- What the policy lexes, the server scans, and the tokens track the lexemes. -/
theorem lexed_tracks {inside : Bool} {text : List Nat} {tokens : List SqlToken}
    (outside : inside = true → startsWith isDigit text = false)
    (lexed : lexMysql (resume inside text) true = some tokens) :
    ∃ lexemes, scan serverRules text = some lexemes ∧ Tracks inside lexemes tokens := by
  generalize length : text.length = count
  induction count using Nat.strongRecOn generalizing inside text tokens with
  | ind count ih =>
    cases text with
    | nil =>
      have empty : resume inside [] = [] := by cases inside <;> rfl
      rw [empty] at lexed
      obtain rfl := Option.some.inj lexed
      exact ⟨[], rfl, .nil⟩
    | cons unit rest =>
      have step : ∃ lexeme after emitted later, SqlLexer.lexeme serverRules unit rest = some (lexeme, after) ∧
          Emits inside lexeme emitted ∧ (swallows lexeme = true → startsWith isDigit after = false) ∧
          lexMysql (resume (swallows lexeme) after) true = some later ∧ tokens = emitted ++ later := by
        cases inside with
        | false =>
          obtain ⟨lexeme, after, emitted, later, tracked⟩ := lexeme_tracked lexed
          exact ⟨lexeme, after, emitted, later, tracked.read, tracked.emits, tracked.outside, tracked.lexed, tracked.tokens⟩
        | true => exact inside_tracked (by simpa [startsWith] using outside rfl) lexed
      obtain ⟨lexeme, after, emitted, later, read, emits, outside', lexed', rfl⟩ := step
      have shorter := lexeme_shorter read
      simp only [List.length_cons] at length
      obtain ⟨lexemes, scanned, tracks⟩ := ih after.length (by omega) outside' lexed' rfl
      refine ⟨lexeme :: lexemes, ?_, .cons emits tracks⟩
      rw [scan_cons, read, Option.bind_some]
      simp only [scanned, Option.map_some]

end Pipa.SqlPolicy
