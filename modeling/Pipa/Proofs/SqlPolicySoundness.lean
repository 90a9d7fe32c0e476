import Pipa.Library.SqlLexer
import Pipa.Proofs.SqlPolicyTracking
import Pipa.SqlPolicy

/-! Which words the policy's regular expression denies. -/

namespace Pipa.SqlPolicy

/-- A match behind a boundary is found at any position. -/
theorem isDangerousFrom_suffix (previous : Option Nat) (before text : List Nat)
    (found : isDangerousFrom (before.getLast?.or previous) text = true) :
    isDangerousFrom previous (before ++ text) = true := by
  induction before generalizing previous with
  | nil => simpa using found
  | cons byte before ih =>
    have later : isDangerousFrom (some byte) (before ++ text) = true := by
      apply ih
      cases before with
      | nil => simpa using found
      | cons next before =>
        rw [List.getLast?_cons_cons] at found
        cases last : (next :: before).getLast? with
        | none => simp at last
        | some final => simpa [last] using found
    rw [List.cons_append, isDangerousFrom, later, Bool.or_true]

/-- What ends a word of the joined text: a blank, or the end. -/
def Blank (text : List Nat) : Prop := text = [] ∨ ∃ rest, text = 32 :: rest

theorem matchesWord_append {word rest : List Nat} (blank : Blank rest) : matchesWord (word ++ rest) word = true := by
  rw [matchesWord, List.drop_left, Bool.and_eq_true]
  refine ⟨List.isPrefixOf_iff_prefix.mpr (List.prefix_append word rest), ?_⟩
  rcases blank with rfl | ⟨rest, rfl⟩ <;> rfl

theorem isDangerousFrom_keyword {keyword : String} (listed : keyword ∈ dangerousSqlKeywords) {previous : Option Nat}
    (boundary : previous.any isRegexWord = false) {rest : List Nat} (blank : Blank rest) :
    isDangerousFrom previous (ascii keyword ++ rest) = true := by
  have nonempty : ∀ keyword ∈ dangerousSqlKeywords, ascii keyword ≠ [] := by decide
  obtain ⟨byte, word, shape⟩ := List.exists_cons_of_ne_nil (nonempty keyword listed)
  have found : (dangerousSqlKeywords.any fun keyword' => matchesWord (byte :: (word ++ rest)) (ascii keyword')) = true := by
    apply List.any_eq_true.mpr
    refine ⟨keyword, listed, ?_⟩
    rw [← List.cons_append, ← shape]
    exact matchesWord_append blank
  rw [shape, List.cons_append, isDangerousFrom, boundary, found]
  rfl

theorem isDangerousFrom_forShare {previous : Option Nat} (boundary : previous.any isRegexWord = false) {rest : List Nat}
    (blank : Blank rest) : isDangerousFrom previous (ascii "FOR" ++ 32 :: (ascii "SHARE" ++ rest)) = true := by
  have share := @matchesWord_append (ascii "SHARE") rest blank
  have found : matchesForShare (ascii "FOR" ++ 32 :: (ascii "SHARE" ++ rest)) = true := share
  have shape : ascii "FOR" ++ 32 :: (ascii "SHARE" ++ rest) = 70 :: (79 :: 82 :: 32 :: (ascii "SHARE" ++ rest)) := rfl
  rw [shape] at found ⊢
  rw [isDangerousFrom, boundary, found]
  simp

/-! ### Words joined by blanks -/

/-- One word of a joined text, with the blanks around it. -/
theorem intercalate_word (before : List (List Nat)) (word : List Nat) (after : List (List Nat)) :
    List.intercalate [32] (before ++ word :: after) =
      before.flatMap (· ++ [32]) ++ (word ++ after.flatMap (32 :: ·)) := by
  have behind (word : List Nat) (after : List (List Nat)) :
      List.intercalate [32] (word :: after) = word ++ after.flatMap (32 :: ·) := by
    induction after generalizing word with
    | nil => simp [List.intercalate]
    | cons next after ih =>
      have unfolded : List.intercalate [32] (word :: next :: after) = word ++ ([32] ++ List.intercalate [32] (next :: after)) := by
        simp [List.intercalate, List.intersperse]
      rw [unfolded, ih]
      simp
  induction before with
  | nil => exact behind word after
  | cons first before ih =>
    have unfolded : List.intercalate [32] (first :: (before ++ word :: after)) =
        first ++ ([32] ++ List.intercalate [32] (before ++ word :: after)) := by
      cases before <;> simp [List.intercalate, List.intersperse]
    rw [List.cons_append, unfolded, ih]
    simp

private theorem blank_behind (after : List (List Nat)) : Blank (after.flatMap (32 :: ·)) := by
  cases after with
  | nil => exact Or.inl rfl
  | cons next after => exact Or.inr ⟨_, rfl⟩

private theorem boundary_before (before : List (List Nat)) :
    ((before.flatMap (· ++ [32])).getLast?.or none).any isRegexWord = false := by
  rcases List.eq_nil_or_concat before with rfl | ⟨before, last, rfl⟩
  · rfl
  · simp [List.flatMap_append]
    rfl

/-- A word of the deny list is found among the words. -/
theorem dangerous_of_keyword {keyword : String} (listed : keyword ∈ dangerousSqlKeywords) {words : List (List Nat)}
    (inside : ascii keyword ∈ words) : isDangerousFrom none (List.intercalate [32] words) = true := by
  obtain ⟨before, after, rfl⟩ := List.append_of_mem inside
  rw [intercalate_word]
  exact isDangerousFrom_suffix _ _ _ (isDangerousFrom_keyword listed (boundary_before before) (blank_behind after))

/-- FOR directly in front of SHARE is found among the words. -/
theorem dangerous_of_forShare {before after : List (List Nat)} :
    isDangerousFrom none (List.intercalate [32] (before ++ ascii "FOR" :: ascii "SHARE" :: after)) = true := by
  rw [intercalate_word]
  apply isDangerousFrom_suffix
  rw [List.flatMap_cons, List.cons_append]
  exact isDangerousFrom_forShare (boundary_before before) (blank_behind after)

end Pipa.SqlPolicy

/-! What a statement accepted for MCP is to the server, and when it is one harmless
statement. -/

namespace Pipa.SqlPolicy
open SqlLexer

def Denied (token : Token) : Prop := ∃ keyword ∈ dangerousSqlKeywords, isKeyword keyword token = true

/-- The non-empty statements of a token sequence. -/
def statements (tokens : List Token) : List (List Token) :=
  (tokens.splitOnP (· == .symbol 59)).filter (!·.isEmpty)

/-- Exactly one statement, without a denied keyword and without FOR SHARE. -/
structure Harmless (tokens : List Token) : Prop where
  single : (statements tokens).length = 1
  undenied : ∀ token ∈ tokens, ¬ Denied token
  unshared : ∀ before first second after, tokens = before ++ first :: second :: after →
    isKeyword "FOR" first = true → isKeyword "SHARE" second = false

/-- No keyword is glued to an unsigned exponent, and behind a semicolon stand no
digits, no characters beyond ASCII and no control characters. -/
structure Aligned (lexemes : List (Option Token)) : Prop where
  unglued : ∀ before numeral word after, lexemes = before ++ some (.number numeral) :: some word :: after →
    bareExponent numeral = true → ¬ Denied word ∧
      (isKeyword "FOR" word = true → ∀ next ∈ after.reduceOption.head?, isKeyword "SHARE" next = false)
  closed : ∀ before after, lexemes = before ++ some (.symbol 59) :: after →
    ∀ token ∈ after.reduceOption, ¬ Unseen token

/-! ### Tracking through a statement -/

/-- Whether the policy is inside a word behind these lexemes. -/
def insideAfter (inside : Bool) (lexemes : List (Option Token)) : Bool := (lexemes.getLast?.map swallows).getD inside

theorem Tracks.append {inside : Bool} {before after : List (Option Token)} {tokens : List SqlToken}
    (tracks : Tracks inside (before ++ after) tokens) :
    ∃ former latter, tokens = former ++ latter ∧ Tracks inside before former ∧
      Tracks (insideAfter inside before) after latter := by
  induction before generalizing inside tokens with
  | nil => exact ⟨[], tokens, rfl, .nil, tracks⟩
  | cons lexeme before ih =>
    cases tracks with
    | cons emits tracks =>
      obtain ⟨former, latter, rfl, first, second⟩ := ih tracks
      refine ⟨_ ++ former, latter, (List.append_assoc _ _ _).symm, .cons emits first, ?_⟩
      have same : insideAfter inside (lexeme :: before) = insideAfter (swallows lexeme) before := by
        cases before with
        | nil => rfl
        | cons next before =>
          rw [insideAfter, insideAfter, List.getLast?_cons_cons]
          cases last : (next :: before).getLast? with
          | none => simp at last
          | some final => rfl
      rw [same]
      exact second

theorem Tracks.cons_inv {inside : Bool} {lexeme : Option Token} {lexemes : List (Option Token)} {tokens : List SqlToken}
    (tracks : Tracks inside (lexeme :: lexemes) tokens) :
    ∃ emitted later, tokens = emitted ++ later ∧ Emits inside lexeme emitted ∧
      Tracks (swallows lexeme) lexemes later := by
  cases tracks with
  | cons emits tracks => exact ⟨_, _, rfl, emits, tracks⟩

/-- The policy separates statements where the server does. -/
theorem Tracks.separators {inside : Bool} {lexemes : List (Option Token)} {tokens : List SqlToken}
    (tracks : Tracks inside lexemes tokens) :
    tokens.count .semicolon = lexemes.count (some (.symbol 59)) := by
  induction tracks with
  | nil => rfl
  | @cons inside lexeme emitted lexemes later emits tracks ih =>
    rw [List.count_append, ih, List.count_cons]
    by_cases separator : lexeme = some (.symbol 59)
    · rw [emits.separator separator, separator]
      simp
      omega
    · rw [List.count_eq_zero.mpr (emits.plain separator)]
      simp [separator]

/-- Lexemes without any trace are digits, bytes beyond ASCII and control characters. -/
theorem Tracks.unseen {lexemes : List (Option Token)} (tracks : Tracks false lexemes []) :
    ∀ token ∈ lexemes.reduceOption, Unseen token := by
  induction lexemes with
  | nil => simp
  | cons lexeme lexemes ih =>
    obtain ⟨emitted, later, same, emits, tracks⟩ := tracks.cons_inv
    obtain ⟨rfl, rfl⟩ := List.append_eq_nil_iff.mp same.symm
    have outside : swallows lexeme = false := by
      cases swallowing : swallows lexeme with
      | false => rfl
      | true => exact absurd rfl (emits.swallowed swallowing)
    rw [outside] at tracks
    have others := ih tracks
    cases lexeme with
    | none => simpa using others
    | some token =>
      rw [List.reduceOption_cons_of_some]
      exact List.forall_mem_cons.mpr ⟨emits.unseen rfl rfl token rfl, others⟩

/-- Blanks and comments leave no word. -/
theorem Tracks.wordless {inside : Bool} {lexemes : List (Option Token)} {tokens : List SqlToken}
    (tracks : Tracks inside lexemes tokens) (gaps : lexemes.reduceOption = []) : wordsOf tokens = [] := by
  induction tracks with
  | nil => rfl
  | @cons inside lexeme emitted lexemes later emits tracks ih =>
    cases lexeme with
    | none =>
      have first := emits.gap rfl
      have others := ih (by simpa using gaps)
      simp only [wordsOf, List.filterMap_append] at first others ⊢
      rw [first, others]
      rfl
    | some token => simp at gaps

/-! ### Keywords -/

/-- Keywords are spelled in capitals and `_`. -/
private theorem capitals_listed : ∀ keyword ∈ "FOR" :: "SHARE" :: dangerousSqlKeywords,
    ∀ unit ∈ ascii keyword, (65 ≤ unit ∧ unit ≤ 90) ∨ unit = 95 := by
  decide

/-- Outside of words a keyword of the server is the policy's word. -/
private theorem Emits.keyword_word {keyword : String} (listed : keyword ∈ "FOR" :: "SHARE" :: dangerousSqlKeywords)
    {token : Token} (matched : isKeyword keyword token = true) {emitted : List SqlToken}
    (emits : Emits false (some token) emitted) : emitted = [.word (ascii keyword)] := by
  cases token with
  | word text =>
    have same : text.map upper = ascii keyword := beq_iff_eq.mp matched
    have letters : ∀ unit ∈ text, (isAsciiAlphabetic unit || unit == 95) = true := by
      intro unit inside
      have capital := capitals_listed keyword listed (upper unit) (by
        rw [← same]
        exact List.mem_map_of_mem inside)
      simp only [upper] at capital
      simp only [isAsciiAlphabetic, Bool.or_eq_true, Bool.and_eq_true, decide_eq_true_eq, beq_iff_eq]
      split at capital <;> omega
    rw [emits.keyword rfl text rfl letters]
    exact congrArg (fun word => [SqlToken.word word]) same
  | number | string | quoted | operator | symbol => cases matched

private theorem keyword_swallows {keyword : String} {token : Token} (matched : isKeyword keyword token = true) :
    swallows (some token) = false := by
  cases token with
  | word => rfl
  | number | string | quoted | operator | symbol => cases matched

/-- The policy is inside a word only directly behind an unsigned exponent. -/
private theorem insideAfter_glued {before : List (Option Token)} (inside : insideAfter false before = true) :
    ∃ before' numeral, before = before' ++ [some (.number numeral)] ∧ bareExponent numeral = true := by
  rcases List.eq_nil_or_concat before with rfl | ⟨before', last, rfl⟩
  · cases inside
  · have swallowing : swallows last = true := by simpa [insideAfter] using inside
    cases last with
    | none => cases swallowing
    | some token =>
      cases token with
      | number numeral => exact ⟨before', numeral, by simp, swallowing⟩
      | word | string | quoted | operator | symbol => cases swallowing

private theorem reduceOption_split {lexemes : List (Option Token)} {before after : List Token} {token : Token}
    (same : lexemes.reduceOption = before ++ token :: after) :
    ∃ former latter, lexemes = former ++ some token :: latter ∧ former.reduceOption = before ∧
      latter.reduceOption = after := by
  induction lexemes generalizing before with
  | nil => simp at same
  | cons lexeme lexemes ih =>
    cases lexeme with
    | none =>
      obtain ⟨former, latter, rfl, first, second⟩ := ih (by simpa using same)
      exact ⟨none :: former, latter, rfl, by simpa using first, second⟩
    | some other =>
      rw [List.reduceOption_cons_of_some] at same
      cases before with
      | nil =>
        obtain ⟨rfl, rfl⟩ := List.cons_eq_cons.mp same
        exact ⟨[], lexemes, rfl, rfl, rfl⟩
      | cons first before =>
        obtain ⟨rfl, shorter⟩ := List.cons_eq_cons.mp same
        obtain ⟨former, latter, rfl, first, second⟩ := ih shorter
        exact ⟨some other :: former, latter, rfl, by simp [first], second⟩

theorem wordsOf_append (first second : List SqlToken) : wordsOf (first ++ second) = wordsOf first ++ wordsOf second := by
  simp [wordsOf]

section Denying
variable {lexemes : List (Option Token)} {emitted : List SqlToken}

/-- A word not denied by the expression is no denied keyword of the server. -/
theorem undenied_of_aligned (tracks : Tracks false lexemes emitted) (aligned : Aligned lexemes)
    (undangerous : isDangerousFrom none (List.intercalate [32] (wordsOf emitted)) = false) :
    ∀ token ∈ lexemes.reduceOption, ¬ Denied token := by
  intro token inside denied
  obtain ⟨keyword, listed, matched⟩ := denied
  obtain ⟨before, after, same⟩ := List.append_of_mem inside
  obtain ⟨former, latter, rfl, -, -⟩ := reduceOption_split same
  cases glued : insideAfter false former with
  | true =>
    obtain ⟨before', numeral, rfl, bare⟩ := insideAfter_glued glued
    exact (aligned.unglued before' numeral token latter (by simp) bare).1 ⟨keyword, listed, matched⟩
  | false =>
    obtain ⟨first, second, rfl, -, tracked⟩ := tracks.append
    rw [glued] at tracked
    obtain ⟨here, later, rfl, emits, -⟩ := tracked.cons_inv
    rw [emits.keyword_word (by simp [listed]) matched] at undangerous
    have found : ascii keyword ∈ wordsOf (first ++ ([.word (ascii keyword)] ++ later)) := by
      simp [wordsOf]
    rw [dangerous_of_keyword listed found] at undangerous
    cases undangerous

theorem unshared_of_aligned (tracks : Tracks false lexemes emitted) (aligned : Aligned lexemes)
    (undangerous : isDangerousFrom none (List.intercalate [32] (wordsOf emitted)) = false) :
    ∀ before first second after, lexemes.reduceOption = before ++ first :: second :: after →
      isKeyword "FOR" first = true → isKeyword "SHARE" second = false := by
  intro before first second after same matched
  obtain ⟨former, latter, rfl, -, behind⟩ := reduceOption_split same
  cases shares : isKeyword "SHARE" second with
  | false => rfl
  | true =>
    cases glued : insideAfter false former with
    | true =>
      obtain ⟨before', numeral, rfl, bare⟩ := insideAfter_glued glued
      have unshared := (aligned.unglued before' numeral first latter (by simp) bare).2 matched second (by simp [behind])
      rw [unshared] at shares
      cases shares
    | false =>
      have leading : latter.reduceOption = [] ++ second :: after := behind
      obtain ⟨gaps, last, rfl, silent, -⟩ := reduceOption_split leading
      obtain ⟨early, late, rfl, -, tracked⟩ := tracks.append
      rw [glued] at tracked
      obtain ⟨here, later, rfl, emits, tracked⟩ := tracked.cons_inv
      rw [keyword_swallows matched] at tracked
      obtain ⟨quiet, loud, rfl, gapped, tracked⟩ := tracked.append
      have outside : insideAfter false gaps = false := by
        cases inside : insideAfter false gaps with
        | false => rfl
        | true =>
          obtain ⟨gaps', numeral, rfl, -⟩ := insideAfter_glued inside
          simp [List.reduceOption_append] at silent
      rw [outside] at tracked
      obtain ⟨there, rest, rfl, emits', -⟩ := tracked.cons_inv
      rw [emits.keyword_word (by simp) matched, emits'.keyword_word (by simp) shares] at undangerous
      have words : wordsOf (early ++ ([.word (ascii "FOR")] ++ (quiet ++ ([.word (ascii "SHARE")] ++ rest)))) =
          wordsOf early ++ ascii "FOR" :: ascii "SHARE" :: wordsOf rest := by
        rw [wordsOf_append, wordsOf_append, wordsOf_append, wordsOf_append, gapped.wordless silent]
        rfl
      rw [words, dangerous_of_forShare] at undangerous
      cases undangerous

end Denying

/-! ### Accepted statements -/

private theorem classified_word {statement : List SqlToken} (classified : classifyStatement statement = .read) :
    ∃ text rest, statement = .word text :: rest := by
  cases statement with
  | nil => cases classified
  | cons token rest =>
    cases token with
    | word text => exact ⟨text, rest, rfl⟩
    | atom | openParen | closeParen | semicolon | symbol => cases classified

/-- What an accepted statement is: no denied word, and one statement with a word. -/
theorem accepted_inv {sql : List Nat} (accepted : mcpMayExecute sql = .ok ()) :
    ∃ emitted statement, lexMysql sql true = some emitted ∧
      isDangerousFrom none (List.intercalate [32] (wordsOf emitted)) = false ∧
      singleStatement emitted = some statement ∧ wordsOf statement ≠ [] := by
  simp only [mcpMayExecute] at accepted
  cases dangerous : containsDangerousSqlKeyword sql with
  | true => simp [dangerous] at accepted
  | false =>
    have classified : classifySql sql = .read := by
      cases risk : classifySql sql <;> simp [dangerous, risk, allowsMcpAutoExecute] at accepted ⊢
    cases consistent : lexConsistently sql with
    | none => simp [containsDangerousSqlKeyword, consistent] at dangerous
    | some emitted =>
      simp only [containsDangerousSqlKeyword, consistent] at dangerous
      simp only [classifySql, consistent, Option.bind_some] at classified
      cases single : singleStatement emitted with
      | none => simp [single] at classified
      | some statement =>
        simp only [single] at classified
        split at classified
        · cases classified
        · obtain ⟨text, rest, rfl⟩ := classified_word classified
          refine ⟨emitted, .word text :: rest, ?_, dangerous, single, by simp [wordsOf]⟩
          simp only [lexConsistently, Option.bind_eq_bind, Option.bind_eq_some_iff] at consistent
          obtain ⟨escaped, first, literal, -, same⟩ := consistent
          split at same
          · rw [first, ← Option.some.inj same]
          · cases same

/-- The separators of an accepted statement: none, or one with nothing but unseen
tokens behind it. -/
theorem accepted_separators {sql : List Nat} (accepted : mcpMayExecute sql = .ok ()) :
    ∃ lexemes emitted, scan serverRules sql = some lexemes ∧ Tracks false lexemes emitted ∧
      isDangerousFrom none (List.intercalate [32] (wordsOf emitted)) = false ∧
      ((some (.symbol 59) ∉ lexemes ∧ lexemes.reduceOption ≠ []) ∨
        ∃ before after, lexemes = before ++ some (.symbol 59) :: after ∧ some (.symbol 59) ∉ before ∧
          some (.symbol 59) ∉ after ∧ before.reduceOption ≠ [] ∧ ∀ token ∈ after.reduceOption, Unseen token) := by
  obtain ⟨emitted, statement, lexed, undangerous, single, worded⟩ := accepted_inv accepted
  obtain ⟨lexemes, scanned, tracks⟩ := @lexed_tracks false sql emitted (by simp) lexed
  refine ⟨lexemes, emitted, scanned, tracks, undangerous, ?_⟩
  have counted := tracks.separators
  simp only [singleStatement] at single
  split at single
  next unseparated =>
    obtain rfl := Option.some.inj single
    left
    rw [List.count_eq_zero.mpr unseparated] at counted
    refine ⟨List.count_eq_zero.mp counted.symm, fun gaps => worded (tracks.wordless gaps)⟩
  next separated =>
    split at single
    next closes =>
      obtain rfl := Option.some.inj single
      right
      rw [closes.1] at counted
      have occurs : some (.symbol 59) ∈ lexemes := List.count_pos_iff.mp (by omega)
      obtain ⟨before, after, rfl, absent⟩ := List.eq_append_cons_of_mem occurs
      rw [List.count_append, List.count_eq_zero.mpr absent, List.count_cons_self] at counted
      have absent' : some (.symbol 59) ∉ after := List.count_eq_zero.mp (by omega)
      obtain ⟨former, latter, rfl, first, tracked⟩ := tracks.append
      obtain ⟨here, later, rfl, emits, second⟩ := tracked.cons_inv
      obtain rfl := emits.separator rfl
      have outside : swallows (some (.symbol 59)) = false := rfl
      rw [outside] at second
      -- the policy's only semicolon is its last token, so nothing is emitted behind it
      have silent : later = [] := by
        rcases List.eq_nil_or_concat later with empty | ⟨initial, last, rfl⟩
        · exact empty
        · have ends := closes.2
          have regrouped : former ++ ([.semicolon] ++ (initial.concat last)) =
              (former ++ .semicolon :: initial) ++ [last] := by simp
          rw [regrouped, List.getLast?_concat] at ends
          have final : last = .semicolon := Option.some.inj ends
          have many := second.separators
          rw [List.count_eq_zero.mpr absent', final] at many
          simp at many
      subst silent
      refine ⟨before, after, rfl, absent, absent', ?_, second.unseen⟩
      intro gaps
      apply worded
      simpa using first.wordless gaps
    next => cases single

private theorem unseparated_test {tokens : List Token} (unseparated : Token.symbol 59 ∉ tokens) :
    ∀ token ∈ tokens, (token == Token.symbol 59) = false :=
  fun _ inside => beq_eq_false_iff_ne.mpr fun same => unseparated (same ▸ inside)

private theorem statements_single {tokens : List Token} (unseparated : Token.symbol 59 ∉ tokens) (nonempty : tokens ≠ []) :
    statements tokens = [tokens] := by
  rw [statements, List.splitOnP_eq_singleton (unseparated_test unseparated)]
  simp [nonempty]

private theorem statements_separated {before after : List Token} (unseparated : Token.symbol 59 ∉ before)
    (unseparated' : Token.symbol 59 ∉ after) (nonempty : before ≠ []) :
    (statements (before ++ .symbol 59 :: after)).length = 1 ↔ after = [] := by
  have split := @List.splitOnP_append_cons _ (· == Token.symbol 59) before after (.symbol 59) (beq_self_eq_true _)
  rw [List.splitOnP_eq_singleton (unseparated_test unseparated),
    List.splitOnP_eq_singleton (unseparated_test unseparated')] at split
  rw [statements, split]
  cases after <;> simp [nonempty]

private theorem separator_reduced {lexemes : List (Option Token)} (absent : some (.symbol 59) ∉ lexemes) :
    Token.symbol 59 ∉ lexemes.reduceOption := fun inside => absent (List.reduceOption_mem_iff.mp inside)

/-- A harmless statement is aligned, if its separators are those of an accepted one. -/
private theorem aligned_of_harmless {lexemes : List (Option Token)} (harmless : Harmless lexemes.reduceOption)
    (separated : some (.symbol 59) ∉ lexemes ∨ ∃ before after, lexemes = before ++ some (.symbol 59) :: after ∧
      some (.symbol 59) ∉ before ∧ some (.symbol 59) ∉ after ∧ before.reduceOption ≠ []) : Aligned lexemes where
  unglued := by
    rintro before numeral word after rfl -
    have inside : word ∈ (before ++ some (.number numeral) :: some word :: after).reduceOption :=
      List.reduceOption_mem_iff.mpr (by simp)
    refine ⟨harmless.undenied word inside, ?_⟩
    intro matched next first
    obtain ⟨tail, rest⟩ : ∃ tail, after.reduceOption = next :: tail := by
      cases found : after.reduceOption with
      | nil => simp [found] at first
      | cons other tail =>
        obtain rfl : other = next := by simpa [found] using first
        exact ⟨tail, rfl⟩
    refine harmless.unshared (before.reduceOption ++ [.number numeral]) word next tail ?_ matched
    simp [List.reduceOption_append, rest]
  closed := by
    intro before after same token inside
    rcases separated with absent | ⟨before', after', shape, absent, absent', nonempty⟩
    · exact absurd (by simp [same]) absent
    · obtain ⟨rfl, -, rfl⟩ := (List.append_cons_inj_of_notMem absent absent').mp (shape.symm.trans same)
      have single := harmless.single
      rw [same, List.reduceOption_append, List.reduceOption_cons_of_some,
        statements_separated (separator_reduced absent) (separator_reduced absent') nonempty] at single
      rw [single] at inside
      cases inside

/-- A statement accepted for MCP is one harmless statement for the server exactly
if its lexemes are aligned. -/
theorem mcp_statement_harmless_iff (sql : String) (accepted : mcpMayExecute (asBytes sql) = .ok ()) :
    (∃ found, tokens serverRules (asBytes sql) = some found ∧ Harmless found) ↔
      ∃ lexemes, scan serverRules (asBytes sql) = some lexemes ∧ Aligned lexemes := by
  obtain ⟨lexemes, emitted, scanned, tracks, undangerous, separated⟩ := accepted_separators accepted
  have read : tokens serverRules (asBytes sql) = some lexemes.reduceOption := by
    rw [tokens, scanned]
    rfl
  constructor
  · rintro ⟨found, same, harmless⟩
    obtain rfl := Option.some.inj (read.symm.trans same)
    refine ⟨lexemes, scanned, aligned_of_harmless harmless ?_⟩
    rcases separated with ⟨absent, -⟩ | ⟨before, after, shape, absent, absent', nonempty, -⟩
    · exact Or.inl absent
    · exact Or.inr ⟨before, after, shape, absent, absent', nonempty⟩
  · rintro ⟨lexemes', same, aligned⟩
    obtain rfl := Option.some.inj (scanned.symm.trans same)
    refine ⟨_, read, ?_, undenied_of_aligned tracks aligned undangerous,
      unshared_of_aligned tracks aligned undangerous⟩
    rcases separated with ⟨absent, nonempty⟩ | ⟨before, after, rfl, absent, absent', nonempty, unseen⟩
    · rw [statements_single (separator_reduced absent) nonempty]
      rfl
    · rw [List.reduceOption_append, List.reduceOption_cons_of_some,
        statements_separated (separator_reduced absent) (separator_reduced absent') nonempty]
      have closed := aligned.closed before after rfl
      exact List.eq_nil_iff_forall_not_mem.mpr fun token inside => closed token inside (unseen token inside)

theorem mcp_statement_harmless_signed_exponent :
    mcpMayExecute (asBytes "SELECT 1e+5 FROM t -- LOCK") = .ok () ∧
      ((∃ found, tokens serverRules (asBytes "SELECT 1e+5 FROM t -- LOCK") = some found ∧ Harmless found) ↔
        ∃ lexemes, scan serverRules (asBytes "SELECT 1e+5 FROM t -- LOCK") = some lexemes ∧ Aligned lexemes) := by
  have accepted : mcpMayExecute (asBytes "SELECT 1e+5 FROM t -- LOCK") = .ok () := by decide +kernel
  exact ⟨accepted, mcp_statement_harmless_iff _ accepted⟩

/-- An unsigned exponent hides the keyword behind it, so a locking read is accepted. -/
theorem exponent_hides_lock :
    mcpMayExecute (asBytes "SELECT * FROM t WHERE a = 1e5LOCK IN SHARE MODE") = .ok () ∧
      ∃ found, tokens serverRules (asBytes "SELECT * FROM t WHERE a = 1e5LOCK IN SHARE MODE") = some found ∧
        ¬ Harmless found := by
  refine ⟨by decide +kernel, ?_⟩
  have hidden : (tokens serverRules (asBytes "SELECT * FROM t WHERE a = 1e5LOCK IN SHARE MODE")).any
      (fun found => found.contains (.word (ascii "LOCK"))) = true := by
    decide +kernel
  obtain ⟨found, read, contained⟩ := (Option.any_eq_true _ _).mp hidden
  refine ⟨found, read, fun harmless => ?_⟩
  exact harmless.undenied _ (List.contains_iff_mem.mp contained) ⟨"LOCK", by decide, by decide⟩

end Pipa.SqlPolicy
