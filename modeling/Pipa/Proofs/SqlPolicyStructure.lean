import Pipa.Proofs.SqlPolicyLexing

/-! What the policy's decision depends on. A text is edited where the lexer stands between
two rounds of its loop, in its letters, or inside of its quotes; the tokens stay the same. -/

namespace Pipa.SqlPolicy

/-! ### Rounds that end in front of an edited text -/

/-- What the edited text starts with does not join the text in front of it. -/
structure Joinless (before after : List Nat) (unit : Nat) : Prop where
  star : unit ≠ 42
  dash : unit ≠ 45
  word : isWordByte unit = false
  quote : unit = 39 ∨ unit = 34 ∨ unit = 96 → after.head? = some unit
  dashes : [45, 45] <:+ before → (isAsciiWhitespace unit || isAsciiControl unit) = false

theorem Joinless.suffix {before left after : List Nat} {unit : Nat} (joinless : Joinless before after unit)
    (suffix : left <:+ before) : Joinless left after unit :=
  { joinless with dashes := fun dashes => joinless.dashes (dashes.trans suffix) }

theorem consumeQuoted_shorter {quote : Nat} (ordinary : quote ≠ 92) {escapes : Bool} {text after : List Nat}
    (closed : consumeQuoted quote escapes text = some after) : after.length < text.length := by
  rw [consumeQuoted_eq ordinary] at closed
  obtain ⟨⟨body, left⟩, found, rfl⟩ := Option.map_eq_some_iff.mp closed
  exact SqlLexer.closeQuote_shorter found

/-- A literal that is closed in front of a text is closed in front of another one as well. -/
theorem consumeQuoted_behind {quote : Nat} (ordinary : quote ≠ 92) {escapes : Bool} {after : List Nat} {unit : Nat}
    {tail : List Nat} (apart : unit = quote → after.head? = some quote) (rest left : List Nat)
    (closed : consumeQuoted quote escapes (rest ++ after) = some (left ++ after)) :
    consumeQuoted quote escapes (rest ++ unit :: tail) = some (left ++ unit :: tail) := by
  have tooShort {text : List Nat} (fits : text.length ≤ after.length)
      (closed : consumeQuoted quote escapes text = some (left ++ after)) : False := by
    have shorter := consumeQuoted_shorter ordinary closed
    rw [List.length_append] at shorter
    omega
  match rest with
  | [] => exact (tooShort (Nat.le_refl _) closed).elim
  | [byte] =>
    cases after with
    | nil =>
      simp only [List.append_nil, consumeQuoted] at closed
      split at closed
      · cases closed
      next plain =>
        split at closed
        next closes =>
          cases closed
          rw [List.singleton_append, consumeQuoted, if_neg plain, if_pos closes, if_neg fun same => by cases apart same]
          rfl
        · cases closed
    | cons next later =>
      rw [List.singleton_append, consumeQuoted] at closed
      split at closed
      · exact (tooShort (by simp) closed).elim
      next plain =>
        split at closed
        next closes =>
          split at closed
          · exact (tooShort (by simp) closed).elim
          next other =>
            have none : left = [] := by
              have same := congrArg List.length (Option.some.inj closed)
              simp only [List.length_append, List.length_cons] at same
              exact List.length_eq_zero_iff.mp (by omega)
            rw [none, List.singleton_append, consumeQuoted, if_neg plain, if_pos closes,
              if_neg fun same => other (Option.some.inj (apart same))]
            rfl
        · exact (tooShort (by simp) closed).elim
  | byte :: next :: rest =>
    rw [List.cons_append, List.cons_append, consumeQuoted] at closed ⊢
    split at closed
    next escaped =>
      rw [if_pos escaped]
      exact consumeQuoted_behind ordinary apart rest left closed
    next plain =>
      rw [if_neg plain]
      split at closed
      next closes =>
        rw [if_pos closes]
        split at closed
        next doubled =>
          rw [if_pos doubled]
          exact consumeQuoted_behind ordinary apart rest left closed
        next other =>
          rw [if_neg other]
          have same : next :: rest = left := List.append_cancel_right (Option.some.inj closed)
          rw [← same]
          rfl
      next inside =>
        rw [if_neg inside]
        exact consumeQuoted_behind ordinary apart (next :: rest) left closed

theorem consumeLineComment_behind {after left : List Nat} (other : List Nat) (open_ : left ≠ []) (rest : List Nat)
    (skipped : consumeLineComment (rest ++ after) = left ++ after) :
    consumeLineComment (rest ++ other) = left ++ other := by
  induction rest with
  | nil =>
    have shorter := (List.dropWhile_suffix (l := after) (· != 10)).length_le
    have length := congrArg List.length skipped
    rw [List.nil_append, consumeLineComment_eq, SqlLexer.skipLine, List.length_append] at length
    exact absurd (List.length_eq_zero_iff.mp (by omega)) open_
  | cons byte rest ih =>
    rw [List.cons_append, consumeLineComment] at skipped ⊢
    split at skipped
    next newline =>
      rw [if_pos newline]
      have same : byte :: rest = left := List.append_cancel_right skipped
      rw [← same]
      rfl
    next inside =>
      rw [if_neg inside]
      exact ih skipped

theorem consumeBlockComment_shorter {text after : List Nat} (closed : consumeBlockComment text = some after) :
    after.length < text.length := by
  rw [consumeBlockComment_eq] at closed
  have shorter := SqlLexer.closeComment_shorter closed
  omega

theorem consumeBlockComment_behind {after left : List Nat} (other : List Nat) (rest : List Nat)
    (closed : consumeBlockComment (rest ++ after) = some (left ++ after)) :
    2 ≤ rest.length ∧ consumeBlockComment (rest ++ other) = some (left ++ other) := by
  have tooShort {text : List Nat} (fits : text.length ≤ after.length)
      (closed : consumeBlockComment text = some (left ++ after)) : False := by
    have shorter := consumeBlockComment_shorter closed
    rw [List.length_append] at shorter
    omega
  match rest with
  | [] => exact (tooShort (Nat.le_refl _) closed).elim
  | [byte] =>
    cases after with
    | nil => cases closed
    | cons next later =>
      rw [List.singleton_append, consumeBlockComment] at closed
      split at closed
      · have length := congrArg List.length (Option.some.inj closed)
        simp only [List.length_append, List.length_cons] at length
        omega
      · exact (tooShort (Nat.le_refl _) closed).elim
  | byte :: next :: rest =>
    refine ⟨by simp, ?_⟩
    rw [List.cons_append, List.cons_append, consumeBlockComment] at closed ⊢
    split at closed
    next closes =>
      rw [if_pos closes]
      have same : rest = left := List.append_cancel_right (Option.some.inj closed)
      rw [same]
    next inside =>
      rw [if_neg inside]
      exact (consumeBlockComment_behind other (next :: rest) closed).2

theorem span_behind {test : Nat → Bool} {after left : List Nat} {unit : Nat} (stops : test unit = false) (tail : List Nat)
    (rest : List Nat) (dropped : (rest ++ after).dropWhile test = left ++ after) :
    (rest ++ unit :: tail).takeWhile test = (rest ++ after).takeWhile test ∧
      (rest ++ unit :: tail).dropWhile test = left ++ unit :: tail := by
  induction rest with
  | nil =>
    have length := congrArg List.length (List.takeWhile_append_dropWhile (p := test) (l := after))
    rw [List.nil_append] at dropped
    rw [dropped, List.length_append, List.length_append] at length
    have none : left = [] := List.length_eq_zero_iff.mp (by omega)
    have taken : after.takeWhile test = [] := List.length_eq_zero_iff.mp (by omega)
    simp [none, taken, stops]
  | cons byte rest ih =>
    rw [List.cons_append, List.dropWhile_cons] at dropped
    by_cases passes : test byte = true
    · rw [if_pos passes] at dropped
      simp [passes, ih dropped]
    · rw [if_neg passes] at dropped
      have same : byte :: rest = left := List.append_cancel_right dropped
      simp [passes, ← same]

theorem isExecutableComment_append {text : List Nat} (long : 2 ≤ text.length) (rest : List Nat) :
    isExecutableComment (text ++ rest) = isExecutableComment text := by
  obtain ⟨first, second, text, rfl⟩ : ∃ first second later, text = first :: second :: later := by
    match text, long with
    | first :: second :: later, _ => exact ⟨first, second, later, rfl⟩
  rfl

/-- Two dashes start a line comment where a blank or a control byte follows them. -/
abbrev StartsLineComment (byte : Nat) (rest : List Nat) : Prop :=
  byte = 45 ∧ rest.head? = some 45 ∧ (rest.tail.head?.any fun next => isAsciiWhitespace next || isAsciiControl next) = true

theorem lexStep_lineComment {byte : Nat} {rest : List Nat} (starts : StartsLineComment byte rest) (escapes : Bool) :
    lexStep escapes byte rest = some (none, consumeLineComment rest.tail) := by
  obtain ⟨rfl, dash, blank⟩ := starts
  have unblank : isAsciiWhitespace 45 = false := by decide
  rw [lexStep, unblank, if_neg (by decide), if_neg (by decide), if_neg (by decide), if_neg (by decide),
    if_pos ⟨rfl, dash, blank⟩]

theorem lexStep_blockComment {rest : List Nat} (star : rest.head? = some 42) (escapes : Bool) :
    lexStep escapes 47 rest =
      if isExecutableComment rest.tail then none else (consumeBlockComment rest.tail).map (none, ·) := by
  have unblank : isAsciiWhitespace 47 = false := by decide
  rw [lexStep, unblank, if_neg (by decide), if_neg (by decide), if_neg (by decide), if_neg (by decide),
    if_neg (fun dashed => absurd dashed.1 (by decide)), if_pos ⟨rfl, star⟩]

section
variable {escapes : Bool} {byte unit : Nat} {rest left after : List Nat} {token : Option SqlToken}

theorem startsLineComment_behind (tail : List Nat) (joinless : Joinless (byte :: rest) after unit)
    (uncommented : left = [] → token = none → byte ≠ 35 ∧ byte ≠ 45)
    (read : lexStep escapes byte (rest ++ after) = some (token, left ++ after)) :
    StartsLineComment byte (rest ++ unit :: tail) ↔ StartsLineComment byte (rest ++ after) := by
  have skipped (starts : StartsLineComment byte (rest ++ after)) :
      token = none ∧ consumeLineComment (rest ++ after).tail = left ++ after := by
    rw [lexStep_lineComment starts] at read
    obtain ⟨rfl, same⟩ := Prod.mk.inj (Option.some.inj read)
    exact ⟨rfl, same⟩
  have dropped (text : List Nat) : (consumeLineComment text).length ≤ text.length := by
    rw [consumeLineComment_eq]
    exact (List.dropWhile_suffix (l := text) (· != 10)).length_le
  match rest with
  | [] =>
    refine iff_of_false (fun starts => joinless.dash (Option.some.inj starts.2.1)) ?_
    intro starts
    have shorter := dropped after.tail
    have length := congrArg List.length (skipped starts).2
    cases after with
    | nil => cases starts.2.1
    | cons dash later =>
      simp only [List.nil_append, List.tail_cons, List.length_append, List.length_cons] at shorter length
      omega
  | [dash] =>
    refine iff_of_false ?_ ?_
    · rintro ⟨rfl, second, blank⟩
      obtain rfl : dash = 45 := Option.some.inj second
      have open_ : (isAsciiWhitespace unit || isAsciiControl unit) = true := blank
      rw [joinless.dashes (List.suffix_refl _)] at open_
      cases open_
    · intro starts
      have shorter := dropped after
      have length := congrArg List.length (skipped starts).2
      simp only [List.singleton_append, List.tail_cons, List.length_append] at length
      have none : left = [] := List.length_eq_zero_iff.mp (by omega)
      exact (uncommented none (skipped starts).1).2 starts.1
  | first :: second :: rest => exact Iff.rfl

theorem startsBlockComment_behind (tail : List Nat) (joinless : Joinless (byte :: rest) after unit)
    (read : lexStep escapes byte (rest ++ after) = some (token, left ++ after)) :
    (byte = 47 ∧ (rest ++ unit :: tail).head? = some 42) ↔ (byte = 47 ∧ (rest ++ after).head? = some 42) := by
  cases rest with
  | nil =>
    refine iff_of_false (fun starts => joinless.star (Option.some.inj starts.2)) ?_
    rintro ⟨rfl, star⟩
    rw [lexStep_blockComment star] at read
    split at read
    · cases read
    · obtain ⟨later, closed, same⟩ := Option.map_eq_some_iff.mp read
      obtain ⟨-, rfl⟩ := Prod.mk.inj same
      have shorter := consumeBlockComment_shorter closed
      simp only [List.nil_append, List.length_tail, List.length_append] at shorter
      omega
  | cons first rest => exact Iff.rfl

/-- A round that ends in front of a text, and not with a line comment, goes as well in front of
an edited one. -/
theorem lexStep_behind (tail : List Nat) (joinless : Joinless (byte :: rest) after unit)
    (uncommented : left = [] → token = none → byte ≠ 35 ∧ byte ≠ 45)
    (read : lexStep escapes byte (rest ++ after) = some (token, left ++ after)) :
    lexStep escapes byte (rest ++ unit :: tail) = some (token, left ++ unit :: tail) := by
  have lineStart := startsLineComment_behind tail joinless uncommented read
  have blockStart := startsBlockComment_behind tail joinless read
  have kept {token' : Option SqlToken} (same : some (token', rest ++ after) = some (token, left ++ after)) :
      some (token', rest ++ unit :: tail) = some (token, left ++ unit :: tail) := by
    obtain ⟨rfl, lists⟩ := Prod.mk.inj (Option.some.inj same)
    rw [List.append_cancel_right lists]
  have quoted {quote : Nat} {escapes : Bool} (ordinary : quote = 39 ∨ quote = 34 ∨ quote = 96)
      (read : (consumeQuoted quote escapes (rest ++ after)).map (some SqlToken.atom, ·) = some (token, left ++ after)) :
      (consumeQuoted quote escapes (rest ++ unit :: tail)).map (some SqlToken.atom, ·) = some (token, left ++ unit :: tail) := by
    obtain ⟨later, closed, same⟩ := Option.map_eq_some_iff.mp read
    obtain ⟨rfl, rfl⟩ := Prod.mk.inj same
    have apart : unit = quote → after.head? = some quote := by
      rintro rfl
      exact joinless.quote ordinary
    rw [consumeQuoted_behind (by omega) apart rest left closed]
    rfl
  have commented (front : List Nat) (marked : byte = 35 ∨ byte = 45)
      (read : some (none, consumeLineComment (front ++ after)) = some (token, left ++ after)) :
      some (none, consumeLineComment (front ++ unit :: tail)) = some (token, left ++ unit :: tail) := by
    obtain ⟨rfl, skipped⟩ := Prod.mk.inj (Option.some.inj read)
    have open_ : left ≠ [] := by
      intro none
      have unmarked := uncommented none rfl
      omega
    rw [consumeLineComment_behind _ open_ front skipped]
  unfold lexStep at read ⊢
  by_cases blank : isAsciiWhitespace byte = true
  · rw [if_pos blank] at read ⊢
    exact kept read
  rw [if_neg blank] at read ⊢
  by_cases string : byte = 39 ∨ byte = 34
  · rw [if_pos string] at read ⊢
    exact quoted (by omega) read
  rw [if_neg string] at read ⊢
  by_cases identifier : byte = 96
  · rw [if_pos identifier] at read ⊢
    exact quoted (by omega) read
  rw [if_neg identifier] at read ⊢
  by_cases hash : byte = 35
  · rw [if_pos hash] at read ⊢
    exact commented rest (Or.inl hash) read
  rw [if_neg hash] at read ⊢
  by_cases starts : StartsLineComment byte (rest ++ after)
  · have starts' := lineStart.mpr starts
    rw [if_pos starts] at read
    rw [if_pos starts']
    cases rest with
    | nil => exact absurd (Option.some.inj starts'.2.1) joinless.dash
    | cons first rest => exact commented rest (Or.inr starts.1) read
  rw [if_neg starts] at read
  rw [if_neg (mt lineStart.mp starts)]
  by_cases opens : byte = 47 ∧ (rest ++ after).head? = some 42
  · have opens' := blockStart.mpr opens
    rw [if_pos opens] at read
    rw [if_pos opens']
    cases rest with
    | nil => exact absurd (Option.some.inj opens'.2) joinless.star
    | cons first rest =>
      rw [List.cons_append, List.tail_cons] at read ⊢
      split at read
      · cases read
      next inert =>
        obtain ⟨later, closed, same⟩ := Option.map_eq_some_iff.mp read
        obtain ⟨rfl, rfl⟩ := Prod.mk.inj same
        have ⟨long, closed'⟩ := consumeBlockComment_behind (unit :: tail) rest closed
        rw [isExecutableComment_append long] at inert ⊢
        rw [if_neg inert, closed']
        rfl
  rw [if_neg opens] at read
  rw [if_neg (mt blockStart.mp opens)]
  by_cases openParen : byte = 40
  · rw [if_pos openParen] at read ⊢
    exact kept read
  rw [if_neg openParen] at read ⊢
  by_cases closeParen : byte = 41
  · rw [if_pos closeParen] at read ⊢
    exact kept read
  rw [if_neg closeParen] at read ⊢
  by_cases semicolon : byte = 59
  · rw [if_pos semicolon] at read ⊢
    exact kept read
  rw [if_neg semicolon] at read ⊢
  by_cases letter : (isAsciiAlphabetic byte || byte == 95) = true
  · rw [if_pos letter] at read ⊢
    obtain ⟨rfl, dropped⟩ := Prod.mk.inj (Option.some.inj read)
    have span := span_behind joinless.word tail rest dropped
    rw [span.1, span.2]
  rw [if_neg letter] at read ⊢
  by_cases punctuation : isAsciiPunctuation byte = true
  · rw [if_pos punctuation] at read ⊢
    exact kept read
  rw [if_neg punctuation] at read ⊢
  exact kept read

end

/-! ### Places between tokens -/

/-- Reading a text in front of another one, the lexer comes to stand between them, and not at
the end of a line comment. -/
inductive Stands (escapes : Bool) (after : List Nat) : List Nat → Prop where
  | start : Stands escapes after []
  | round (byte : Nat) (consumed left : List Nat) (token : Option SqlToken)
      (read : lexStep escapes byte (consumed ++ left ++ after) = some (token, left ++ after))
      (uncommented : left = [] → token = none → byte ≠ 35 ∧ byte ≠ 45)
      (further : Stands escapes after left) : Stands escapes after (byte :: (consumed ++ left))

/-- In both modes the lexer stands between the two texts. -/
def Gap (before after : List Nat) : Prop := ∀ escapes, Stands escapes after before

/-- What is read in front of a text is read in front of an edited one as well. -/
theorem Stands.lexed {escapes : Bool} {before after : List Nat} (stands : Stands escapes after before) :
    ∃ emitted, lexMysql (before ++ after) escapes = (lexMysql after escapes).map (emitted ++ ·) ∧
      ∀ unit tail, Joinless before after unit →
        lexMysql (before ++ unit :: tail) escapes = (lexMysql (unit :: tail) escapes).map (emitted ++ ·) := by
  induction stands with
  | start => exact ⟨[], by simp, fun unit tail _ => by simp⟩
  | round byte consumed left token read uncommented further ih =>
    obtain ⟨emitted, lexed, edited⟩ := ih
    refine ⟨token.toList ++ emitted, ?_, ?_⟩
    · rw [List.cons_append, lexMysql_step read, lexed, Option.map_map]
      congr 1
      funext later
      simp
    · intro unit tail joinless
      have suffix : left <:+ byte :: (consumed ++ left) := ⟨byte :: consumed, by simp⟩
      have read' := lexStep_behind tail joinless uncommented read
      rw [List.cons_append, lexMysql_step read', edited unit tail (joinless.suffix suffix), Option.map_map]
      congr 1
      funext later
      simp

/-- An edit behind a gap that starts differently, or not, and goes on with the same tokens. -/
theorem Gap.edited {before after tail : List Nat} {unit : Nat} (gap : Gap before after) (joinless : Joinless before after unit)
    (same : ∀ escapes, lexMysql (unit :: tail) escapes = lexMysql after escapes) (escapes : Bool) :
    lexMysql (before ++ unit :: tail) escapes = lexMysql (before ++ after) escapes := by
  obtain ⟨emitted, lexed, edited⟩ := (gap escapes).lexed
  rw [lexed, edited unit tail joinless, same]

theorem lexMysql_skip {escapes : Bool} {byte : Nat} {rest after : List Nat}
    (read : lexStep escapes byte rest = some (none, after)) : lexMysql (byte :: rest) escapes = lexMysql after escapes := by
  rw [lexMysql_step read]
  simp

theorem lexMysql_blanks {blanks : List Nat} (inside : ∀ byte ∈ blanks, isAsciiWhitespace byte = true) (after : List Nat)
    (escapes : Bool) : lexMysql (blanks ++ after) escapes = lexMysql after escapes := by
  induction blanks with
  | nil => rfl
  | cons byte blanks ih =>
    obtain ⟨first, others⟩ := List.forall_mem_cons.mp inside
    have read : lexStep escapes byte (blanks ++ after) = some (none, blanks ++ after) := by rw [lexStep, if_pos first]
    rw [List.cons_append, lexMysql_skip read, ih others]

theorem lexMysql_comment {body : List Nat} (inert : isExecutableComment body = false)
    (terminated : consumeBlockComment body = some []) (after : List Nat) (escapes : Bool) :
    lexMysql (47 :: 42 :: body ++ after) escapes = lexMysql after escapes := by
  have ⟨long, closed⟩ := @consumeBlockComment_behind [] [] after body (by rw [List.append_nil]; exact terminated)
  have read : lexStep escapes 47 (42 :: body ++ after) = some (none, after) := by
    rw [lexStep_blockComment rfl, List.cons_append, List.tail_cons, isExecutableComment_append long, inert, closed]
    rfl
  exact lexMysql_skip read

theorem joinless_blank {before after : List Nat} {unit : Nat} (blank : isAsciiWhitespace unit = true)
    (undashed : ¬ [45, 45] <:+ before) : Joinless before after unit := by
  have cases : unit = 32 ∨ unit = 9 ∨ unit = 10 ∨ unit = 12 ∨ unit = 13 := by
    simpa [isAsciiWhitespace, or_assoc] using blank
  refine ⟨by omega, by omega, ?_, by omega, fun dashes => absurd dashes undashed⟩
  rcases cases with rfl | rfl | rfl | rfl | rfl <;> rfl

theorem joinless_comment (before after : List Nat) : Joinless before after 47 :=
  ⟨by decide, by decide, by decide, by omega, fun _ => by decide⟩

/-! ### Quoted content -/

theorem consumeQuoted_lone {quote : Nat} {escapes : Bool} {text after : List Nat}
    (closed : consumeQuoted quote escapes text = some after) : after.head? ≠ some quote := by
  induction text using consumeQuoted.induct quote escapes with
  | case1 => cases closed
  | case2 byte escaped =>
    rw [consumeQuoted, if_pos escaped] at closed
    cases closed
  | case3 plain =>
    rw [consumeQuoted, if_neg plain, if_pos rfl] at closed
    cases closed
    intro same
    cases same
  | case4 byte plain other =>
    rw [consumeQuoted, if_neg plain, if_neg other] at closed
    cases closed
  | case5 byte next rest escaped ih =>
    rw [consumeQuoted, if_pos escaped] at closed
    exact ih closed
  | case6 rest plain ih =>
    rw [consumeQuoted, if_neg plain, if_pos rfl, if_pos rfl] at closed
    exact ih closed
  | case7 next rest other plain =>
    rw [consumeQuoted, if_neg plain, if_pos rfl, if_neg other] at closed
    cases closed
    exact fun same => other (Option.some.inj same)
  | case8 byte next rest plain other ih =>
    rw [consumeQuoted, if_neg plain, if_neg other] at closed
    exact ih closed

/-- Content without quotes and backslashes is closed by the next quote. -/
theorem consumeQuoted_plain {quote : Nat} (ordinary : quote ≠ 92) (escapes : Bool) {content after : List Nat}
    (plain : ∀ byte ∈ content, byte ≠ quote ∧ byte ≠ 92) (lone : after.head? ≠ some quote) :
    consumeQuoted quote escapes (content ++ quote :: after) = some after := by
  induction content with
  | nil =>
    have unescaped : ¬ (escapes && quote == 92) = true := by simp [ordinary]
    cases after with
    | nil => rw [List.nil_append, consumeQuoted, if_neg unescaped, if_pos rfl]
    | cons next after =>
      rw [List.nil_append, consumeQuoted, if_neg unescaped, if_pos rfl, if_neg fun same => lone (congrArg some same)]
  | cons byte content ih =>
    obtain ⟨first, others⟩ := List.forall_mem_cons.mp plain
    have unescaped : ¬ (escapes && byte == 92) = true := by simp [first.2]
    have further := ih others
    obtain ⟨next, rest, same⟩ : ∃ next rest, content ++ quote :: after = next :: rest :=
      List.exists_cons_of_ne_nil (by simp)
    rw [same] at further
    rw [List.cons_append, same, consumeQuoted, if_neg unescaped, if_neg first.1, further]

def IsQuote (byte : Nat) : Prop := byte = 39 ∨ byte = 34 ∨ byte = 96

instance (byte : Nat) : Decidable (IsQuote byte) := inferInstanceAs (Decidable (_ ∨ _ ∨ _))

/-- A literal that both modes delimit alike reads the same with other content. -/
theorem lexStep_content {quote : Nat} (isQuote : IsQuote quote) {escapes : Bool} {content content' after : List Nat}
    (plain : ∀ byte ∈ content', ¬ IsQuote byte ∧ byte ≠ 92)
    (read : lexStep escapes quote (content ++ quote :: after) = some (some .atom, after)) :
    lexStep escapes quote (content' ++ quote :: after) = some (some .atom, after) := by
  have free : ∀ byte ∈ content', byte ≠ quote ∧ byte ≠ 92 := by
    intro byte member
    refine ⟨?_, (plain byte member).2⟩
    rintro rfl
    exact (plain byte member).1 isQuote
  have replaced {escapes : Bool} (ordinary : quote ≠ 92)
      (read : (consumeQuoted quote escapes (content ++ quote :: after)).map (some SqlToken.atom, ·) =
        some (some .atom, after)) :
      (consumeQuoted quote escapes (content' ++ quote :: after)).map (some SqlToken.atom, ·) = some (some .atom, after) := by
    obtain ⟨later, closed, same⟩ := Option.map_eq_some_iff.mp read
    obtain ⟨-, rfl⟩ := Prod.mk.inj same
    rw [consumeQuoted_plain ordinary escapes free (consumeQuoted_lone closed)]
    rfl
  have unblank : ¬ isAsciiWhitespace quote = true := by
    rcases isQuote with rfl | rfl | rfl <;> decide
  rw [lexStep, if_neg unblank] at read ⊢
  by_cases string : quote = 39 ∨ quote = 34
  · rw [if_pos string] at read ⊢
    exact replaced (by omega) read
  · have identifier : quote = 96 := by
      rcases isQuote with rfl | rfl | rfl
      · exact absurd (Or.inl rfl) string
      · exact absurd (Or.inr rfl) string
      · rfl
    rw [if_neg string, if_pos identifier] at read ⊢
    subst identifier
    exact replaced (by decide) read

theorem joinless_quote {quote : Nat} (isQuote : IsQuote quote) (before rest : List Nat) :
    Joinless before (quote :: rest) quote := by
  rcases isQuote with rfl | rfl | rfl <;>
    exact ⟨by decide, by decide, by decide, fun _ => rfl, fun _ => by decide⟩

/-! ### Letter case -/

section
variable (byte : Nat)

theorem isAsciiWhitespace_upper : isAsciiWhitespace (toAsciiUppercase byte) = isAsciiWhitespace byte := by
  unfold toAsciiUppercase isAsciiWhitespace
  split
  · rw [Bool.eq_iff_iff]
    simp
    omega
  · rfl

theorem isAsciiControl_upper : isAsciiControl (toAsciiUppercase byte) = isAsciiControl byte := by
  unfold toAsciiUppercase isAsciiControl
  split
  · rw [Bool.eq_iff_iff]
    simp
    omega
  · rfl

theorem isAsciiAlphabetic_upper : isAsciiAlphabetic (toAsciiUppercase byte) = isAsciiAlphabetic byte := by
  unfold toAsciiUppercase isAsciiAlphabetic
  split
  · rw [Bool.eq_iff_iff]
    simp
    omega
  · rfl

theorem isAsciiPunctuation_upper : isAsciiPunctuation (toAsciiUppercase byte) = isAsciiPunctuation byte := by
  unfold toAsciiUppercase isAsciiPunctuation
  split
  · rw [Bool.eq_iff_iff]
    simp
    omega
  · rfl

theorem isWordByte_upper : isWordByte (toAsciiUppercase byte) = isWordByte byte := by
  unfold toAsciiUppercase isWordByte isAsciiAlphabetic isAsciiDigit
  split
  · rw [Bool.eq_iff_iff]
    simp
    omega
  · rfl

theorem toAsciiUppercase_upper : toAsciiUppercase (toAsciiUppercase byte) = toAsciiUppercase byte := by
  unfold toAsciiUppercase
  split
  · rw [if_neg (by omega)]
  · rfl

theorem upper_eq_iff {mark : Nat} (unlettered : mark < 65 ∨ (90 < mark ∧ mark < 97) ∨ 122 < mark) :
    toAsciiUppercase byte = mark ↔ byte = mark := by
  unfold toAsciiUppercase
  split <;> omega

end

theorem consumeQuoted_upper {quote : Nat} (isQuote : IsQuote quote) (escapes : Bool) (text : List Nat) :
    consumeQuoted quote escapes (text.map toAsciiUppercase) =
      (consumeQuoted quote escapes text).map (List.map toAsciiUppercase) := by
  have quoted (byte : Nat) : toAsciiUppercase byte = quote ↔ byte = quote := by
    apply upper_eq_iff
    rcases isQuote with rfl | rfl | rfl <;> omega
  have backslash (byte : Nat) : (escapes && toAsciiUppercase byte == 92) = (escapes && byte == 92) := by
    rw [Bool.eq_iff_iff]
    simp [@upper_eq_iff byte 92 (by omega)]
  match text with
  | [] => rfl
  | [byte] =>
    simp only [List.map_cons, List.map_nil, consumeQuoted, backslash, quoted]
    split
    · rfl
    · split <;> rfl
  | byte :: next :: rest =>
    have further := consumeQuoted_upper isQuote escapes rest
    have further' := consumeQuoted_upper isQuote escapes (next :: rest)
    rw [List.map_cons] at further'
    simp only [List.map_cons, consumeQuoted, backslash, quoted, further, further']
    split
    · rfl
    split
    · split <;> rfl
    · rfl

theorem consumeLineComment_upper (text : List Nat) :
    consumeLineComment (text.map toAsciiUppercase) = (consumeLineComment text).map toAsciiUppercase := by
  induction text with
  | nil => rfl
  | cons byte text ih =>
    simp only [List.map_cons, consumeLineComment, @upper_eq_iff byte 10 (by omega), ih]
    split <;> rfl

theorem consumeBlockComment_upper (text : List Nat) :
    consumeBlockComment (text.map toAsciiUppercase) = (consumeBlockComment text).map (List.map toAsciiUppercase) := by
  induction text with
  | nil => rfl
  | cons byte text ih =>
    cases text with
    | nil => rfl
    | cons next text =>
      rw [List.map_cons] at ih
      simp only [List.map_cons, consumeBlockComment, @upper_eq_iff byte 42 (by omega), @upper_eq_iff next 47 (by omega), ih]
      split <;> rfl

theorem isExecutableComment_upper (text : List Nat) :
    isExecutableComment (text.map toAsciiUppercase) = isExecutableComment text := by
  have mark (byte : Nat) : (toAsciiUppercase byte == 77 || toAsciiUppercase byte == 109) = (byte == 77 || byte == 109) := by
    unfold toAsciiUppercase
    rw [Bool.eq_iff_iff]
    split
    · simp
      omega
    · rfl
  match text with
  | [] => rfl
  | [byte] =>
    have bang := @upper_eq_iff byte 33 (by omega)
    rw [Bool.eq_iff_iff]
    simp [isExecutableComment, bang]
  | byte :: next :: rest =>
    have bang := @upper_eq_iff byte 33 (by omega)
    have bang' := @upper_eq_iff next 33 (by omega)
    rw [Bool.eq_iff_iff]
    simp only [isExecutableComment, List.map_cons, List.head?_cons, List.tail_cons, Option.any_some, mark]
    simp [bang, bang']

/-- The letter case changes no token, and otherwise only what is left. -/
theorem lexStep_upper (escapes : Bool) (byte : Nat) (rest : List Nat) :
    lexStep escapes (toAsciiUppercase byte) (rest.map toAsciiUppercase) =
      (lexStep escapes byte rest).map fun (token, after) => (token, after.map toAsciiUppercase) := by
  have head {mark : Nat} (unlettered : mark < 65 ∨ (90 < mark ∧ mark < 97) ∨ 122 < mark) :
      (rest.map toAsciiUppercase).head? = some mark ↔ rest.head? = some mark := by
    cases rest with
    | nil => rfl
    | cons first rest => simp [upper_eq_iff first unlettered]
  have blank : ((rest.map toAsciiUppercase).tail.head?.any fun next => isAsciiWhitespace next || isAsciiControl next) =
      rest.tail.head?.any fun next => isAsciiWhitespace next || isAsciiControl next := by
    match rest with
    | [] => rfl
    | [first] => rfl
    | first :: second :: rest => simp [isAsciiWhitespace_upper, isAsciiControl_upper]
  have starts : (isAsciiAlphabetic (toAsciiUppercase byte) || toAsciiUppercase byte == 95) =
      (isAsciiAlphabetic byte || byte == 95) := by
    rw [isAsciiAlphabetic_upper, Bool.eq_iff_iff]
    simp [@upper_eq_iff byte 95 (by omega)]
  have word : isWordByte ∘ toAsciiUppercase = isWordByte := funext isWordByte_upper
  have raised : toAsciiUppercase ∘ toAsciiUppercase = toAsciiUppercase := funext toAsciiUppercase_upper
  unfold lexStep
  simp only [isAsciiWhitespace_upper, @upper_eq_iff byte 39 (by omega), @upper_eq_iff byte 34 (by omega),
    @upper_eq_iff byte 96 (by omega), @upper_eq_iff byte 35 (by omega), @upper_eq_iff byte 45 (by omega),
    @upper_eq_iff byte 47 (by omega), @upper_eq_iff byte 40 (by omega), @upper_eq_iff byte 41 (by omega),
    @upper_eq_iff byte 59 (by omega), @head 45 (by omega), @head 42 (by omega), blank, starts, isAsciiPunctuation_upper]
  by_cases space : isAsciiWhitespace byte = true
  · rw [if_pos space, if_pos space]
    rfl
  rw [if_neg space, if_neg space]
  by_cases string : byte = 39 ∨ byte = 34
  · rw [if_pos string, if_pos string]
    rcases string with rfl | rfl
    · rw [show toAsciiUppercase 39 = 39 from rfl, consumeQuoted_upper (Or.inl rfl), Option.map_map, Option.map_map]
      rfl
    · rw [show toAsciiUppercase 34 = 34 from rfl, consumeQuoted_upper (Or.inr (Or.inl rfl)), Option.map_map, Option.map_map]
      rfl
  rw [if_neg string, if_neg string]
  by_cases identifier : byte = 96
  · rw [if_pos identifier, if_pos identifier, consumeQuoted_upper (Or.inr (Or.inr rfl)), Option.map_map, Option.map_map]
    rfl
  rw [if_neg identifier, if_neg identifier]
  by_cases hash : byte = 35
  · rw [if_pos hash, if_pos hash, consumeLineComment_upper]
    rfl
  rw [if_neg hash, if_neg hash]
  by_cases line : StartsLineComment byte rest
  · rw [if_pos line, if_pos line, ← List.map_tail, consumeLineComment_upper]
    rfl
  rw [if_neg line, if_neg line]
  by_cases block : byte = 47 ∧ rest.head? = some 42
  · rw [if_pos block, if_pos block, ← List.map_tail, isExecutableComment_upper, consumeBlockComment_upper]
    by_cases executable : isExecutableComment rest.tail = true
    · rw [if_pos executable, if_pos executable]
      rfl
    · rw [if_neg executable, if_neg executable, Option.map_map, Option.map_map]
      rfl
  rw [if_neg block, if_neg block]
  by_cases openParen : byte = 40
  · rw [if_pos openParen, if_pos openParen]
    rfl
  rw [if_neg openParen, if_neg openParen]
  by_cases closeParen : byte = 41
  · rw [if_pos closeParen, if_pos closeParen]
    rfl
  rw [if_neg closeParen, if_neg closeParen]
  by_cases semicolon : byte = 59
  · rw [if_pos semicolon, if_pos semicolon]
    rfl
  rw [if_neg semicolon, if_neg semicolon]
  by_cases letter : (isAsciiAlphabetic byte || byte == 95) = true
  · rw [if_pos letter, if_pos letter, List.takeWhile_map, List.dropWhile_map, word]
    simp [raised, toAsciiUppercase_upper]
  rw [if_neg letter, if_neg letter]
  by_cases punctuation : isAsciiPunctuation byte = true
  · have same : toAsciiUppercase byte = byte := by
      unfold toAsciiUppercase
      rw [if_neg]
      simp only [isAsciiPunctuation, Bool.or_eq_true, Bool.and_eq_true, decide_eq_true_eq] at punctuation
      omega
    rw [if_pos punctuation, if_pos punctuation, same]
    rfl
  rw [if_neg punctuation, if_neg punctuation]
  rfl

/-- The tokens do not depend on the letter case. -/
theorem lexMysql_upper (escapes : Bool) (text : List Nat) :
    lexMysql (text.map toAsciiUppercase) escapes = lexMysql text escapes := by
  induction length : text.length using Nat.strong_induction_on generalizing text with
  | _ length' ih =>
    cases text with
    | nil => rfl
    | cons byte rest =>
      have raised := lexStep_upper escapes byte rest
      cases read : lexStep escapes byte rest with
      | none =>
        rw [read] at raised
        rw [List.map_cons, lexMysql, lexMysql, Scanner.scan_cons (lexStep_advances escapes),
          Scanner.scan_cons (lexStep_advances escapes), read, raised]
        rfl
      | some found =>
        obtain ⟨token, after⟩ := found
        rw [read] at raised
        have shorter := lexStep_advances escapes byte rest token after read
        have further := ih after.length (by rw [← length, List.length_cons]; omega) after rfl
        rw [List.map_cons, lexMysql_step raised, lexMysql_step read, further]

/-! ### Edits -/

/-- Edits that leave the structure of a statement alone. -/
inductive Edit : List Nat → List Nat → Prop where
  | blank (before blanks after : List Nat) (gap : Gap before after) (undashed : ¬ [45, 45] <:+ before)
      (inside : ∀ byte ∈ blanks, isAsciiWhitespace byte = true) : Edit (before ++ after) (before ++ blanks ++ after)
  | comment (before body after : List Nat) (gap : Gap before after) (inert : isExecutableComment body = false)
      (terminated : consumeBlockComment body = some []) : Edit (before ++ after) (before ++ 47 :: 42 :: body ++ after)
  | letterCase (sql edited : List Nat) (same : sql.map toAsciiUppercase = edited.map toAsciiUppercase) : Edit sql edited
  | content (before content content' after : List Nat) (quote : Nat) (isQuote : IsQuote quote)
      (gap : Gap before (quote :: content ++ quote :: after))
      (delimited : ∀ escapes, lexStep escapes quote (content ++ quote :: after) = some (some .atom, after))
      (plain : ∀ byte ∈ content', ¬ IsQuote byte ∧ byte ≠ 92) :
      Edit (before ++ quote :: content ++ quote :: after) (before ++ quote :: content' ++ quote :: after)

theorem Edit.lexed {sql edited : List Nat} (edit : Edit sql edited) (escapes : Bool) :
    lexMysql edited escapes = lexMysql sql escapes := by
  cases edit with
  | blank before blanks after gap undashed inside =>
    cases blanks with
    | nil => rw [List.append_nil]
    | cons first blanks =>
      have joinless := @joinless_blank before after first (inside first List.mem_cons_self) undashed
      rw [List.append_assoc, List.cons_append]
      exact gap.edited joinless (lexMysql_blanks inside after) escapes
  | comment before body after gap inert terminated =>
    rw [List.append_assoc, List.cons_append]
    exact gap.edited (joinless_comment before after) (lexMysql_comment inert terminated after) escapes
  | letterCase _ _ same => rw [← lexMysql_upper, ← same, lexMysql_upper]
  | content before content content' after quote isQuote gap delimited plain =>
    rw [List.append_assoc, List.append_assoc, List.cons_append, List.cons_append]
    refine gap.edited (joinless_quote isQuote before _) ?_ escapes
    intro escapes
    rw [List.cons_append, lexMysql_step (lexStep_content isQuote plain (delimited escapes)), lexMysql_step (delimited escapes)]

theorem Edit.consistent {sql edited : List Nat} (edit : Edit sql edited) : lexConsistently edited = lexConsistently sql := by
  rw [lexConsistently, lexConsistently, edit.lexed, edit.lexed]

/-- The policy decides on the structure of a statement alone. -/
theorem edit_keeps_decision {sql edited : List Nat} (edit : Edit sql edited) :
    classifySql edited = classifySql sql ∧ mcpMayExecute edited = mcpMayExecute sql := by
  have risk : classifySql edited = classifySql sql := by
    rw [classifySql, classifySql, edit.consistent]
  refine ⟨risk, ?_⟩
  rw [mcpMayExecute, mcpMayExecute, risk, containsDangerousSqlKeyword, containsDangerousSqlKeyword, edit.consistent]

theorem gap_keyword : Gap (ascii "SELECT") (ascii "(1)") := by
  intro escapes
  have split : ascii "SELECT" = 83 :: (ascii "ELECT" ++ []) := by decide
  rw [split]
  exact .round 83 (ascii "ELECT") [] (some (.word (ascii "SELECT"))) (by cases escapes <;> decide) nofun .start

/-- A comment between a keyword and its operand changes nothing. -/
theorem edit_keeps_decision_comment :
    classifySql (ascii "SELECT" ++ 47 :: 42 :: ascii "x*/" ++ ascii "(1)") = classifySql (ascii "SELECT" ++ ascii "(1)") ∧
      mcpMayExecute (ascii "SELECT" ++ 47 :: 42 :: ascii "x*/" ++ ascii "(1)") = mcpMayExecute (ascii "SELECT" ++ ascii "(1)") :=
  edit_keeps_decision (.comment (ascii "SELECT") (ascii "x*/") (ascii "(1)") gap_keyword (by decide) (by decide))

theorem gap_dashes : Gap (ascii "SELECT--") (ascii "x;DROP TABLE t") := by
  intro escapes
  have split : ascii "SELECT--" = 83 :: (ascii "ELECT" ++ 45 :: ([] ++ 45 :: ([] ++ []))) := by decide
  rw [split]
  refine .round 83 (ascii "ELECT") _ (some (.word (ascii "SELECT"))) (by cases escapes <;> decide) nofun ?_
  refine .round 45 [] _ (some (.symbol 45)) (by cases escapes <;> decide) nofun ?_
  exact .round 45 [] [] (some (.symbol 45)) (by cases escapes <;> decide) nofun .start

/-- The decision changes where a blank behind two minus signs turns the rest of the line into a
comment, where only one mode stands between tokens, at the end of a line comment, and where
the content of a literal closes it in one mode only. -/
theorem edits_change_decision :
    (Gap (ascii "SELECT--") (ascii "x;DROP TABLE t") ∧
      classifySql (ascii "SELECT--" ++ ascii "x;DROP TABLE t") = .unknown ∧
      classifySql (ascii "SELECT--" ++ [32] ++ ascii "x;DROP TABLE t") = .read) ∧
    (lexMysql (ascii "SELECT'\\''" ++ ascii "\nFROM t") true =
        some [.word (ascii "SELECT"), .atom, .word (ascii "FROM"), .word (ascii "T")] ∧
      classifySql (ascii "SELECT'\\''" ++ ascii "\nFROM t") = .unknown ∧
      classifySql (ascii "SELECT'\\''" ++ ascii "/*'#*/" ++ ascii "\nFROM t") = .read) ∧
    (lexConsistently (ascii "SELECT#c" ++ ascii "\nx") = some [.word (ascii "SELECT"), .word (ascii "X")] ∧
      classifySql (ascii "SELECT#c" ++ ascii "\nx") = .read ∧
      classifySql (ascii "SELECT#c" ++ ascii "/*\n;y*/" ++ ascii "\nx") = .unknown) ∧
    (lexMysql (ascii "SELECT" ++ 39 :: ascii "a\\" ++ [39]) false = some [.word (ascii "SELECT"), .atom] ∧
      classifySql (ascii "SELECT" ++ 39 :: ascii "a\\" ++ [39]) = .unknown ∧
      classifySql (ascii "SELECT" ++ 39 :: ascii "a" ++ [39]) = .read) :=
  ⟨⟨gap_dashes, by decide, by decide⟩, ⟨by decide, by decide, by decide⟩, ⟨by decide, by decide, by decide⟩,
    by decide, by decide, by decide⟩

end Pipa.SqlPolicy
