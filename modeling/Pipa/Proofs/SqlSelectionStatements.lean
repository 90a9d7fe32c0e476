import Pipa.Library.SqlStatements
import Pipa.SqlStatements

/-! What the editor runs against the statements of the text. Scanner and server read in
step as long as no stretch is disputed: a quoted identifier that a backslash would keep
open, a line comment that a carriage return cuts short, dashes before exotic whitespace. -/

namespace Pipa.SqlSelection
open EditorText SqlStatements SqlLexer

/-- Text that cannot end a statement or open a quote or a block comment. -/
def inert : List Nat → Bool
  | [] => true
  | unit :: rest => unit != 59 && unit != 39 && unit != 34 && unit != 96 && !startsComment unit rest && inert rest

/-- The line behind a position up to its newline. -/
def lineOf (text : List Nat) : List Nat := text.takeWhile (· != 10)

/-- The stretch that begins here ends in the same place for the editor. -/
def alike (unit : Nat) (rest : List Nat) : Bool :=
  if unit = 96 then behindQuote true 96 rest == behindQuote false 96 rest
  else if unit = 35 ∨ startsLineComment unit rest = true then inert ((lineOf rest).dropWhile (· != 13))
  else !(unit == 45 && rest.head? == some 45 && isMySqlDashCommentFollower rest.tail.head?)

/-- No stretch is disputed up to the end of the statement that holds the offset. -/
def undisputed (ahead : Nat) : List Nat → Bool
  | [] => true
  | unit :: rest =>
    let after := (stretch false false unit rest).after
    alike unit rest &&
      (unit == 59 && ahead == 0 || undisputed (ahead - (rest.length + 1 - after.length)) after)
termination_by text => text.length
decreasing_by exact Nat.lt_succ_of_le (stretch_suffix false false unit rest).length_le

section Scan
variable {sql : List Nat} {cursor start index : Nat}

theorem scan_normal (character : Nat) (rest : List Nat) :
    scanFrom sql cursor start .normal index (character :: rest) =
      if character = 39 then scanFrom sql cursor start .singleQuote (index + 1) rest
      else if character = 34 then scanFrom sql cursor start .doubleQuote (index + 1) rest
      else if character = 96 then scanFrom sql cursor start .backtick (index + 1) rest
      else if character = 35 then scanFrom sql cursor start .lineComment (index + 1) rest
      else if character = 45 ∧ rest.head? = some 45 ∧ isMySqlDashCommentFollower rest.tail.head? = true then
        scanFrom sql cursor start .lineComment (index + 2) rest.tail
      else if character = 47 ∧ rest.head? = some 42 then scanFrom sql cursor start .blockComment (index + 2) rest.tail
      else if character = 59 then
        if cursor ≤ index then trim (slice sql start index)
        else scanFrom sql cursor (index + 1) .normal (index + 1) rest
      else scanFrom sql cursor start .normal (index + 1) rest := by
  rw [scanFrom, if_neg (by decide), if_neg (by decide), if_neg (by decide)]

theorem scan_line (character : Nat) (rest : List Nat) :
    scanFrom sql cursor start .lineComment index (character :: rest) =
      scanFrom sql cursor start (if character = 10 ∨ character = 13 then .normal else .lineComment) (index + 1) rest := by
  rw [scanFrom, if_pos rfl]

theorem scan_nil (state : ScannerState) : scanFrom sql cursor start state index [] = trim (sql.drop start) := by
  rw [scanFrom]

theorem scan_separator (rest : List Nat) :
    scanFrom sql cursor start .normal index (59 :: rest) =
      if cursor ≤ index then trim (slice sql start index) else scanFrom sql cursor (index + 1) .normal (index + 1) rest := by
  rw [scan_normal]
  rfl

/-- A quote ends where the server's would if backslashes escape in it. -/
theorem scan_quote {state : ScannerState} (quoted : state = .singleQuote ∨ state = .doubleQuote ∨ state = .backtick)
    {quote : Nat} (spelled : quoteOf state = quote) (text : List Nat) :
    scanFrom sql cursor start state index text =
      scanFrom sql cursor start .normal (index + (text.length - (behindQuote true quote text).length))
        (behindQuote true quote text) := by
  subst spelled
  have notLine : state ≠ .lineComment := by obtain rfl | rfl | rfl := quoted <;> decide
  have notBlock : state ≠ .blockComment := by obtain rfl | rfl | rfl := quoted <;> decide
  have notNormal : state ≠ .normal := by obtain rfl | rfl | rfl := quoted <;> decide
  have within (index character : Nat) (rest : List Nat) :
      scanFrom sql cursor start state index (character :: rest) =
        if character = 92 then scanFrom sql cursor start state (index + 2) rest.tail
        else if character = quoteOf state ∧ rest.head? = some (quoteOf state) then
          scanFrom sql cursor start state (index + 2) rest.tail
        else if character = quoteOf state then scanFrom sql cursor start .normal (index + 1) rest
        else scanFrom sql cursor start state (index + 1) rest := by
    rw [scanFrom, if_neg notLine, if_neg notBlock, if_pos notNormal]
  have ended (index character : Nat) : scanFrom sql cursor start state index [character] = trim (sql.drop start) := by
    rw [within]
    (repeat' split) <;> exact scan_nil _
  induction text using closeQuote.induct true (quoteOf state) generalizing index with
  | case1 => rw [behindQuote_nil, scan_nil, scan_nil]
  | case2 => rw [behindQuote_last, ended, scan_nil]
  | case3 unit other => rw [behindQuote_last, ended, scan_nil]
  | case4 unit next rest kept ih =>
    have skips : scanFrom sql cursor start state index (unit :: next :: rest) = scanFrom sql cursor start state (index + 2) rest := by
      rw [within]
      by_cases escaped : unit = 92
      · rw [if_pos escaped]
        rfl
      · have doubled : unit = quoteOf state ∧ next = quoteOf state := by simpa [escaped] using kept
        rw [if_neg escaped, if_pos ⟨doubled.1, congrArg some doubled.2⟩]
        rfl
    have shorter := (behindQuote_suffix true (quoteOf state) rest).length_le
    rw [skips, ih, behindQuote_kept kept]
    congr 1
    simp only [List.length_cons]
    omega
  | case5 next rest single =>
    have apart : ¬(quoteOf state = 92) ∧ ¬(next = quoteOf state) := by simpa using single
    rw [within, if_neg apart.1, if_neg fun doubled => apart.2 (Option.some.inj doubled.2), if_pos rfl,
      behindQuote_closed single rfl]
    congr 1
    simp only [List.length_cons]
    omega
  | case6 unit next rest single other ih =>
    have plain : ¬(unit = 92) := by
      intro same
      exact single (by simp [same])
    have shorter := (behindQuote_suffix true (quoteOf state) (next :: rest)).length_le
    rw [within, if_neg plain, if_neg fun doubled => other doubled.1, if_neg other, ih, behindQuote_other single other]
    congr 1
    simp only [List.length_cons] at shorter ⊢
    omega

/-- A block comment ends behind its first `*` and `/`. -/
theorem scan_block (text : List Nat) :
    scanFrom sql cursor start .blockComment index text =
      scanFrom sql cursor start .normal (index + (text.length - (behindComment text).length)) (behindComment text) := by
  induction text generalizing index with
  | nil => rw [scan_nil, behindComment, closeComment, Option.getD_none, scan_nil]
  | cons character rest ih =>
    rw [scanFrom, if_neg (by decide), if_pos rfl]
    by_cases closes : character = 42 ∧ rest.head? = some 47
    · obtain ⟨next, rest, rfl⟩ := List.exists_cons_of_ne_nil (l := rest) (by rintro rfl; cases closes.2)
      have behind : behindComment (character :: next :: rest) = rest := by
        rw [behindComment, closeComment, if_pos closes]
        rfl
      rw [if_pos closes, behind]
      congr 1
      simp only [List.length_cons]
      omega
    · have behind : behindComment (character :: rest) = behindComment rest := by
        rw [behindComment, closeComment, if_neg closes, behindComment]
      have shorter := (behindComment_suffix rest).length_le
      rw [if_neg closes, ih, behind]
      congr 1
      simp only [List.length_cons]
      omega

theorem inert_cons {unit : Nat} {rest : List Nat} (harmless : inert (unit :: rest) = true) :
    (unit ≠ 59 ∧ unit ≠ 39 ∧ unit ≠ 34 ∧ unit ≠ 96) ∧ startsComment unit rest = false ∧ inert rest = true := by
  simp only [inert, Bool.and_eq_true, bne_iff_ne, ne_eq, Bool.not_eq_true'] at harmless
  obtain ⟨⟨⟨⟨⟨separator, single⟩, double⟩, back⟩, block⟩, behind⟩ := harmless
  exact ⟨⟨separator, single, double, back⟩, block, behind⟩

/-- A unit of inert text in front of what the line goes on with. -/
theorem startsComment_line {unit : Nat} {line rest : List Nat} (apart : startsComment unit line = false)
    (ends : ∀ next ∈ rest.head?, next = 10) : ¬(unit = 47 ∧ (line ++ rest).head? = some 42) := by
  intro opens
  obtain ⟨rfl, opens⟩ := opens
  cases line with
  | nil => exact absurd (ends 42 opens) (by decide)
  | cons next line =>
    obtain rfl := Option.some.inj opens
    cases apart

/-- In inert text up to the end of the line, the editor ends where the line does, whether it
takes the text for a comment or for code. -/
theorem scan_inert {state : ScannerState} (either : state = .normal ∨ state = .lineComment) {line rest : List Nat}
    (harmless : inert line = true) (ends : ∀ next ∈ rest.head?, next = 10) :
    scanFrom sql cursor start state index (line ++ rest) =
      scanFrom sql cursor start .normal (index + line.length) rest := by
  induction bound : line.length using Nat.strongRecOn generalizing line state index with
  | ind count ih =>
    subst bound
    cases line with
    | nil =>
      obtain rfl | rfl := either
      · rfl
      cases rest with
      | nil => rw [List.nil_append, scan_nil, scan_nil]
      | cons next rest =>
        obtain rfl := ends next rfl
        rw [List.nil_append, scan_line, if_pos (.inl rfl), scan_normal]
        rfl
    | cons unit line =>
      obtain ⟨⟨separator, single, double, back⟩, block, behind⟩ := inert_cons harmless
      have block := startsComment_line block ends
      have steps (state : ScannerState) (either : state = .normal ∨ state = .lineComment) :
          scanFrom sql cursor start state (index + 1) (line ++ rest) =
            scanFrom sql cursor start .normal (index + (unit :: line).length) rest := by
        rw [ih line.length (by simp) either behind rfl, List.length_cons, Nat.add_assoc, Nat.add_comm 1]
      rw [List.cons_append]
      obtain rfl | rfl := either
      · rw [scan_normal, if_neg single, if_neg double, if_neg back]
        by_cases hash : unit = 35
        · rw [if_pos hash]
          exact steps .lineComment (.inr rfl)
        by_cases dashes : unit = 45 ∧ (line ++ rest).head? = some 45 ∧
            isMySqlDashCommentFollower (line ++ rest).tail.head? = true
        · rw [if_neg hash, if_pos dashes]
          cases line with
          | nil => exact absurd (ends 45 dashes.2.1) (by decide)
          | cons next line =>
            have shorter : line.length < (unit :: next :: line).length := by
              simp only [List.length_cons]
              omega
            have further := @ih line.length shorter (index + 2) .lineComment (.inr rfl) line (inert_cons behind).2.2 rfl
            rw [List.cons_append, List.tail_cons, further]
            congr 1
            simp only [List.length_cons]
            omega
        · rw [if_neg hash, if_neg dashes, if_neg block, if_neg separator]
          exact steps .normal (.inl rfl)
      · rw [scan_line]
        apply steps
        split
        · exact .inl rfl
        · exact .inr rfl

/-- Text of a comment up to a carriage return or the end of the line. -/
theorem scan_comment {line rest : List Nat} (plain : ∀ unit ∈ line, unit ≠ 10 ∧ unit ≠ 13) :
    scanFrom sql cursor start .lineComment index (line ++ rest) =
      scanFrom sql cursor start .lineComment (index + line.length) rest := by
  induction line generalizing index with
  | nil => rfl
  | cons unit line ih =>
    obtain ⟨newline, carriage⟩ := plain unit List.mem_cons_self
    have stays : ¬(unit = 10 ∨ unit = 13) := fun ended => ended.elim newline carriage
    rw [List.cons_append, scan_line, if_neg stays, ih fun other present => plain other (List.mem_cons_of_mem unit present),
      List.length_cons, Nat.add_assoc, Nat.add_comm 1]

/-- A line comment, when what stands behind a carriage return in it is inert. -/
theorem scan_lineComment {text : List Nat} (harmless : inert ((lineOf text).dropWhile (· != 13)) = true) :
    scanFrom sql cursor start .lineComment index text =
      scanFrom sql cursor start .normal (index + (text.length - (skipLine text).length)) (skipLine text) := by
  have whole : text = (lineOf text).takeWhile (· != 13) ++ ((lineOf text).dropWhile (· != 13) ++ skipLine text) := by
    rw [← List.append_assoc, List.takeWhile_append_dropWhile, lineOf, skipLine, List.takeWhile_append_dropWhile]
  have plain : ∀ unit ∈ (lineOf text).takeWhile (· != 13), unit ≠ 10 ∧ unit ≠ 13 := by
    intro unit present
    have line := List.mem_takeWhile_imp ((List.takeWhile_subset _) present)
    exact ⟨by simpa using line, by simpa using List.mem_takeWhile_imp present⟩
  have length := congrArg List.length whole
  simp only [List.length_append] at length
  rw [congrArg (scanFrom sql cursor start .lineComment index) whole, scan_comment plain, scan_inert (.inr rfl) harmless (skipLine_ends text)]
  congr 1
  omega

/-- Before a unit, the editor takes dashes for a comment whenever the server does. -/
theorem follower_of_comment {next : Nat} (blank : (isSpace next || isControl next) = true) :
    isMySqlDashCommentFollower (some next) = true := by
  simp only [isSpace, isControl, Bool.or_eq_true, Bool.and_eq_true, beq_iff_eq, decide_eq_true_eq] at blank
  simp only [isMySqlDashCommentFollower, isWhitespace, Option.any_some, Bool.or_eq_true, Bool.and_eq_true, beq_iff_eq,
    decide_eq_true_eq]
  omega

theorem scan_dashes {rest : List Nat} (starts : startsLineComment 45 rest = true)
    (harmless : inert ((lineOf rest).dropWhile (· != 13)) = true) :
    scanFrom sql cursor start .normal index (45 :: rest) =
      scanFrom sql cursor start .normal (index + (rest.length + 1 - (skipLine rest).length)) (skipLine rest) := by
  simp only [startsLineComment, beq_self_eq_true, Bool.true_and, Bool.and_eq_true, beq_iff_eq] at starts
  obtain ⟨second, blank⟩ := starts
  obtain ⟨next, rest, rfl⟩ := List.exists_cons_of_ne_nil (l := rest) (by rintro rfl; cases second)
  obtain rfl := Option.some.inj second
  have skipped : skipLine (45 :: rest) = skipLine rest := rfl
  have shorter : (skipLine rest).length ≤ rest.length := (List.dropWhile_suffix _).length_le
  rw [scan_normal, if_neg (by decide), if_neg (by decide), if_neg (by decide), if_neg (by decide), skipped, List.tail_cons]
  cases rest with
  | nil =>
    rw [if_neg (by decide), if_neg (by decide), if_neg (by decide), scan_normal]
    exact (scan_nil .normal).trans (scan_nil .normal).symm
  | cons follower rest =>
    have harmless : inert ((lineOf (follower :: rest)).dropWhile (· != 13)) = true := harmless
    rw [if_pos ⟨rfl, rfl, follower_of_comment blank⟩, scan_lineComment harmless]
    congr 1
    simp only [List.length_cons] at shorter ⊢
    omega

/-- The editor ends a stretch where the server does, unless the stretch is disputed. -/
theorem scan_stretch {unit : Nat} {rest : List Nat} (agreed : alike unit rest = true) (stays : unit ≠ 59) :
    scanFrom sql cursor start .normal index (unit :: rest) =
      scanFrom sql cursor start .normal (index + (rest.length + 1 - (stretch false false unit rest).after.length))
        (stretch false false unit rest).after := by
  have one (rest : List Nat) : index + (rest.length + 1 - rest.length) = index + 1 := by omega
  rw [stretch]
  by_cases blank : isSpace unit = true
  · have plain : unit = 32 ∨ 9 ≤ unit ∧ unit ≤ 13 := by simpa [isSpace] using blank
    rw [if_pos blank, one, scan_normal, if_neg (by omega), if_neg (by omega), if_neg (by omega), if_neg (by omega),
      if_neg (by omega), if_neg (by omega), if_neg (by omega)]
  rw [if_neg blank]
  by_cases quote : unit = 39 ∨ unit = 34
  · have shorter := (behindQuote_suffix true unit rest).length_le
    rw [if_pos quote, scan_normal]
    obtain rfl | rfl := quote
    · rw [if_pos rfl, scan_quote (.inl rfl) (show quoteOf .singleQuote = 39 from rfl)]
      congr 1
      dsimp only
      omega
    · rw [if_neg (by decide), if_pos rfl, scan_quote (.inr (.inl rfl)) (show quoteOf .doubleQuote = 34 from rfl)]
      congr 1
      dsimp only
      omega
  rw [if_neg quote]
  by_cases back : unit = 96
  · subst back
    have same : behindQuote true 96 rest = behindQuote false 96 rest := by
      rw [alike, if_pos rfl] at agreed
      exact beq_iff_eq.mp agreed
    have shorter := (behindQuote_suffix true 96 rest).length_le
    rw [if_pos rfl, ← same, scan_normal, if_neg (by decide), if_neg (by decide), if_pos rfl,
      scan_quote (.inr (.inr rfl)) (show quoteOf .backtick = 96 from rfl)]
    congr 1
    dsimp only
    omega
  rw [if_neg back]
  by_cases line : unit = 35 ∨ startsLineComment unit rest = true
  · rw [alike, if_neg back, if_pos line] at agreed
    rw [if_pos line]
    by_cases hash : unit = 35
    · subst hash
      have shorter : (skipLine rest).length ≤ rest.length := (List.dropWhile_suffix _).length_le
      rw [scan_normal, if_neg (by decide), if_neg (by decide), if_neg (by decide), if_pos rfl, scan_lineComment agreed]
      congr 1
      dsimp only
      omega
    · have starts := line.resolve_left hash
      obtain rfl : unit = 45 := by
        simp only [startsLineComment, Bool.and_eq_true, beq_iff_eq] at starts
        exact starts.1.1
      exact scan_dashes starts agreed
  rw [alike, if_neg back, if_neg line] at agreed
  have hash : unit ≠ 35 := fun hash => line (.inl hash)
  have dashes : ¬(unit = 45 ∧ rest.head? = some 45 ∧ isMySqlDashCommentFollower rest.tail.head? = true) := by
    intro dashes
    obtain ⟨first, second, follows⟩ := dashes
    rw [first, second, follows] at agreed
    exact absurd agreed (by decide)
  rw [if_neg line, Bool.false_and, if_neg Bool.false_ne_true, scan_normal, if_neg fun single => quote (.inl single),
    if_neg fun double => quote (.inr double), if_neg back, if_neg hash, if_neg dashes]
  by_cases comment : startsComment unit rest = true
  · have opens : unit = 47 ∧ rest.head? = some 42 := by simpa [startsComment] using comment
    have shorter := (behindComment_suffix rest.tail).length_le
    obtain ⟨next, rest, rfl⟩ := List.exists_cons_of_ne_nil (l := rest) (by rintro rfl; cases opens.2)
    rw [if_pos comment, if_pos opens, scan_block]
    congr 1
    simp only [List.tail_cons, List.length_cons] at shorter ⊢
    omega
  · have opens : ¬(unit = 47 ∧ rest.head? = some 42) := by simpa [startsComment] using comment
    rw [if_neg comment, if_neg opens, if_neg stays, if_neg fun inside => Bool.false_ne_true inside.1, if_neg stays, one]

end Scan

/-- From the start of a stretch, the editor finds the statement that holds the cursor. -/
theorem scan_statementAt {cursor : Nat} {left before text : List Nat} (behind : left.length ≤ cursor) (code : Bool)
    (agreed : undisputed (cursor - (left.length + before.length)) text = true) :
    scanFrom (left ++ (before ++ text)) cursor left.length .normal (left.length + before.length) text =
      trim (statementAt (cursor - left.length) (prepend before code (statements false false text))) := by
  induction bound : text.length using Nat.strongRecOn generalizing left before text code with
  | ind count ih =>
    subst bound
    cases text with
    | nil =>
      rw [scan_nil, statements, prepend, statementAt, List.drop_left]
    | cons unit rest =>
      rw [undisputed, Bool.and_eq_true] at agreed
      obtain ⟨alike, agreed⟩ := agreed
      by_cases separator : unit = 59
      · subst separator
        have sliced : slice (left ++ (before ++ 59 :: rest)) left.length (left.length + before.length) = before := by
          rw [slice, List.drop_left, Nat.add_sub_cancel_left, List.take_left]
        have moved : left ++ (before ++ 59 :: rest) = (left ++ before ++ [59]) ++ ([] ++ rest) := by simp
        rw [scan_separator, sliced, statements_separator rfl, prepend, statementAt_cons (statements_ne_nil false false rest),
          List.append_nil]
        dsimp only
        by_cases within : cursor ≤ left.length + before.length
        · rw [if_pos within, if_pos (by omega)]
        · have length : (left ++ before ++ [59]).length = left.length + before.length + 1 := by
            rw [List.length_append, List.length_append]
            rfl
          have ahead : (59 == 59 && cursor - (left.length + before.length) == 0) = false := by
            rw [beq_self_eq_true, Bool.true_and, beq_eq_false_iff_ne]
            omega
          have one : cursor - (left.length + before.length) - (rest.length + 1 - rest.length) =
              cursor - ((left ++ before ++ [59]).length + ([] : List Nat).length) := by
            rw [length, List.length_nil]
            omega
          have read : (stretch false false 59 rest).after = rest := rfl
          rw [ahead, Bool.false_or, read, one] at agreed
          have later := ih rest.length (by simp) (by rw [length]; omega) false agreed rfl
          rw [prepend_nil, length, List.length_nil] at later
          rw [if_neg within, if_neg (by omega), moved]
          rw [show cursor - left.length - (before.length + 1) = cursor - (left.length + before.length + 1) by omega]
          exact later
      · obtain ⟨text, whole⟩ := stretch_whole false false unit rest
        have taken : rest.length + 1 - (stretch false false unit rest).after.length = text.length := by
          have lengths := congrArg List.length whole
          rw [List.length_cons, List.length_append] at lengths
          omega
        have shorter := (stretch_suffix false false unit rest).length_le
        have apart : (unit == 59) = false := beq_eq_false_iff_ne.mpr separator
        have further : cursor - (left.length + before.length) - text.length =
            cursor - (left.length + (before ++ text).length) := by
          rw [List.length_append]
          omega
        rw [apart, Bool.false_and, Bool.false_or, taken, further] at agreed
        have later := ih (stretch false false unit rest).after.length (by rw [List.length_cons]; omega) behind
          (code || ((stretch false false unit rest).role == .code)) agreed rfl
        rw [statements_stretch (stretch_outside unit rest) (stretch_stays separator) whole, prepend_prepend, ← later,
          scan_stretch alike separator, taken, List.length_append, Nat.add_assoc, whole, List.append_assoc]

/-- Without a selection, the editor runs the trimmed statement that holds the cursor, as long
as no stretch up to the end of that statement is disputed. -/
theorem sqlToExecute_statementAt (sql : List Nat) (cursorOffset : Int) (agreed : undisputed (clamp sql cursorOffset) sql = true) :
    sqlToExecute sql none cursorOffset = trim (statementAt (clamp sql cursorOffset) (statements false false sql)) := by
  have found := @scan_statementAt (clamp sql cursorOffset) [] [] sql (Nat.zero_le _) false agreed
  rw [prepend_nil] at found
  exact found

theorem sqlToExecute_statementAt_commented :
    undisputed (clamp (units "SELECT `a;`, 'it\\'s;' -- x;\r\n; SELECT 2") 40) (units "SELECT `a;`, 'it\\'s;' -- x;\r\n; SELECT 2") = true ∧
      sqlToExecute (units "SELECT `a;`, 'it\\'s;' -- x;\r\n; SELECT 2") none 40 =
        trim (statementAt (clamp (units "SELECT `a;`, 'it\\'s;' -- x;\r\n; SELECT 2") 40)
          (statements false false (units "SELECT `a;`, 'it\\'s;' -- x;\r\n; SELECT 2"))) := by
  have agreed : undisputed (clamp (units "SELECT `a;`, 'it\\'s;' -- x;\r\n; SELECT 2") 40)
      (units "SELECT `a;`, 'it\\'s;' -- x;\r\n; SELECT 2") = true := by decide +kernel
  exact ⟨agreed, sqlToExecute_statementAt _ 40 agreed⟩

/-- A backslash keeps a quoted identifier open, a carriage return ends a comment, and a
no-break space begins one. -/
theorem sqlToExecute_misread :
    sqlToExecute (units "`\\`;x") none 0 ≠ trim (statementAt (clamp (units "`\\`;x") 0) (statements false false (units "`\\`;x"))) ∧
      sqlToExecute (units "#\r;x") none 0 ≠ trim (statementAt (clamp (units "#\r;x") 0) (statements false false (units "#\r;x"))) ∧
      sqlToExecute [45, 45, 160, 59, 120] none 0 ≠
        trim (statementAt (clamp [45, 45, 160, 59, 120] 0) (statements false false [45, 45, 160, 59, 120])) := by
  decide +kernel

end Pipa.SqlSelection
