import Pipa.Library.SqlLexer
import Mathlib.Data.List.DropRight

/-! Splitting a MySQL text into statements. A text is read stretch by stretch: whitespace
and comments are blank, a semicolon outside them and outside quotes ends a statement, and
everything else is code. A quote or comment that is left open runs to the end. -/

namespace SqlStatements
open SqlLexer

/-- What a stretch is to the statement it stands in. -/
inductive Role where
  | blank
  | code
  | separator
deriving DecidableEq, Repr

structure Stretch where
  role : Role
  /-- Whether the text behind it stands inside an executable comment. -/
  inside : Bool
  after : List Nat
deriving DecidableEq, Repr

theorem Stretch.shape {read : Stretch} {inside : Bool} {after : List Nat} (stands : read.inside = inside)
    (leaves : read.after = after) : read = ⟨read.role, inside, after⟩ := by
  subst stands leaves
  rfl

structure Statement where
  text : List Nat
  /-- Something in it is neither whitespace nor a comment. -/
  code : Bool
deriving DecidableEq, Repr

def behindQuote (escapes : Bool) (quote : Nat) (rest : List Nat) : List Nat :=
  ((closeQuote escapes quote rest).map Prod.snd).getD []

def behindComment (rest : List Nat) : List Nat := (closeComment rest).getD []

def startsComment (unit : Nat) (rest : List Nat) : Bool := unit == 47 && rest.head? == some 42

def startsExecutable (unit : Nat) (rest : List Nat) : Bool := startsComment unit rest && rest.tail.head? == some 33

/-- An executable comment may name the version it is for, with five or six digits. -/
def behindVersion (rest : List Nat) : List Nat :=
  if (rest.take 6).length = 6 ∧ (rest.take 6).all isDigit = true then rest.drop 6
  else if (rest.take 5).length = 5 ∧ (rest.take 5).all isDigit = true then rest.drop 5
  else rest

/-- The first stretch of a text. Where `executable` is not set, an executable comment is
a comment like any other. -/
def stretch (executable inside : Bool) (unit : Nat) (rest : List Nat) : Stretch :=
  if isSpace unit then ⟨.blank, inside, rest⟩
  else if unit = 39 ∨ unit = 34 then ⟨.code, inside, behindQuote true unit rest⟩
  else if unit = 96 then ⟨.code, inside, behindQuote false unit rest⟩
  else if unit = 35 ∨ startsLineComment unit rest = true then ⟨.blank, inside, skipLine rest⟩
  else if executable && startsExecutable unit rest then ⟨.blank, true, behindVersion rest.tail.tail⟩
  else if startsComment unit rest then ⟨.blank, inside, behindComment rest.tail⟩
  else if inside = true ∧ unit = 42 ∧ rest.head? = some 47 then ⟨.blank, false, rest.tail⟩
  else if unit = 59 then ⟨.separator, false, rest⟩
  else ⟨.code, inside, rest⟩

theorem closeQuote_append {escapes : Bool} {quote : Nat} {text body after : List Nat}
    (closed : closeQuote escapes quote text = some (body, after)) : body ++ after = text := by
  induction text using closeQuote.induct escapes quote generalizing body after with
  | case1 => cases closed
  | case2 =>
    simp only [closeQuote, if_true, Option.some.injEq, Prod.mk.injEq] at closed
    obtain ⟨rfl, rfl⟩ := closed
    rfl
  | case3 unit other =>
    rw [closeQuote, if_neg other] at closed
    cases closed
  | case4 unit next rest kept ih =>
    rw [closeQuote, if_pos kept] at closed
    obtain ⟨⟨inner, behind⟩, found, same⟩ := Option.map_eq_some_iff.mp closed
    obtain ⟨rfl, rfl⟩ := Prod.mk.inj same
    rw [List.cons_append, List.cons_append, ih found]
  | case5 next rest kept =>
    rw [closeQuote, if_neg kept, if_pos rfl] at closed
    obtain ⟨rfl, rfl⟩ := Prod.mk.inj (Option.some.inj closed)
    rfl
  | case6 unit next rest kept other ih =>
    rw [closeQuote, if_neg kept, if_neg other] at closed
    obtain ⟨⟨inner, behind⟩, found, same⟩ := Option.map_eq_some_iff.mp closed
    obtain ⟨rfl, rfl⟩ := Prod.mk.inj same
    rw [List.cons_append, ih found]

theorem closeComment_suffix {text after : List Nat} (closed : closeComment text = some after) : after <:+ text := by
  induction text with
  | nil => cases closed
  | cons unit rest ih =>
    rw [closeComment] at closed
    split at closed
    · obtain rfl := Option.some.inj closed
      exact (List.tail_suffix rest).trans (List.suffix_cons unit rest)
    · exact (ih closed).trans (List.suffix_cons unit rest)

section Quotes
variable {escapes : Bool} {quote unit next : Nat} {rest : List Nat}

@[simp]
theorem behindQuote_nil : behindQuote escapes quote [] = [] := rfl

@[simp]
theorem behindQuote_last : behindQuote escapes quote [unit] = [] := by
  rw [behindQuote, closeQuote]
  split <;> rfl

theorem behindQuote_kept (kept : (escapes && unit == 92 || unit == quote && next == quote) = true) :
    behindQuote escapes quote (unit :: next :: rest) = behindQuote escapes quote rest := by
  rw [behindQuote, closeQuote, if_pos kept, Option.map_map]
  rfl

theorem behindQuote_closed (single : ¬(escapes && unit == 92 || unit == quote && next == quote) = true) (same : unit = quote) :
    behindQuote escapes quote (unit :: next :: rest) = next :: rest := by
  rw [behindQuote, closeQuote, if_neg single, if_pos same]
  rfl

theorem behindQuote_other (single : ¬(escapes && unit == 92 || unit == quote && next == quote) = true) (other : unit ≠ quote) :
    behindQuote escapes quote (unit :: next :: rest) = behindQuote escapes quote (next :: rest) := by
  rw [behindQuote, closeQuote, if_neg single, if_neg other, Option.map_map]
  rfl

end Quotes

theorem skipLine_ends (text : List Nat) : ∀ next ∈ (skipLine text).head?, next = 10 := by
  intro next present
  have stopped := List.head?_dropWhile_not (· != 10) text
  rw [skipLine, Option.mem_def] at present
  rw [present] at stopped
  simpa using stopped

theorem behindQuote_suffix (escapes : Bool) (quote : Nat) (rest : List Nat) : behindQuote escapes quote rest <:+ rest := by
  rw [behindQuote]
  cases closed : closeQuote escapes quote rest with
  | none => exact List.nil_suffix
  | some found => exact ⟨found.1, closeQuote_append closed⟩

theorem behindComment_suffix (rest : List Nat) : behindComment rest <:+ rest := by
  rw [behindComment]
  cases closed : closeComment rest with
  | none => exact List.nil_suffix
  | some after => exact closeComment_suffix closed

theorem behindVersion_suffix (rest : List Nat) : behindVersion rest <:+ rest := by
  rw [behindVersion]
  split
  · exact List.drop_suffix 6 rest
  split
  · exact List.drop_suffix 5 rest
  · exact List.suffix_refl rest

/-- A stretch takes at least the unit it begins with, and leaves what stands behind it. -/
theorem stretch_suffix (executable inside : Bool) (unit : Nat) (rest : List Nat) :
    (stretch executable inside unit rest).after <:+ rest := by
  have tail := List.tail_suffix rest
  rw [stretch]
  split
  · exact List.suffix_refl rest
  split
  · exact behindQuote_suffix true unit rest
  split
  · exact behindQuote_suffix false unit rest
  split
  · exact List.dropWhile_suffix _
  split
  · exact (behindVersion_suffix _).trans ((List.tail_suffix _).trans tail)
  split
  · exact (behindComment_suffix _).trans tail
  split
  · exact tail
  split <;> exact List.suffix_refl rest

/-- Puts a stretch in front of the first statement. -/
def prepend (text : List Nat) (code : Bool) : List Statement → List Statement
  | [] => []
  | statement :: statements => ⟨text ++ statement.text, code || statement.code⟩ :: statements

/-- The statements of a text; the last one has no separator behind it. -/
def statements (executable inside : Bool) : List Nat → List Statement
  | [] => [⟨[], false⟩]
  | unit :: rest =>
    let read := stretch executable inside unit rest
    let later := statements executable read.inside read.after
    if read.role = .separator then ⟨[], false⟩ :: later
    else prepend ((unit :: rest).take (rest.length + 1 - read.after.length)) (read.role == .code) later
termination_by text => text.length
decreasing_by exact Nat.lt_succ_of_le (stretch_suffix executable inside unit rest).length_le

/-- The statement that an offset stands in; right at a separator it is the one that ends there. -/
def statementAt (offset : Nat) : List Statement → List Nat
  | [] => []
  | [statement] => statement.text
  | statement :: next :: statements =>
    if offset ≤ statement.text.length then statement.text
    else statementAt (offset - (statement.text.length + 1)) (next :: statements)

/-- How many statements there are something to run for. -/
def runs (statements : List Statement) : Nat := statements.countP Statement.code

theorem prepend_prepend (before text : List Nat) (code code' : Bool) (statements : List Statement) :
    prepend before code (prepend text code' statements) = prepend (before ++ text) (code || code') statements := by
  cases statements with
  | nil => rfl
  | cons statement statements => simp only [prepend, List.append_assoc, Bool.or_assoc]

@[simp]
theorem prepend_nil (statements : List Statement) : prepend [] false statements = statements := by
  cases statements <;> rfl

theorem prepend_ne_nil {text : List Nat} {code : Bool} {statements : List Statement} (present : statements ≠ []) :
    prepend text code statements ≠ [] := by
  cases statements with
  | nil => exact absurd rfl present
  | cons => exact List.cons_ne_nil _ _

section Statements
variable {executable inside inside' : Bool} {unit : Nat} {rest after : List Nat}

theorem statements_separator (read : stretch executable inside unit rest = ⟨.separator, inside', after⟩) :
    statements executable inside (unit :: rest) = ⟨[], false⟩ :: statements executable inside' after := by
  rw [statements, read]
  exact if_pos rfl

theorem statements_stretch {role : Role} {text : List Nat} (read : stretch executable inside unit rest = ⟨role, inside', after⟩)
    (stays : role ≠ .separator) (whole : unit :: rest = text ++ after) :
    statements executable inside (unit :: rest) = prepend text (role == .code) (statements executable inside' after) := by
  have taken : (unit :: rest).take (rest.length + 1 - after.length) = text := by
    have lengths := congrArg List.length whole
    simp only [List.length_cons, List.length_append] at lengths
    rw [whole, lengths, Nat.add_sub_cancel, List.take_left]
  rw [statements, read]
  dsimp only
  rw [if_neg stays, taken]

/-- Only a semicolon separates. -/
theorem stretch_stays (other : unit ≠ 59) : (stretch executable inside unit rest).role ≠ .separator := by
  rw [stretch]
  (repeat' split) <;> first | contradiction | exact fun same => nomatch same

/-- A text is its first stretch and what stands behind it. -/
theorem stretch_whole (executable inside : Bool) (unit : Nat) (rest : List Nat) :
    ∃ text, unit :: rest = text ++ (stretch executable inside unit rest).after := by
  obtain ⟨skipped, same⟩ := stretch_suffix executable inside unit rest
  exact ⟨unit :: skipped, by rw [List.cons_append, same]⟩

/-- Where executable comments are comments, no stretch stands inside one. -/
theorem stretch_outside (unit : Nat) (rest : List Nat) :
    stretch false false unit rest = ⟨(stretch false false unit rest).role, false, (stretch false false unit rest).after⟩ := by
  refine Stretch.shape ?_ rfl
  rw [stretch]
  (repeat' split) <;> first | rfl | contradiction

theorem statements_ne_nil (executable inside : Bool) (text : List Nat) : statements executable inside text ≠ [] := by
  induction inside, text using statements.induct executable with
  | case1 inside =>
    rw [statements]
    exact List.cons_ne_nil _ _
  | case2 inside unit rest read separates ih =>
    rw [statements, if_pos separates]
    exact List.cons_ne_nil _ _
  | case3 inside unit rest read stays ih =>
    rw [statements, if_neg stays]
    exact prepend_ne_nil ih

theorem statementAt_cons {offset : Nat} {statement : Statement} {statements : List Statement} (more : statements ≠ []) :
    statementAt offset (statement :: statements) =
      if offset ≤ statement.text.length then statement.text
      else statementAt (offset - (statement.text.length + 1)) statements := by
  cases statements with
  | nil => exact absurd rfl more
  | cons => rfl

end Statements

end SqlStatements
