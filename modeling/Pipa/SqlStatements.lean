import Pipa.Text

/-! Choosing the statement that a query editor runs. Editor text is a list of UTF-16 units. -/

namespace Pipa

structure SqlSelection where
  start : Nat
  stop : Nat
deriving DecidableEq, Repr

namespace SqlSelection
open EditorText

inductive ScannerState where
  | normal
  | singleQuote
  | doubleQuote
  | backtick
  | lineComment
  | blockComment
deriving DecidableEq, Repr

/-- The end of the text is not enough. -/
def isMySqlDashCommentFollower (character : Option Nat) : Bool :=
  character.any fun unit => isWhitespace unit || unit ≤ 0x1F || unit == 0x7F

def quoteOf (state : ScannerState) : Nat :=
  if state = .singleQuote then 39 else if state = .doubleQuote then 34 else 96

section
variable (sql : List Nat) (cursor : Nat)

/-- The loop at an index, with the text from there on. -/
def scanFrom (statementStart : Nat) (state : ScannerState) (index : Nat) : List Nat → List Nat
  | [] => trim (sql.drop statementStart)
  | character :: rest =>
    if state = .lineComment then
      scanFrom statementStart (if character = 10 ∨ character = 13 then .normal else .lineComment) (index + 1) rest
    else if state = .blockComment then
      if character = 42 ∧ rest.head? = some 47 then scanFrom statementStart .normal (index + 2) rest.tail
      else scanFrom statementStart .blockComment (index + 1) rest
    else if state ≠ .normal then
      if character = 92 then scanFrom statementStart state (index + 2) rest.tail
      else if character = quoteOf state ∧ rest.head? = some (quoteOf state) then
        scanFrom statementStart state (index + 2) rest.tail
      else if character = quoteOf state then scanFrom statementStart .normal (index + 1) rest
      else scanFrom statementStart state (index + 1) rest
    else if character = 39 then scanFrom statementStart .singleQuote (index + 1) rest
    else if character = 34 then scanFrom statementStart .doubleQuote (index + 1) rest
    else if character = 96 then scanFrom statementStart .backtick (index + 1) rest
    else if character = 35 then scanFrom statementStart .lineComment (index + 1) rest
    else if character = 45 ∧ rest.head? = some 45 ∧ isMySqlDashCommentFollower rest.tail.head? = true then
      scanFrom statementStart .lineComment (index + 2) rest.tail
    else if character = 47 ∧ rest.head? = some 42 then scanFrom statementStart .blockComment (index + 2) rest.tail
    else if character = 59 then
      if cursor ≤ index then trim (slice sql statementStart index)
      else scanFrom (index + 1) .normal (index + 1) rest
    else scanFrom statementStart .normal (index + 1) rest
termination_by text => text.length
decreasing_by all_goals simp only [List.length_cons, List.length_tail]; omega

end

/-- The offset is brought into the text. -/
def clamp (sql : List Nat) (cursorOffset : Int) : Nat := (max 0 (min cursorOffset (max 0 ((sql.length : Int) - 1)))).toNat

def sqlToExecute (sql : List Nat) (selection : Option SqlSelection) (cursorOffset : Int) : List Nat :=
  let selectedSql := trim ((selection.map fun range => slice sql range.start range.stop).getD [])
  if selectedSql ≠ [] then selectedSql else scanFrom sql (clamp sql cursorOffset) 0 .normal 0 sql

end SqlSelection

end Pipa

/-! Counting the statements of a proposal, for the card on which the user approves it. -/

namespace Pipa.SqlReview
open EditorText

/-- What follows a quoted run, given what follows its opening quote. -/
def skipQuoted (quote : Nat) : List Nat → List Nat
  | [] => []
  | character :: rest =>
    if character = 92 then skipQuoted quote rest.tail
    else if character = quote then if rest.head? = some quote then skipQuoted quote rest.tail else rest
    else skipQuoted quote rest
termination_by text => text.length
decreasing_by all_goals simp only [List.length_cons, List.length_tail]; omega

/-- What follows the next terminator. -/
def skipTo (terminator : List Nat) : List Nat → List Nat
  | [] => []
  | character :: rest =>
    if terminator.isPrefixOf (character :: rest) then (character :: rest).drop terminator.length
    else skipTo terminator rest

theorem skipQuoted_length (quote : Nat) (text : List Nat) : (skipQuoted quote text).length ≤ text.length := by
  fun_induction skipQuoted quote text with
  | case1 => exact Nat.le_refl 0
  | case2 rest ih => exact ih.trans ((List.tail_suffix rest).length_le.trans (Nat.le_succ _))
  | case3 rest doubled other ih => exact ih.trans ((List.tail_suffix rest).length_le.trans (Nat.le_succ _))
  | case4 rest => exact Nat.le_succ _
  | case5 character rest escape other ih => exact Nat.le_succ_of_le ih

theorem skipTo_length (terminator text : List Nat) : (skipTo terminator text).length ≤ text.length := by
  induction text with
  | nil => exact Nat.le_refl 0
  | cons character rest ih =>
    rw [skipTo]
    split
    · exact (List.drop_suffix _ _).length_le
    · exact Nat.le_succ_of_le ih

theorem skipTo_shorter {terminator : List Nat} (some : 0 < terminator.length) (character : Nat) (rest : List Nat) :
    (skipTo terminator (character :: rest)).length < (character :: rest).length := by
  rw [skipTo]
  split
  · rw [List.length_drop, List.length_cons]
    omega
  · exact Nat.lt_succ_of_le (skipTo_length terminator rest)

/-- The loop at an index, with the text from there on. -/
def countFrom (statements : Nat) (hasContent : Bool) : List Nat → Nat
  | [] => if hasContent then statements + 1 else max statements 0
  | character :: rest =>
    if character = 39 ∨ character = 34 ∨ character = 96 then countFrom statements true (skipQuoted character rest)
    else if character = 45 ∧ rest.head? = some 45 then countFrom statements hasContent (skipTo [10] (character :: rest))
    else if character = 35 then countFrom statements hasContent (skipTo [10] (character :: rest))
    else if character = 47 ∧ rest.head? = some 42 then countFrom statements hasContent (skipTo [42, 47] rest.tail)
    else if character = 59 then
      if hasContent then countFrom (statements + 1) false rest else countFrom statements hasContent rest
    else countFrom statements (if trim [character] ≠ [] then true else hasContent) rest
termination_by text => text.length
decreasing_by
  · exact Nat.lt_succ_of_le (skipQuoted_length character rest)
  · exact skipTo_shorter (by decide) character rest
  · exact skipTo_shorter (by decide) character rest
  · exact Nat.lt_succ_of_le ((skipTo_length [42, 47] rest.tail).trans (List.tail_suffix rest).length_le)
  all_goals exact Nat.lt_succ_self _

def countSqlStatements (sql : List Nat) : Nat := countFrom 0 false sql

end Pipa.SqlReview
