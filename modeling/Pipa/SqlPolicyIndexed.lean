import Pipa.Library.Checked
import Pipa.SqlPolicy

/-! The policy as it walks the bytes of a text by index, with every read, slice, sum and
difference that can panic; an index further on is summed up before it is asked for. Loops
may take one round for each byte, and one to end. -/

namespace Pipa.SqlPolicy.Indexed
open Checked

def usizeMax : Nat := 18446744073709551615

/-- An index moved on. -/
def advance (index count : Nat) : Checked Nat := add usizeMax index count

/-- `str::is_char_boundary` -/
def isCharBoundary (bytes : List Nat) (index : Nat) : Bool :=
  index == 0 || (if bytes.length ≤ index then index == bytes.length else bytes[index]?.any fun byte => byte < 128 || 192 ≤ byte)

/-- `&sql[start..stop]` -/
def slice (bytes : List Nat) (start stop : Nat) : Checked (List Nat) :=
  if start ≤ stop ∧ stop ≤ bytes.length then
    if isCharBoundary bytes start && isCharBoundary bytes stop then .ok ((bytes.take stop).drop start) else .error .boundary
  else .error .bounds

/-! ### The lexer -/

section Lexer
variable (bytes : List Nat)

def consumeQuotedRound (quote : Nat) (backslashEscapes : Bool) (index : Nat) : Checked (Nat ⊕ Option Nat) :=
  if index < bytes.length then do
    let byte ← read bytes index
    let next ← advance index 1
    if backslashEscapes && byte == 92 then
      if bytes.length ≤ next then return .inr none
      else return .inl (← advance index 2)
    else if byte = quote then
      if bytes[next]? = some quote then return .inl (← advance index 2)
      else return .inr (some next)
    else return .inl next
  else return .inr none

/-- The index behind a quoted literal or identifier. -/
def consumeQuoted (index quote : Nat) (backslashEscapes : Bool) : Checked (Option Nat) := do
  loop (consumeQuotedRound bytes quote backslashEscapes) (bytes.length + 1) (← advance index 1)

def consumeLineCommentRound (index : Nat) : Checked (Nat ⊕ Nat) :=
  if index < bytes.length then do
    let byte ← read bytes index
    if byte ≠ 10 then return .inl (← advance index 1) else return .inr index
  else return .inr index

def consumeLineComment (index : Nat) : Checked Nat := loop (consumeLineCommentRound bytes) (bytes.length + 1) index

def isExecutableComment (index : Nat) : Checked Bool := do
  let mark ← advance index 2
  let second ← advance index 3
  return bytes[mark]? == some 33 || (bytes[mark]?.any fun byte => byte == 77 || byte == 109) && bytes[second]? == some 33

def consumeBlockCommentRound (index : Nat) : Checked (Nat ⊕ Option Nat) := do
  let next ← advance index 1
  if next < bytes.length then
    let byte ← read bytes index
    let second ← read bytes next
    if byte = 42 ∧ second = 47 then return .inr (some (← advance index 2)) else return .inl next
  else return .inr none

def consumeBlockComment (index : Nat) : Checked (Option Nat) := loop (consumeBlockCommentRound bytes) (bytes.length + 1) index

def wordEndRound (index : Nat) : Checked (Nat ⊕ Nat) :=
  if index < bytes.length then do
    let byte ← read bytes index
    if isWordByte byte then return .inl (← advance index 1) else return .inr index
  else return .inr index

/-- The index behind a word that goes on at an index. -/
def wordEnd (index : Nat) : Checked Nat := loop (wordEndRound bytes) (bytes.length + 1) index

/-- What a round of the lexer leaves: the index and the tokens so far, or its result. -/
abbrev Lexed := (Nat × List SqlToken) ⊕ Option (List SqlToken)

/-- The loop goes on behind what was consumed, or fails. -/
def behind (tokens : List SqlToken) : Option Nat → Lexed
  | some index => .inl (index, tokens)
  | none => .inr none

def lexRound (backslashEscapes : Bool) (state : Nat × List SqlToken) : Checked Lexed :=
  let (index, tokens) := state
  if index < bytes.length then do
    let byte ← read bytes index
    let next ← advance index 1
    let second ← advance index 2
    if isAsciiWhitespace byte then return .inl (next, tokens)
    else if byte = 39 ∨ byte = 34 then
      return behind (tokens ++ [.atom]) (← consumeQuoted bytes index byte backslashEscapes)
    else if byte = 96 then return behind (tokens ++ [.atom]) (← consumeQuoted bytes index 96 false)
    else if byte = 35 then return .inl (← consumeLineComment bytes next, tokens)
    else if byte = 45 ∧ bytes[next]? = some 45 ∧
        (bytes[second]?.any fun next => isAsciiWhitespace next || isAsciiControl next) = true then
      return .inl (← consumeLineComment bytes second, tokens)
    else if byte = 47 ∧ bytes[next]? = some 42 then
      if ← isExecutableComment bytes index then return .inr none
      else return behind tokens (← consumeBlockComment bytes second)
    else if byte = 40 then return .inl (next, tokens ++ [.openParen])
    else if byte = 41 then return .inl (next, tokens ++ [.closeParen])
    else if byte = 59 then return .inl (next, tokens ++ [.semicolon])
    else if isAsciiAlphabetic byte || byte == 95 then
      let stop ← wordEnd bytes next
      let text ← slice bytes index stop
      return .inl (stop, tokens ++ [.word (text.map toAsciiUppercase)])
    else if isAsciiPunctuation byte then return .inl (next, tokens ++ [.symbol byte])
    else return .inl (next, tokens)
  else return .inr (some tokens)

def lexMysql (backslashEscapes : Bool) : Checked (Option (List SqlToken)) :=
  loop (lexRound bytes backslashEscapes) (bytes.length + 1) (0, [])

def lexConsistently : Checked (Option (List SqlToken)) := do
  match ← lexMysql bytes true with
  | none => return none
  | some escaped =>
    match ← lexMysql bytes false with
    | none => return none
    | some literalBackslashes => return if escaped = literalBackslashes then some escaped else none

def containsDangerousSqlKeyword : Checked Bool := do
  match ← lexConsistently bytes with
  | none => return true
  | some tokens => return isDangerousFrom none (List.intercalate [32] (wordsOf tokens))

end Lexer

/-! ### Classification -/

/-- The indices of the semicolons. -/
def semicolons (tokens : List SqlToken) : List Nat :=
  tokens.zipIdx.filterMap fun (token, index) => if token = .semicolon then some index else none

def singleStatement (tokens : List SqlToken) : Checked (Option (List SqlToken)) :=
  match semicolons tokens with
  | [] => return some tokens
  | [index] => do
    if (← advance index 1) = tokens.length then return some (← front tokens index) else return none
  | _ => return none

def balancedFrom (depth : Nat) : List SqlToken → Checked Bool
  | [] => return depth == 0
  | .openParen :: rest => balancedFrom (min (depth + 1) depthLimit) rest
  | .closeParen :: rest => do
    if depth = 0 then return false else balancedFrom (← sub depth 1) rest
  | _ :: rest => balancedFrom depth rest

def parenthesesAreBalanced (tokens : List SqlToken) : Checked Bool := balancedFrom 0 tokens

/-- The loop over the tokens from an index on. -/
def classifyWithFrom (tokens : List SqlToken) (index depth : Nat) : List SqlToken → Checked SqlRisk
  | [] => return .unknown
  | .openParen :: rest => do classifyWithFrom tokens (index + 1) (← add depthLimit depth 1) rest
  | .closeParen :: rest => do classifyWithFrom tokens (index + 1) (← sub depth 1) rest
  | .word text :: rest => do
    if depth = 0 ∧ isWord ["SELECT"] (some (.word text)) = true then return classifySelect (← suffix tokens index)
    else if depth = 0 ∧ isWord writeVerbs (some (.word text)) = true then return .writeData
    else classifyWithFrom tokens (index + 1) depth rest
  | _ :: rest => classifyWithFrom tokens (index + 1) depth rest

def classifyWith (tokens : List SqlToken) : Checked SqlRisk := classifyWithFrom tokens 1 0 (tokens.drop 1)

/-- The index behind the sign of FORMAT, where it has one. -/
def skipSign (body : List SqlToken) (index : Nat) : Checked Nat :=
  if body[index]? = some (.symbol 61) then advance index 1 else return index

/-- The index behind the format. -/
def skipFormat (body : List SqlToken) (index : Nat) : Checked Nat :=
  match body[index]? with
  | some (.word _) | some .atom => advance index 1
  | _ => return index

/-- One round over ANALYZE and FORMAT prefixes. -/
def explainRound (body : List SqlToken) (index : Nat) : Checked (Nat ⊕ Nat) := do
  if isWord ["ANALYZE"] body[index]? then return .inl (← advance index 1)
  else if isWord ["FORMAT"] body[index]? then return .inl (← skipFormat body (← skipSign body (← advance index 1)))
  else return .inr index

def classifyExplainBody (body : List SqlToken) : Checked SqlRisk := do
  let index ← loop (explainRound body) (body.length + 1) 0
  let remaining ← suffix body index
  let first := remaining.head?
  if isWord ["SELECT"] first then return classifySelect remaining
  else if isWord ["SHOW", "DESCRIBE", "DESC", "TABLE"] first then return .read
  else if isWord ["WITH"] first then classifyWith remaining
  else if isWord writeVerbs first then return .writeData
  else if isWord ["FOR"] first && isWord ["CONNECTION"] remaining[1]? then return .read
  else if isWord explainedSchemaVerbs first then return .schemaChange
  else return .unknown

def classifyDescribe (body : List SqlToken) : Checked SqlRisk :=
  if isWord ["ANALYZE", "FORMAT", "SELECT", "WITH", "INSERT", "UPDATE", "DELETE", "REPLACE", "MERGE", "FOR"] body.head?
  then classifyExplainBody body
  else if body.isEmpty then return .unknown
  else return .read

def classifyStatement (tokens : List SqlToken) : Checked SqlRisk := do
  let first := tokens.head?
  if isWord ["SELECT"] first then return classifySelect tokens
  else if isWord ["SHOW"] first then return .read
  else if isWord ["DESCRIBE", "DESC"] first then classifyDescribe (← suffix tokens 1)
  else if isWord ["EXPLAIN"] first then classifyExplainBody (← suffix tokens 1)
  else if isWord ["WITH"] first then classifyWith tokens
  else if isWord writeVerbs first then return .writeData
  else if isWord schemaVerbs first then return .schemaChange
  else return .unknown

/-- Classifies SQL for guarded execution, failing closed. -/
def classifySql (bytes : List Nat) : Checked SqlRisk := do
  match ← lexConsistently bytes with
  | none => return .unknown
  | some tokens =>
    match ← singleStatement tokens with
    | none => return .unknown
    | some statement =>
      if statement.isEmpty then return .unknown
      else if ← parenthesesAreBalanced statement then classifyStatement statement
      else return .unknown

/-- Whether an MCP-sourced request may proceed to the database adapter. -/
def mcpMayExecute (bytes : List Nat) : Checked (Except SqlRisk Unit) := do
  let risk ← classifySql bytes
  if ← containsDangerousSqlKeyword bytes then return .error (if risk = .read then .unknown else risk)
  else if !allowsMcpAutoExecute risk then return .error risk
  else return .ok ()

end Pipa.SqlPolicy.Indexed
