import Pipa.Library.Scanner

/-! SQL risk classification used by MCP and other guarded execution paths. The lexer
works on the bytes of a statement. -/

namespace Pipa

/-- Risk class of one SQL statement for policy gating. -/
inductive SqlRisk where
  | read | writeData | schemaChange | unknown
deriving DecidableEq, Repr

namespace SqlPolicy

/-- What the regular expression denies as whole words, besides `FOR SHARE`. -/
def dangerousSqlKeywords : List String :=
  ["ALTER", "ANALYZE", "BACKUP", "BEGIN", "BINLOG", "CACHE", "CALL", "CHANGE", "CHECK", "CHECKSUM", "CLONE",
    "COMMIT", "CREATE", "DEALLOCATE", "DECLARE", "DELETE", "DO", "DROP", "EXEC", "EXECUTE", "FLUSH", "GRANT",
    "HANDLER", "IMPORT", "INSERT", "INSTALL", "KILL", "LOAD", "LOCK", "MERGE", "OPTIMIZE", "PREPARE",
    "PURGE", "RELEASE", "RENAME", "REPAIR", "REPLACE", "RESET", "RESTART", "RESTORE", "RESIGNAL",
    "REVOKE", "ROLLBACK", "SAVEPOINT", "SET", "SHUTDOWN", "SIGNAL", "START", "STOP", "TRUNCATE",
    "UNINSTALL", "UNLOCK",
    "UPDATE", "UPSERT", "USE", "XA",
    "OUTFILE", "DUMPFILE", "INFILE", "LOAD_FILE",
    "GET_LOCK", "RELEASE_LOCK", "RELEASE_ALL_LOCKS",
    "SLEEP", "BENCHMARK", "MASTER_POS_WAIT", "SOURCE_POS_WAIT", "WAIT_FOR_EXECUTED_GTID_SET"]

/-- Tokens for conservative statement classification. -/
inductive SqlToken where
  /-- Unquoted ASCII word normalized to uppercase, as its bytes. -/
  | word (text : List Nat)
  /-- String literal or quoted identifier. -/
  | atom
  | openParen
  | closeParen
  | semicolon
  /-- Other ASCII punctuation. -/
  | symbol (byte : Nat)
deriving DecidableEq, Repr

def ascii (text : String) : List Nat := text.toList.map Char.toNat

def isAsciiWhitespace (byte : Nat) : Bool := byte == 32 || byte == 9 || byte == 10 || byte == 12 || byte == 13

def isAsciiControl (byte : Nat) : Bool := byte < 32 || byte == 127

def isAsciiAlphabetic (byte : Nat) : Bool := (65 ≤ byte && byte ≤ 90) || (97 ≤ byte && byte ≤ 122)

def isAsciiDigit (byte : Nat) : Bool := 48 ≤ byte && byte ≤ 57

def isAsciiPunctuation (byte : Nat) : Bool :=
  (33 ≤ byte && byte ≤ 47) || (58 ≤ byte && byte ≤ 64) || (91 ≤ byte && byte ≤ 96) || (123 ≤ byte && byte ≤ 126)

def toAsciiUppercase (byte : Nat) : Nat := if 97 ≤ byte ∧ byte ≤ 122 then byte - 32 else byte

/-- What a word may go on with. -/
def isWordByte (byte : Nat) : Bool :=
  isAsciiAlphabetic byte || isAsciiDigit byte || byte == 95 || byte == 36

/-- What follows a quoted literal or identifier whose opening quote has been read. -/
def consumeQuoted (quote : Nat) (backslashEscapes : Bool) : List Nat → Option (List Nat)
  | [] => none
  | [byte] => if (backslashEscapes && byte == 92) = true then none else if byte = quote then some [] else none
  | byte :: next :: rest =>
    if (backslashEscapes && byte == 92) = true then consumeQuoted quote backslashEscapes rest
    else if byte = quote then
      if next = quote then consumeQuoted quote backslashEscapes rest else some (next :: rest)
    else consumeQuoted quote backslashEscapes (next :: rest)

/-- Skips a line comment up to its newline. -/
def consumeLineComment : List Nat → List Nat
  | [] => []
  | byte :: rest => if byte = 10 then byte :: rest else consumeLineComment rest

/-- Whether the bytes behind `/*` make the comment executable. -/
def isExecutableComment (rest : List Nat) : Bool :=
  rest.head? == some 33 || (rest.head?.any fun byte => byte == 77 || byte == 109) && rest.tail.head? == some 33

def consumeBlockComment : List Nat → Option (List Nat)
  | [] | [_] => none
  | byte :: next :: rest => if byte = 42 ∧ next = 47 then some rest else consumeBlockComment (next :: rest)

/-- One round of the lexer's loop: the token pushed, if any, and the bytes left. -/
def lexStep (backslashEscapes : Bool) (byte : Nat) (rest : List Nat) : Option (Option SqlToken × List Nat) :=
  if isAsciiWhitespace byte then some (none, rest)
  else if byte = 39 ∨ byte = 34 then (consumeQuoted byte backslashEscapes rest).map (some .atom, ·)
  else if byte = 96 then (consumeQuoted 96 false rest).map (some .atom, ·)
  else if byte = 35 then some (none, consumeLineComment rest)
  else if byte = 45 ∧ rest.head? = some 45 ∧
      (rest.tail.head?.any fun next => isAsciiWhitespace next || isAsciiControl next) = true then
    some (none, consumeLineComment rest.tail)
  else if byte = 47 ∧ rest.head? = some 42 then
    if isExecutableComment rest.tail then none else (consumeBlockComment rest.tail).map (none, ·)
  else if byte = 40 then some (some .openParen, rest)
  else if byte = 41 then some (some .closeParen, rest)
  else if byte = 59 then some (some .semicolon, rest)
  else if isAsciiAlphabetic byte || byte == 95 then
    some (some (.word ((byte :: rest.takeWhile isWordByte).map toAsciiUppercase)), rest.dropWhile isWordByte)
  else if isAsciiPunctuation byte then some (some (.symbol byte), rest)
  else some (none, rest)

/-- Tokenizes the small MySQL lexical subset needed by the policy. -/
def lexMysql (sql : List Nat) (backslashEscapes : Bool) : Option (List SqlToken) :=
  (Scanner.scan (lexStep backslashEscapes) sql).map List.reduceOption

/-- Tokenizes under both backslash modes and accepts only an identical result. -/
def lexConsistently (sql : List Nat) : Option (List SqlToken) := do
  let escaped ← lexMysql sql true
  let literalBackslashes ← lexMysql sql false
  if escaped = literalBackslashes then some escaped else none

/-! ### The regular expression -/

/-- `\w` on ASCII. -/
def isRegexWord (byte : Nat) : Bool := isAsciiAlphabetic byte || isAsciiDigit byte || byte == 95

/-- The word and a `\b` behind it. -/
def matchesWord (text word : List Nat) : Bool :=
  word.isPrefixOf text && !(text.drop word.length).head?.any isRegexWord

/-- `FOR\s+SHARE\b` -/
def matchesForShare (text : List Nat) : Bool :=
  (ascii "FOR").isPrefixOf text &&
    ((text.drop 3).head?.any isAsciiWhitespace &&
      matchesWord ((text.drop 3).dropWhile isAsciiWhitespace) (ascii "SHARE"))

/-- Either alternative behind a `\b`, at any position. -/
def isDangerousFrom (previous : Option Nat) : List Nat → Bool
  | [] => false
  | byte :: rest =>
    !previous.any isRegexWord &&
        (dangerousSqlKeywords.any (fun keyword => matchesWord (byte :: rest) (ascii keyword)) ||
          matchesForShare (byte :: rest)) ||
      isDangerousFrom (some byte) rest

def wordsOf (tokens : List SqlToken) : List (List Nat) :=
  tokens.filterMap fun token => match token with
    | .word text => some text
    | _ => none

/-- Checks dangerous whole words after removing quoted content and inert comments. -/
def containsDangerousSqlKeyword (sql : List Nat) : Bool :=
  match lexConsistently sql with
  | none => true
  | some tokens => isDangerousFrom none (List.intercalate [32] (wordsOf tokens))

/-! ### Classification -/

/-- The sole statement, permitting one trailing semicolon. -/
def singleStatement (tokens : List SqlToken) : Option (List SqlToken) :=
  if .semicolon ∉ tokens then some tokens
  else if tokens.count .semicolon = 1 ∧ tokens.getLast? = some .semicolon then some tokens.dropLast
  else none

def depthLimit : Nat := 4294967295

/-- The depth behind all tokens, unless a parenthesis closes too much. -/
def finalDepth (depth : Nat) : List SqlToken → Option Nat
  | [] => some depth
  | .openParen :: rest => finalDepth (min (depth + 1) depthLimit) rest
  | .closeParen :: rest => if depth = 0 then none else finalDepth (depth - 1) rest
  | _ :: rest => finalDepth depth rest

def parenthesesAreBalanced (tokens : List SqlToken) : Bool := finalDepth 0 tokens == some 0

/-- Whether a token is one of these words. -/
def isWord (words : List String) : Option SqlToken → Bool
  | some (.word text) => words.any fun word => ascii word == text
  | _ => false

def containsAdjacentWords (first second : String) : List SqlToken → Bool
  | left :: right :: rest =>
    (isWord [first] (some left) && isWord [second] (some right)) || containsAdjacentWords first second (right :: rest)
  | _ => false

def classifySelect (tokens : List SqlToken) : SqlRisk :=
  if containsAdjacentWords "INTO" "OUTFILE" tokens || containsAdjacentWords "INTO" "DUMPFILE" tokens then .schemaChange
  else .read

def writeVerbs : List String := ["INSERT", "UPDATE", "DELETE", "REPLACE", "MERGE"]

/-- The first top-level statement verb behind the WITH. -/
def classifyWithFrom (depth : Nat) : List SqlToken → SqlRisk
  | [] => .unknown
  | .openParen :: rest => classifyWithFrom (depth + 1) rest
  | .closeParen :: rest => classifyWithFrom (depth - 1) rest
  | .word text :: rest =>
    if depth = 0 ∧ isWord ["SELECT"] (some (.word text)) = true then classifySelect (.word text :: rest)
    else if depth = 0 ∧ isWord writeVerbs (some (.word text)) = true then .writeData
    else classifyWithFrom depth rest
  | _ :: rest => classifyWithFrom depth rest

def classifyWith (tokens : List SqlToken) : SqlRisk := classifyWithFrom 0 (tokens.drop 1)

/-- Skips ANALYZE and FORMAT prefixes of an explained statement. -/
def skipExplainOptions : Nat → List SqlToken → List SqlToken
  | 0, body => body
  | fuel + 1, body =>
    if isWord ["ANALYZE"] body.head? then skipExplainOptions fuel body.tail
    else if isWord ["FORMAT"] body.head? then
      let value := if body.tail.head? = some (.symbol 61) then body.tail.tail else body.tail
      skipExplainOptions fuel (match value.head? with
        | some (.word _) | some .atom => value.tail
        | _ => value)
    else body

def explainedSchemaVerbs : List String :=
  ["CREATE", "ALTER", "DROP", "TRUNCATE", "RENAME", "GRANT", "REVOKE", "CALL", "LOAD", "IMPORT", "SET", "ANALYZE",
    "OPTIMIZE", "REPAIR", "CHECK"]

/-- Classifies the statement body following EXPLAIN, DESCRIBE, or DESC. -/
def classifyExplainBody (body : List SqlToken) : SqlRisk :=
  let remaining := skipExplainOptions body.length body
  let first := remaining.head?
  if isWord ["SELECT"] first then classifySelect remaining
  else if isWord ["SHOW", "DESCRIBE", "DESC", "TABLE"] first then .read
  else if isWord ["WITH"] first then classifyWith remaining
  else if isWord writeVerbs first then .writeData
  else if isWord ["FOR"] first && isWord ["CONNECTION"] remaining.tail.head? then .read
  else if isWord explainedSchemaVerbs first then .schemaChange
  else .unknown

/-- Table inspection unless it uses EXPLAIN-style syntax. -/
def classifyDescribe (body : List SqlToken) : SqlRisk :=
  if isWord ["ANALYZE", "FORMAT", "SELECT", "WITH", "INSERT", "UPDATE", "DELETE", "REPLACE", "MERGE", "FOR"] body.head?
  then classifyExplainBody body
  else if body.isEmpty then .unknown
  else .read

def schemaVerbs : List String :=
  ["CREATE", "ALTER", "DROP", "TRUNCATE", "RENAME", "GRANT", "REVOKE", "CALL", "LOAD", "IMPORT", "HANDLER", "LOCK",
    "UNLOCK", "SET", "USE", "START", "BEGIN", "COMMIT", "ROLLBACK", "SAVEPOINT", "RELEASE", "FLUSH", "RESET", "PURGE",
    "ANALYZE", "OPTIMIZE", "REPAIR", "CHECK", "CHECKSUM", "BACKUP", "RESTORE", "KILL", "DO", "EXECUTE", "PREPARE",
    "DEALLOCATE", "XA"]

/-- Classifies one statement by its leading keyword. -/
def classifyStatement (tokens : List SqlToken) : SqlRisk :=
  let first := tokens.head?
  if isWord ["SELECT"] first then classifySelect tokens
  else if isWord ["SHOW"] first then .read
  else if isWord ["DESCRIBE", "DESC"] first then classifyDescribe tokens.tail
  else if isWord ["EXPLAIN"] first then classifyExplainBody tokens.tail
  else if isWord ["WITH"] first then classifyWith tokens
  else if isWord writeVerbs first then .writeData
  else if isWord schemaVerbs first then .schemaChange
  else .unknown

/-- Classifies SQL for guarded execution, failing closed. -/
def classifySql (sql : List Nat) : SqlRisk :=
  match (lexConsistently sql).bind singleStatement with
  | none => .unknown
  | some statement =>
    if statement.isEmpty || !parenthesesAreBalanced statement then .unknown else classifyStatement statement

def allowsMcpAutoExecute (risk : SqlRisk) : Bool := risk == .read

/-- Whether an MCP-sourced request may proceed to the database adapter. -/
def mcpMayExecute (sql : List Nat) : Except SqlRisk Unit :=
  let risk := classifySql sql
  if containsDangerousSqlKeyword sql then .error (if risk = .read then .unknown else risk)
  else if !allowsMcpAutoExecute risk then .error risk
  else .ok ()

/-- The bytes of a statement. -/
def asBytes (sql : String) : List Nat := sql.toUTF8.toList.map UInt8.toNat

end SqlPolicy

end Pipa
