import Pipa.Library.Base64
import Pipa.Redis

/-! Redis commands as text: the workspace quotes arguments, the adapter tokenizes them,
and a stored inspection command is turned back into its key. -/

namespace Pipa.Redis
open Text

/-- The workspace and the key navigator hold the same copy of it. -/
def quoteRedisArgument (value : String) : String :=
  let value := replace '\\' "\\\\" value
  let value := replace '"' "\\\"" value
  let value := replace '\n' "\\n" value
  let value := replace '\r' "\\r" value
  let value := replace '\t' "\\t" value
  "\"" ++ value ++ "\""

def hexDigit (value : Nat) : Char := if value < 10 then Char.ofNat (48 + value) else Char.ofNat (87 + value)

/-- Two lower-case digits. -/
def hexText (byte : UInt8) : List Char := [hexDigit (byte.toNat / 16), hexDigit (byte.toNat % 16)]

/-- Base64 text as one argument of hexadecimal escapes. -/
def quoteRedisBinaryArgument (value : String) : Option String :=
  (Base64.atob (jsTrim value).toList).map fun bytes =>
    let escaped := bytes.flatMap fun byte => ['\\', 'x'] ++ hexText byte
    "\"" ++ String.ofList escaped ++ "\""

/-- Non-mutating commands that describe one key. -/
def redisKeyInspectionCommands (keyName : String) : String :=
  let key := quoteRedisArgument keyName
  "TYPE " ++ key ++ ";\nTTL " ++ key ++ ";\nMEMORY USAGE " ++ key ++ ";"

/-! ### The tokenizer -/

def validationError (message : String) : AppError :=
  { code := .validation, message, technicalDetails := none, retryable := false }

structure ParseState where
  arguments : List (List UInt8)
  argument : List UInt8
  quote : Option Char
  started : Bool
deriving DecidableEq

def ParseState.initial : ParseState := { arguments := [], argument := [], quote := none, started := false }

/-- Ends the argument that has started. -/
def ParseState.finish (state : ParseState) : ParseState :=
  if state.started then { state with arguments := state.arguments ++ [state.argument], argument := [], started := false }
  else state

def ParseState.push (state : ParseState) (bytes : List UInt8) : ParseState :=
  { state with argument := state.argument ++ bytes, started := true }

/-- Rust's `char::to_digit(16)`. -/
def hexValue (digit : Char) : Option Nat :=
  let code := digit.toNat
  if 48 ≤ code ∧ code ≤ 57 then some (code - 48)
  else if 97 ≤ code ∧ code ≤ 102 then some (code - 87)
  else if 65 ≤ code ∧ code ≤ 70 then some (code - 55)
  else none

/-- Rust's `u8::from_str_radix` on two characters, which may be a plus sign and a digit. -/
def hexByte (high low : Char) : Option UInt8 :=
  match hexValue low with
  | none => none
  | some lower =>
    if high = '+' then some (UInt8.ofNat lower) else (hexValue high).map fun upper => UInt8.ofNat (16 * upper + lower)

def unescapeCharacter (escaped : Char) : Char :=
  if escaped = 'n' then '\n' else if escaped = 'r' then '\r' else if escaped = 't' then '\t' else escaped

/-- The loop over the characters of a command. -/
def parseCharacters : ParseState → List Char → Except AppError ParseState
  | state, [] => .ok state
  | state, character :: rest =>
    if state.quote = none ∧ isWhitespace character then parseCharacters state.finish rest
    else if character = '\'' ∨ character = '"' then
      if state.quote = some character then parseCharacters { state with quote := none } rest
      else if state.quote = none then parseCharacters { state with quote := some character, started := true } rest
      else parseCharacters (state.push (String.utf8EncodeChar character)) rest
    else if character = '\\' then
      match rest with
      | [] => .error (validationError "Redis command ends with an incomplete escape")
      | escaped :: rest =>
        if escaped = 'x' then
          match rest with
          | high :: low :: rest =>
            match hexByte high low with
            | some byte => parseCharacters (state.push [byte]) rest
            | none => .error (validationError "Redis command contains an invalid hex escape")
          | _ => .error (validationError "Redis command contains an invalid hex escape")
        else parseCharacters (state.push (String.utf8EncodeChar (unescapeCharacter escaped))) rest
    else parseCharacters (state.push (String.utf8EncodeChar character)) rest

/-- Tokenizes one redis-cli-style command with quoted and escaped arguments. -/
def parseCommand (command : String) : Except AppError (List (List UInt8)) :=
  if (utf8 command).length > maxCommandBytes then .error (validationError "Redis command is too large")
  else do
    let state ← parseCharacters .initial command.toList
    if state.quote ≠ none then .error (validationError "Redis command contains an unterminated quote")
    else
      let arguments := state.finish.arguments
      if arguments = [] then .error (validationError "Redis command cannot be empty") else return arguments

/-! ### Inspection commands -/

/-- What `.` does not match. -/
def isLineTerminator (c : Char) : Bool := c == '\n' || c == '\r' || c == '\u2028' || c == '\u2029'

/-- The group of `^TYPE\s+"((?:\\.|[^"])*)"`, with its backtracking: an escape is tried
before a single character, and going on before the closing quote. -/
def quotedBody : List Char → Option (List Char)
  | [] => none
  | c :: rest =>
    if c = '"' then some []
    else
      Option.or
        (match rest with
          | escaped :: rest =>
            if c = '\\' ∧ isLineTerminator escaped = false then (quotedBody rest).map fun body => c :: escaped :: body
            else none
          | [] => none)
        ((quotedBody rest).map fun body => c :: body)

/-- Every backslash before one of `\`, `n`, `r`, `t` and `"` is replaced with it. -/
def decodeEscapes : List Char → List Char
  | [] => []
  | c :: rest =>
    if c = '\\' then
      match rest with
      | escaped :: rest =>
        if escaped ∈ ['\\', 'n', 'r', 't', '"'] then unescapeCharacter escaped :: decodeEscapes rest
        else c :: decodeEscapes (escaped :: rest)
      | [] => [c]
    else c :: decodeEscapes rest

/-- What `^TYPE\s+` leaves, in any case. -/
def afterType (text : List Char) : Option (List Char) :=
  let rest := text.drop 4
  if eqIgnoreAsciiCase (String.ofList (text.take 4)) "TYPE" ∧ (rest.head?.any isJsWhitespace) then
    some (rest.dropWhile isJsWhitespace)
  else none

/-- The key of a stored inspection command, quoted or bare. -/
def inspectionKeyFromSql (sqlText : String) : Option String :=
  match afterType sqlText.toList with
  | none => none
  | some rest =>
    match (if rest.head? = some '"' then quotedBody rest.tail else none) with
    | some body => some (String.ofList (decodeEscapes body))
    | none =>
      let key := rest.takeWhile fun c => !(isJsWhitespace c || c == ';')
      if key = [] then none else some (String.ofList key)

end Pipa.Redis

/-! Which Redis commands a production workspace runs without asking. -/

namespace Pipa.Redis
open Text

def redisReadOnlyCommands : List String :=
  ["BITCOUNT", "BITFIELD_RO", "BITPOS", "COMMAND", "DBSIZE", "DUMP", "ECHO", "EXISTS", "EXPIRETIME", "GEODIST",
    "GEOHASH", "GEOPOS", "GEOSEARCH", "GET", "GETBIT", "GETRANGE", "HEXISTS", "HGET", "HGETALL", "HKEYS", "HLEN",
    "HMGET", "HRANDFIELD", "HSCAN", "HSTRLEN", "HVALS", "INFO", "KEYS", "LCS", "LINDEX", "LLEN", "LOLWUT",
    "LPOS", "LRANGE", "MGET", "OBJECT", "PEXPIRETIME", "PFCOUNT", "PING", "PTTL", "PUBSUB", "RANDOMKEY", "SCAN",
    "SCARD", "SDIFF", "SINTER", "SINTERCARD", "SISMEMBER", "SMEMBERS", "SMISMEMBER", "SORT_RO", "SRANDMEMBER",
    "SSCAN", "STRLEN", "SUNION", "TIME", "TTL", "TYPE", "XINFO", "XLEN", "XPENDING", "XRANGE", "XREAD",
    "XREVRANGE", "ZCARD", "ZCOUNT", "ZDIFF", "ZINTER", "ZINTERCARD", "ZLEXCOUNT", "ZMSCORE", "ZRANDMEMBER",
    "ZRANGE", "ZRANGEBYLEX", "ZRANGEBYSCORE", "ZRANK", "ZREVRANGE", "ZREVRANGEBYLEX", "ZREVRANGEBYSCORE",
    "ZREVRANK", "ZSCAN", "ZSCORE", "ZUNION"]

/-- The first two parts of `trim().split(/\s+/u, 2)`, empty where there are fewer. -/
def firstParts (command : String) : String × String :=
  let text := (jsTrim command).toList
  let rest := (text.dropWhile fun c => !isJsWhitespace c).dropWhile isJsWhitespace
  (String.ofList (text.takeWhile fun c => !isJsWhitespace c), String.ofList (rest.takeWhile fun c => !isJsWhitespace c))

section
variable (upper : Char → List Char)

/-- ECMAScript's `String.prototype.toUpperCase`, over the table of upper-case mappings. -/
def toUpperCase (text : String) : String := String.ofList (text.toList.flatMap upper)

/-- Treats unknown or state-changing commands as writes. -/
def redisCommandNeedsProductionConfirmation (command : String) : Bool :=
  let commandName := toUpperCase upper (firstParts command).1
  let subcommand := toUpperCase upper (firstParts command).2
  if commandName = "MEMORY" then !(["DOCTOR", "MALLOC-STATS", "STATS", "USAGE"].contains subcommand)
  else if commandName = "SCRIPT" then subcommand ≠ "EXISTS"
  else if commandName = "CONFIG" then subcommand ≠ "GET"
  else !redisReadOnlyCommands.contains commandName

end

end Pipa.Redis
