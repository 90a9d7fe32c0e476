import Mathlib.Data.String.Basic
import Pipa.Library.Base64
import Pipa.Library.SortedEntries
import Pipa.QueryRunner
import Pipa.Redis

/-! Redis responses as the cells of a result grid. Nested values become JSON, whose
objects are sorted by their keys, as the maps of the library are. -/

namespace Pipa.Redis
open Text

/-- A JSON value, as far as responses come to one. -/
inductive Json where
  | null
  | bool (value : Bool)
  | string (text : String)
  | array (values : List Json)
  | object (members : List (String × Json))

namespace Json

/-- The escape of one character in a JSON string. -/
def escapeCharacter (c : Char) : List Char :=
  if c = '"' then ['\\', '"']
  else if c = '\\' then ['\\', '\\']
  else if c = '\x08' then ['\\', 'b']
  else if c = '\x0C' then ['\\', 'f']
  else if c = '\n' then ['\\', 'n']
  else if c = '\r' then ['\\', 'r']
  else if c = '\t' then ['\\', 't']
  else if c.toNat < 32 then ['\\', 'u', '0', '0', Nat.digitChar (c.toNat / 16), Nat.digitChar (c.toNat % 16)]
  else [c]

def quote (text : String) : String := String.ofList ('"' :: text.toList.flatMap escapeCharacter ++ ['"'])

mutual

/-- The compact text of a value. -/
def text : Json → String
  | .null => "null"
  | .bool value => if value then "true" else "false"
  | .string value => quote value
  | .array values => "[" ++ String.intercalate "," (texts values) ++ "]"
  | .object members => "\x7b" ++ String.intercalate "," (memberTexts members) ++ "\x7d"

def texts : List Json → List String
  | [] => []
  | value :: values => value.text :: texts values

def memberTexts : List (String × Json) → List String
  | [] => []
  | (key, value) :: members => (quote key ++ ":" ++ value.text) :: memberTexts members

end

end Json

/-- What `map_json` builds up: the object, the pairs, and whether all keys were texts. -/
structure MapJson where
  object : List (String × Json)
  pairs : List Json
  allTextKeys : Bool

def MapJson.empty : MapJson := { object := [], pairs := [], allTextKeys := true }

/-- One entry more. -/
def MapJson.push (self : MapJson) (key value : Json) : MapJson :=
  let pairs := self.pairs ++ [.array [key, value]]
  match key with
  | .string text => { self with object := SortedEntries.insert text value self.object, pairs }
  | _ => { self with pairs, allTextKeys := false }

/-- An object when all keys are texts, or pairs otherwise. -/
def MapJson.finish (self : MapJson) : Json := if self.allTextKeys then .object self.object else .array self.pairs

mutual

/-- Nested values as JSON. -/
def responseJson : RespValue → Json
  | .simple text | .error text | .integer text | .bigNumber text | .double text => .string text
  | .bulk none | .array none | .null => .null
  | .bulk (some bytes) | .verbatim bytes =>
    match fromUtf8 bytes with
    | some text => .string text
    | none => .string ("base64:" ++ String.ofList (Base64.encode bytes))
  | .array (some values) | .set values => .array (responsesJson values)
  | .boolean value => .bool value
  | .map entries => mapJson .empty entries

def responsesJson : List RespValue → List Json
  | [] => []
  | value :: values => responseJson value :: responsesJson values

/-- The loop over the entries of a map. -/
def mapJson (built : MapJson) : List (RespValue × RespValue) → Json
  | [] => built.finish
  | (key, value) :: entries => mapJson (built.push (responseJson key) (responseJson value)) entries

end

/-- UTF-8 text, or explicit Base64. -/
def bytesCell (bytes : List UInt8) : CellValue :=
  match fromUtf8 bytes with
  | some text => .text text
  | none => .binary (String.ofList (Base64.encode bytes))

section Cells
variable (parseFinite : String → Option UInt64)

/-- A protocol value as one cell. Rust's `f64::from_str` is given as a function that yields
the bits of a finite number. -/
def responseCell : RespValue → CellValue
  | .simple text | .error text => .text text
  | .integer text | .bigNumber text => .integer text
  | .bulk none | .array none | .null => .null
  | .bulk (some bytes) | .verbatim bytes => bytesCell bytes
  | .array (some values) | .set values => .json (Json.array (responsesJson values)).text
  | .boolean value => .boolean value
  | .double text => ((parseFinite text).map .float).getD (.text text)
  | .map entries => .json (mapJson .empty entries).text

def resultColumn (name databaseType : String) : QueryColumn := { name, databaseType, nullable := none }

/-- A result: its columns and rows. -/
abbrev ResultTable := List QueryColumn × List (List CellValue)

/-- One cursor and one item a row, for SCAN and SSCAN. -/
def singleScanTable (itemName : String) (cursor : CellValue) (values : List RespValue) : ResultTable :=
  ([resultColumn "cursor" "REDIS CURSOR", resultColumn itemName "REDIS VALUE"],
    if values.isEmpty then [[cursor, .null]] else values.map fun value => [cursor, responseCell parseFinite value])

/-- The values two by two; a last one on its own is paired with null. -/
def pairCells : List RespValue → List (List CellValue)
  | [] => []
  | [first] => [[responseCell parseFinite first, .null]]
  | first :: second :: rest => [responseCell parseFinite first, responseCell parseFinite second] :: pairCells rest

/-- One cursor and one pair a row, for HSCAN and ZSCAN. -/
def pairedScanTable (firstName secondName : String) (cursor : CellValue) (values : List RespValue) : ResultTable :=
  let rows := (pairCells parseFinite values).map fun pair => cursor :: pair
  ([resultColumn "cursor" "REDIS CURSOR", resultColumn firstName "REDIS VALUE", resultColumn secondName "REDIS VALUE"],
    if rows.isEmpty then [[cursor, .null, .null]] else rows)

def pairedResponseTable (firstName secondName : String) (values : List RespValue) : ResultTable :=
  ([resultColumn firstName "REDIS VALUE", resultColumn secondName "REDIS VALUE"], pairCells parseFinite values)

/-- The reply of a cursor command: the cursor and the array of its items. -/
def scanResponseTable (commandName : String) (response : RespValue) : Option ResultTable :=
  match response with
  | .array (some [cursor, .array (some values)]) =>
    let cursor := responseCell parseFinite cursor
    if commandName = "SCAN" then some (singleScanTable parseFinite "key" cursor values)
    else if commandName = "SSCAN" then some (singleScanTable parseFinite "member" cursor values)
    else if commandName = "HSCAN" then some (pairedScanTable parseFinite "field" "value" cursor values)
    else if commandName = "ZSCAN" then some (pairedScanTable parseFinite "member" "score" cursor values)
    else none
  | _ => none

/-- A list with its indexes, or one value. -/
def plainTable (response : RespValue) : ResultTable :=
  match response with
  | .array (some values) | .set values =>
    ([resultColumn "index" "REDIS INDEX", resultColumn "value" "REDIS VALUE"],
      values.mapIdx fun index value => [.integer (toString index), responseCell parseFinite value])
  | value => ([resultColumn "value" "REDIS VALUE"], [[responseCell parseFinite value]])

/-- The columns and rows of a response. -/
def responseTable (commandName : String) (response : RespValue) : ResultTable :=
  match scanResponseTable parseFinite commandName response with
  | some table => table
  | none =>
    match response with
    | .array (some values) =>
      if commandName = "HGETALL" then pairedResponseTable parseFinite "field" "value" values
      else plainTable parseFinite response
    | _ => plainTable parseFinite response

end Cells

end Pipa.Redis
