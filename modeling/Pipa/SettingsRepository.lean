import Pipa.LocalStore
import Pipa.McpServer

/-! The preferences of the MCP server as rows of `app_settings`, each key in a statement of
its own. -/

namespace Pipa

/-- The text that a UUID is written as: its hexadecimal digits in five groups. -/
def Uuid.isHyphenated (id : Uuid) : Bool :=
  let groups := id.hyphenated.toList.splitOn '-'
  groups.map List.length == [8, 4, 4, 4, 12] &&
    groups.all fun group => group.all fun c => c.isDigit || ('a' ≤ c && c ≤ 'f')

/-- `Uuid::parse_str`, which reads what a UUID is written as, and other forms too. -/
structure UuidLibrary where
  parseStr : String → Option Uuid
  parse_hyphenated : ∀ id : Uuid, id.isHyphenated → parseStr id.hyphenated = some id
  parse_empty : parseStr "" = none

structure SettingRow where
  key : String
  value : String
deriving DecidableEq, Repr

abbrev AppSettings := KeyedTable SettingRow.key

/-- A call on the settings, which reports an application error. -/
abbrev Setting (α : Type) := Statements AppSettings AppError α

namespace SettingsRepository
open Statements LocalStore

def mcpEnabledKey : String := "mcp_enabled"
def mcpPortKey : String := "mcp_port"
def mcpRestrictToConnectionKey : String := "mcp_restrict_to_connection"
def mcpTargetConnectionIdsKey : String := "mcp_target_connection_ids"
def mcpTargetConnectionIdKey : String := "mcp_target_connection_id"
def defaultMcpPort : Nat := 3847

def defaultMcpSettings : McpSettings where
  enabled := false
  port := defaultMcpPort
  restrictToConnection := false
  targetConnectionIds := []

/-- A missing table has no rows, so creating it changes none. -/
def ensureAppSettingsTable (fault : Option String) : Setting Unit :=
  mapError (storageError "Could not initialize application settings" "create app_settings") <|
    execute fault fun table => .ok ((), table)

def getSetting (key : String) (faults : Faults) : Setting (Option String) := do
  let readError := storageError "Could not read application settings"
  mapError (readError "prepare select") <| query (faults 0) fun _ => ()
  mapError (readError "query select") <| query (faults 1) fun _ => ()
  let row ← mapError (readError "iterate rows") <| query (faults 2) fun table => table.find? key
  match row with
  | none => pure none
  | some row => mapError (readError "read value") <| query (faults 3) fun _ => some row.value

def putSetting (key value : String) (table : AppSettings) : AppSettings :=
  table.insertOrUpdate { key, value } (fun old => { old with value }) fun _ => rfl

def setSetting (key value : String) (fault : Option String) : Setting Unit :=
  mapError (storageError "Could not save application settings" "upsert setting") <|
    execute fault fun table => .ok ((), putSetting key value table)

def parseFlag (value : String) : Bool := value == "1" || Text.eqIgnoreAsciiCase value "true"

def writeFlag (flag : Bool) : String := if flag then "1" else "0"

/-- Rust's `str::parse::<u16>`. -/
def parseU16 (value : String) : Option Nat := (Text.parseU64 value).filter (· < 65536)

def parsePort (value : String) : Option Nat := (parseU16 value).filter (0 < ·)

/-- Parses the persisted comma-delimited UUID list while preserving order and removing duplicates. -/
def parseConnectionIds (library : UuidLibrary) (value : String) : List Uuid :=
  uniqueIds ((Text.split ',' value).filterMap fun item => library.parseStr (Text.trim item))

def parseConnectionId (library : UuidLibrary) (value : String) : List Uuid :=
  (library.parseStr (Text.trim value)).toList

/-- Loads MCP preferences, applying defaults for missing keys. The first faults are those of
the table, the others those of the keys in the order of their reading. -/
def loadMcpSettings (library : UuidLibrary) (faults : Nat → Faults) : Setting McpSettings := do
  ensureAppSettingsTable (faults 0 0)
  let enabled ← getSetting mcpEnabledKey (faults 1)
  let port ← getSetting mcpPortKey (faults 2)
  let restrictToConnection ← getSetting mcpRestrictToConnectionKey (faults 3)
  let targets ← getSetting mcpTargetConnectionIdsKey (faults 4)
  let targetConnectionIds ← match targets with
    | some value => pure (parseConnectionIds library value)
    | none => do
      let target ← getSetting mcpTargetConnectionIdKey (faults 5)
      pure ((target.map (parseConnectionId library)).getD [])
  pure {
    enabled := (enabled.map parseFlag).getD false
    port := (port.bind parsePort).getD defaultMcpPort
    restrictToConnection := (restrictToConnection.map parseFlag).getD false
    targetConnectionIds }

/-- Persists MCP preferences (never stores the bearer token). -/
def saveMcpSettings (settings : McpSettings) (faults : Faults) : Setting Unit := do
  ensureAppSettingsTable (faults 0)
  setSetting mcpEnabledKey (writeFlag settings.enabled) (faults 1)
  setSetting mcpPortKey (toString settings.port) (faults 2)
  setSetting mcpRestrictToConnectionKey (writeFlag settings.restrictToConnection) (faults 3)
  setSetting mcpTargetConnectionIdsKey (",".intercalate (settings.targetConnectionIds.map toString)) (faults 4)
  -- an older version of the application reads its one target from this key
  setSetting mcpTargetConnectionIdKey ((settings.targetConnectionIds.head?.map toString).getD "") (faults 5)
  pure ()

end SettingsRepository

end Pipa
