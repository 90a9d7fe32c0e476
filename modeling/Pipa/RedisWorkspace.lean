import Mathlib.Logic.Function.Basic
import Pipa.Connection
import Pipa.Library.Runs
import Pipa.QueryRunner
import Pipa.RedisCells
import Pipa.RedisCommand

/-! The Redis key browser of one tab: the details of a key are read, mutations are planned
from them, confirmed and executed, and the logical database may change at any time. -/

namespace Pipa.RedisBrowsing
open Redis Text

/-! ### Plans -/

/-- What ECMAScript makes of a text or a number. The numbers are those of `Number(text)`,
written as `String` writes them. -/
structure Builtins where
  toLowerCase : String → String
  floatText : UInt64 → String
  finiteNumber : String → Option String
  naturalNumber : String → Option String
  positiveInteger : String → Option String
  isJson : String → Bool

structure QueryExecutionResult where
  columns : List QueryColumn
  rows : List (List CellValue)
  affectedRows : Nat
deriving DecidableEq, Repr

structure RedisKeyDetails where
  key : String
  type : String
  ttl : Option Int
  memoryBytes : Option Int
  columns : List QueryColumn
  rows : List (List CellValue)
deriving DecidableEq, Repr

/-- The next key may be absent, and where it is present it may be none. -/
structure MutationPlan where
  title : String
  summary : String
  commands : List String
  destructive : Bool := false
  nextKey : Option (Option String) := none
  refreshKeys : Bool := false
deriving DecidableEq, Repr

/-- The drafts of the controls under the details. -/
structure Drafts where
  stringDraft : String := ""
  entryPrimary : String := ""
  entrySecondary : String := ""
  ttlDraft : String := ""
  renameDraft : String := ""
deriving DecidableEq, Repr

inductive CreatableRedisDataType where
  | string | hash | list | set | zset | stream
deriving DecidableEq, Repr

def CreatableRedisDataType.text : CreatableRedisDataType → String
  | .string => "string"
  | .hash => "hash"
  | .list => "list"
  | .set => "set"
  | .zset => "zset"
  | .stream => "stream"

structure CreateForm where
  createType : CreatableRedisDataType
  createName : String
  createValue : String
  createAuxiliary : String
  createTtl : String
deriving DecidableEq, Repr

def atomicCreateWithTtlScript : String :=
  "local result=redis.call(ARGV[1],KEYS[1],unpack(ARGV,2,#ARGV-1));redis.call('EXPIRE',KEYS[1],ARGV[#ARGV]);return result"

/-- The controls that plan a mutation of the key whose details are shown. -/
inductive Control where
  | delete
  | saveScalarValue
  | saveCollectionEntry (left : Bool)
  | deleteCollectionEntry (primary : CellValue)
  | setTtl
  | persist
  | rename
deriving DecidableEq, Repr

/-- `Number.parseInt(text, 10)`, where that is a number. -/
def parseInt (text : String) : Option Int :=
  let text := text.toList.dropWhile isJsWhitespace
  let digits := (if text.head? = some '-' ∨ text.head? = some '+' then text.tail else text).takeWhile Char.isDigit
  let magnitude : Int := Nat.ofDigitChars 10 digits 0
  if digits = [] then none else some (if text.head? = some '-' then -magnitude else magnitude)

section
variable (js : Builtins)

def cellText : Option CellValue → String
  | none | some .null => ""
  | some (.boolean value) => if value then "true" else "false"
  | some (.json value) => value
  | some (.binary value) => "base64:" ++ value
  | some (.float bits) => js.floatText bits
  | some (.integer value) | some (.decimal value) | some (.text value) | some (.dateTime value) => value

def scalarCell (result : QueryExecutionResult) : Option CellValue := result.rows.head?.bind List.head?

def scalarText (result : QueryExecutionResult) : String := cellText js (scalarCell result)

/-- The bounded read of a value, or none where the type has no structured reader. -/
def valueCommand (type key : String) : Option String :=
  let quotedKey := quoteRedisArgument key
  let type := js.toLowerCase type
  if type = "string" then some ("GET " ++ quotedKey)
  else if type = "hash" then some ("HSCAN " ++ quotedKey ++ " 0 MATCH \"*\" COUNT 200")
  else if type = "list" then some ("LRANGE " ++ quotedKey ++ " 0 199")
  else if type = "set" then some ("SSCAN " ++ quotedKey ++ " 0 MATCH \"*\" COUNT 200")
  else if type = "zset" then some ("ZSCAN " ++ quotedKey ++ " 0 MATCH \"*\" COUNT 200")
  else if type = "stream" then some ("XRANGE " ++ quotedKey ++ " - + COUNT 100")
  else if type = "rejson-rl" ∨ type = "json" then some ("JSON.GET " ++ quotedKey)
  else none

def saveScalarValue (details : RedisKeyDetails) (stringDraft : String) (stringDraftIsBinary : Bool) : Except String MutationPlan :=
  let key := quoteRedisArgument details.key
  let isJson := ["json", "rejson-rl"].contains (js.toLowerCase details.type)
  match if stringDraftIsBinary then quoteRedisBinaryArgument stringDraft else some (quoteRedisArgument stringDraft) with
  | none => .error "二进制值必须是有效的 Base64。"
  | some valueArgument =>
    if isJson = true ∧ js.isJson stringDraft = false then .error "JSON 内容格式无效。"
    else .ok {
      title := "保存值"
      summary := "更新“" ++ details.key ++ "”的" ++ (if isJson then " JSON" else "") ++ "内容。"
      commands := [
        if isJson then "JSON.SET " ++ key ++ " $ " ++ quoteRedisArgument stringDraft
        else "SET " ++ key ++ " " ++ valueArgument ++ " KEEPTTL"] }

/-- The command that saves an entry, or the message that refuses it; nothing for other types. -/
def collectionEntryCommand (details : RedisKeyDetails) (entryPrimary entrySecondary : String) (left : Bool) :
    Option (Except String String) :=
  let key := quoteRedisArgument details.key
  let primary := quoteRedisArgument entryPrimary
  let secondary := quoteRedisArgument entrySecondary
  let type := js.toLowerCase details.type
  if type = "hash" then
    some (if entryPrimary = "" then .error "请输入 Hash 字段名。" else .ok ("HSET " ++ key ++ " " ++ primary ++ " " ++ secondary))
  else if type = "list" then some (.ok ((if left then "LPUSH" else "RPUSH") ++ " " ++ key ++ " " ++ primary))
  else if type = "set" then some (.ok ("SADD " ++ key ++ " " ++ primary))
  else if type = "zset" then
    some (match js.finiteNumber entrySecondary with
      | none => .error "请输入有效的 ZSet 分数。"
      | some score => .ok ("ZADD " ++ key ++ " " ++ score ++ " " ++ primary))
  else if type = "stream" then
    some (if entryPrimary = "" then .error "请输入 Stream 字段名。"
      else .ok ("XADD " ++ key ++ " * " ++ primary ++ " " ++ secondary))
  else none

def saveCollectionEntry (details : RedisKeyDetails) (entryPrimary entrySecondary : String) (left : Bool) :
    Option (Except String MutationPlan) :=
  (collectionEntryCommand js details entryPrimary entrySecondary left).map fun command =>
    command.map fun command =>
      { title := "保存元素", summary := "更新“" ++ details.key ++ "”中的一个元素。", commands := [command] }

def deleteCollectionEntry (details : RedisKeyDetails) (primary : CellValue) : Except String MutationPlan :=
  let type := js.toLowerCase details.type
  let commandName := if type = "hash" then "HDEL" else if type = "set" then "SREM" else "ZREM"
  let primaryArgument := match primary with
    | .binary value => quoteRedisBinaryArgument value
    | _ => some (quoteRedisArgument (cellText js (some primary)))
  match primaryArgument with
  | none => .error "无法解析该二进制元素。"
  | some primaryArgument => .ok {
      title := "删除元素"
      summary := "从“" ++ details.key ++ "”中删除“" ++ cellText js (some primary) ++ "”。"
      commands := [commandName ++ " " ++ quoteRedisArgument details.key ++ " " ++ primaryArgument]
      destructive := true }

/-- What a control plans for the shown details, or the message that refuses it. -/
def Control.plan (details : RedisKeyDetails) (drafts : Drafts) (stringDraftIsBinary : Bool) :
    Control → Option (Except String MutationPlan)
  | .delete => some (.ok {
      title := "删除键"
      summary := "永久删除“" ++ details.key ++ "”。此操作无法撤销。"
      commands := ["DEL " ++ quoteRedisArgument details.key]
      destructive := true
      nextKey := some none
      refreshKeys := true })
  | .saveScalarValue => some (RedisBrowsing.saveScalarValue js details drafts.stringDraft stringDraftIsBinary)
  | .saveCollectionEntry left => RedisBrowsing.saveCollectionEntry js details drafts.entryPrimary drafts.entrySecondary left
  | .deleteCollectionEntry primary => some (RedisBrowsing.deleteCollectionEntry js details primary)
  | .setTtl => some (match js.positiveInteger drafts.ttlDraft with
      | none => .error "TTL 必须是大于 0 的整数秒数。"
      | some ttl => .ok {
          title := "设置 TTL"
          summary := "将“" ++ details.key ++ "”设置为 " ++ ttl ++ " 秒后过期。"
          commands := ["EXPIRE " ++ quoteRedisArgument details.key ++ " " ++ ttl] })
  | .persist =>
    if details.ttl = some (-1) then none
    else some (.ok {
      title := "移除 TTL"
      summary := "将“" ++ details.key ++ "”设为永久键。"
      commands := ["PERSIST " ++ quoteRedisArgument details.key] })
  | .rename =>
    let nextKey := jsTrim drafts.renameDraft
    if nextKey = "" ∨ drafts.renameDraft = details.key then none
    else some (.ok {
      title := "重命名键"
      summary := "将“" ++ details.key ++ "”重命名为“" ++ nextKey ++ "”。目标键存在时 Redis 会覆盖它。"
      commands := ["RENAME " ++ quoteRedisArgument details.key ++ " " ++ quoteRedisArgument nextKey]
      destructive := true
      nextKey := some (some nextKey)
      refreshKeys := true })

/-- The command name and its arguments after the key, or the message that refuses the form. -/
def createArguments (form : CreateForm) : Except String (String × List String) :=
  let value := quoteRedisArgument form.createValue
  let auxiliary := quoteRedisArgument form.createAuxiliary
  match form.createType with
  | .string => .ok ("SET", [value])
  | .hash => if form.createAuxiliary = "" then .error "Hash 需要字段名。" else .ok ("HSET", [auxiliary, value])
  | .list => .ok ("RPUSH", [value])
  | .set => .ok ("SADD", [value])
  | .zset =>
    match js.finiteNumber form.createAuxiliary with
    | none => .error "ZSet 需要有效分数。"
    | some score => .ok ("ZADD", [quoteRedisArgument score, value])
  | .stream =>
    if form.createAuxiliary = "" then .error "Stream 需要字段名。" else .ok ("XADD", [quoteRedisArgument "*", auxiliary, value])

def createKey (form : CreateForm) : Except String MutationPlan := do
  let name := jsTrim form.createName
  if name = "" then throw "请输入键名。"
  let key := quoteRedisArgument name
  let ttl ← if jsTrim form.createTtl = "" then pure none
    else match js.positiveInteger form.createTtl with
      | none => throw "TTL 必须是大于 0 的整数秒数。"
      | some ttl => pure (some ttl)
  let (commandName, commandArguments) ← createArguments js form
  let command := match ttl with
    | none => " ".intercalate ([commandName, key] ++ commandArguments)
    | some ttl =>
      if form.createType = .string then " ".intercalate ([commandName, key] ++ commandArguments ++ ["EX", ttl])
      else " ".intercalate (["EVAL", quoteRedisArgument atomicCreateWithTtlScript, "1", key, quoteRedisArgument commandName] ++
        commandArguments ++ [ttl])
  return {
    title := "创建键"
    summary := "创建 " ++ form.createType.text ++ " 键“" ++ name ++ "”" ++
      (match ttl with
        | none => ""
        | some ttl => "，并设置 " ++ ttl ++ " 秒 TTL") ++ "。"
    commands := [command]
    nextKey := some (some name)
    refreshKeys := true }

/-! ### Reading the details -/

/-- The replies to the four reads of one key. -/
structure DetailReplies where
  type : Except AppError QueryExecutionResult
  ttl : Except AppError QueryExecutionResult
  memory : Except AppError QueryExecutionResult
  value : Except AppError QueryExecutionResult

def keyGone : AppError :=
  { code := .notFound, message := "该键已不存在，键列表可能已发生变化。", technicalDetails := none, retryable := true }

/-- The details of a key and the cell that the value editor starts with. -/
def readDetails (key : String) (replies : DetailReplies) : Except AppError (RedisKeyDetails × Option CellValue) := do
  let type := scalarText js (← replies.type)
  if js.toLowerCase type = "none" then throw keyGone
  let valueResult ← match valueCommand js type key with
    | some _ => replies.value
    | none => pure { columns := [], rows := [], affectedRows := 0 }
  return ({
    key, type
    ttl := replies.ttl.toOption.bind fun result => parseInt (scalarText js result)
    memoryBytes := replies.memory.toOption.bind fun result => parseInt (scalarText js result)
    columns := valueResult.columns
    rows := valueResult.rows }, scalarCell valueResult)

end

def redisErrorMessage (error : AppError) : String :=
  match error.technicalDetails with
  | some technicalDetails =>
    if technicalDetails = "" then error.message else error.message ++ "：" ++ technicalDetails
  | none => error.message

/-! ### The workspace -/

/-- Something that was read from one logical database. The code keeps the content alone. -/
structure ReadFrom (α : Type) where
  database : String
  content : α
deriving DecidableEq, Repr

/-- A plan, with the database of the details that it was built from, if it was. -/
structure PlannedMutation where
  plan : MutationPlan
  readFrom : Option String
deriving DecidableEq, Repr

/-- A read of details in flight, with the database of the rendering that sent it. -/
structure DetailLoad where
  requestId : Nat
  key : String
  database : String
deriving DecidableEq, Repr

inductive MutationStage where
  | command | keys | details (requestId : Nat)
deriving DecidableEq, Repr

/-- A mutation in flight, with what it took from the rendering that started it. -/
structure RunningMutation where
  planned : PlannedMutation
  database : String
  selectedKey : Option String
  remaining : List String
  stage : MutationStage
deriving DecidableEq, Repr

structure Workspace where
  selectedKey : Option String
  details : Option (ReadFrom RedisKeyDetails)
  loadingDetails : Bool
  cliRunning : Bool
  runningMutation : Option RunningMutation
  error : Option String
  feedback : Option String
  pendingMutation : Option PlannedMutation
  drafts : Drafts
  stringDraftIsBinary : Bool
  databaseDraft : String
  detailRequestId : Nat
  loads : List DetailLoad
deriving DecidableEq, Repr

namespace Workspace
variable (js : Builtins) (workspace : Workspace)

/-- The details that the controls are shown under. -/
def shownDetails : Option (ReadFrom RedisKeyDetails) := if workspace.loadingDetails then none else workspace.details

def loadDetails (database key : String) : Workspace :=
  let requestId := workspace.detailRequestId + 1
  { workspace with
    detailRequestId := requestId
    selectedKey := some key
    loadingDetails := true
    error := none
    loads := workspace.loads ++ [{ requestId, key, database }] }

/-- Forgets the selected key; a read in flight is superseded. -/
def clearDetails : Workspace :=
  { workspace with detailRequestId := workspace.detailRequestId + 1, selectedKey := none, details := none }

/-- The latest read has been answered. -/
def received (load : DetailLoad) (replies : DetailReplies) : Workspace :=
  match readDetails js load.key replies with
  | .error error => { workspace with details := none, error := some (redisErrorMessage error), loadingDetails := false }
  | .ok (details, scalar) =>
    { workspace with
      details := some ⟨load.database, details⟩
      drafts := {
        stringDraft := match scalar with
          | some (.binary value) => value
          | _ => cellText js scalar
        ttlDraft := match details.ttl with
          | some ttl => if 0 ≤ ttl then toString ttl else ""
          | none => ""
        renameDraft := load.key }
      stringDraftIsBinary := scalar matches some (.binary _)
      loadingDetails := false }

/-- A mutation that waits for this read ends with it, whether or not it is the latest. -/
def readEnds (requestId : Nat) : Workspace :=
  if workspace.runningMutation.any fun running => running.stage = .details requestId then
    { workspace with runningMutation := none }
  else workspace

def detailsReplied (requestId : Nat) (replies : DetailReplies) : Workspace :=
  match workspace.loads.find? (·.requestId = requestId) with
  | none => workspace
  | some load =>
    let answered := { workspace with loads := workspace.loads.filter (·.requestId ≠ requestId) }
    (if workspace.detailRequestId = requestId then answered.received js load replies else answered).readEnds requestId

/-! ### Mutations -/

/-- Once its commands and the key list are done, a mutation shows the next key. -/
def commandsDone (running : RunningMutation) : Workspace :=
  let done := { workspace with runningMutation := none }
  match running.planned.plan.nextKey with
  | some none => done.clearDetails
  | nextKey =>
    match nextKey.join.or running.selectedKey with
    | none => done
    | some key =>
      if key = "" then done
      else
        let loading := workspace.loadDetails running.database key
        { loading with runningMutation := some { running with stage := .details loading.detailRequestId } }

/-- Sends the next command, or goes on to the key list and the next key. -/
def nextCommand (running : RunningMutation) : Workspace :=
  match running.remaining with
  | _ :: remaining => { workspace with runningMutation := some { running with remaining, stage := .command } }
  | [] =>
    let succeeded := { workspace with feedback := some (running.planned.plan.title ++ "成功") }
    if running.planned.plan.refreshKeys then { succeeded with runningMutation := some { running with stage := .keys } }
    else succeeded.commandsDone running

def executeMutation (database : String) (planned : PlannedMutation) : Workspace :=
  if workspace.runningMutation.isSome then workspace
  else
    let started := { workspace with pendingMutation := none, error := none, feedback := none }
    started.nextCommand {
      planned, database
      selectedKey := workspace.selectedKey
      remaining := planned.plan.commands
      stage := .command }

def commandReplied (failure : Option AppError) : Workspace :=
  match workspace.runningMutation with
  | none => workspace
  | some running =>
    if running.stage ≠ .command then workspace
    else
      match failure with
      | some error => { workspace with error := some (redisErrorMessage error), runningMutation := none }
      | none => workspace.nextCommand running

/-- The key list has been refreshed; its failure is shown with the list alone. -/
def keysReplied : Workspace :=
  match workspace.runningMutation with
  | none => workspace
  | some running => if running.stage = .keys then workspace.commandsDone running else workspace

end Workspace

/-! ### The application around it -/

inductive ConnectionEnvironment where
  | production | development | unspecified
deriving DecidableEq, Repr

structure SavedConnection where
  profile : ConnectionProfile
  environment : ConnectionEnvironment
deriving DecidableEq, Repr

/-- The tab that the workspace is mounted in. -/
structure OpenTab where
  connectionId : Uuid
  title : String
  initialKey : Option String
deriving DecidableEq, Repr

structure App where
  connections : List SavedConnection
  selectedRedisDatabases : Uuid → Option String
  tab : OpenTab
  workspace : Workspace

/-- The digits behind ` · DB ` and before ` · ` at the start of a text. -/
def databaseAt (text : List Char) : Option String :=
  let digits := (text.drop 6).takeWhile Char.isDigit
  if text.take 6 = [' ', '·', ' ', 'D', 'B', ' '] ∧ digits ≠ [] ∧
      ((text.drop 6).dropWhile Char.isDigit).take 3 = [' ', '·', ' '] then some (String.ofList digits)
  else none

/-- The title that identifies one key-inspection workspace. -/
def redisKeyWorkspaceTitle (connectionName database keyName : String) : String :=
  connectionName ++ " · DB " ++ database ++ " · " ++ keyName

/-- The database in the title of a tab that was opened on a key. -/
def redisDatabaseFromWorkspaceTitle (title : String) : Option String := title.toList.tails.findSome? databaseAt

inductive Event where
  | connectionsSaved (connections : List SavedConnection) (title : String)
  | selectRedisDatabase (connectionId : Uuid) (database : String)
  | openRedisKey (connectionId : Uuid) (database : String)
  | selectQueryTab (connectionId : Uuid) (title : String)
  | editDatabaseDraft (text : String)
  | commitDatabaseDraft
  | cliRunningChange (running : Bool)
  | editDrafts (drafts : Drafts)
  | loadDetails (key : String)
  | detailsReplied (requestId : Nat) (replies : DetailReplies)
  | requestMutation (control : Control)
  | createKey (form : CreateForm)
  | cancelMutation
  | confirmMutation
  | commandReplied (failure : Option AppError)
  | keysReplied

namespace App
variable (js : Builtins) (app : App)

def connection (connectionId : Uuid) : Option SavedConnection := app.connections.find? (·.profile.id = connectionId)

def isRedis (connectionId : Uuid) : Bool := (app.connection connectionId).any (·.profile.engine = .redis)

/-- The logical database that the workspace is rendered with. -/
def database : String :=
  ((app.selectedRedisDatabases app.tab.connectionId).or (redisDatabaseFromWorkspaceTitle app.tab.title)).getD
    (((app.connection app.tab.connectionId).bind (·.profile.database)).getD "0")

def production : Bool := (app.connection app.tab.connectionId).any (·.environment = .production)

def select (connectionId : Uuid) (database : String) : App :=
  { app with selectedRedisDatabases := Function.update app.selectedRedisDatabases connectionId (some database) }

/-- The effects of a rendering with another database: the draft is set anew, and a tab
that was opened on a key reads that key. -/
def effects : App :=
  let redrafted := { app.workspace with databaseDraft := app.database }
  { app with
    workspace := match app.tab.initialKey with
      | none => redrafted
      | some key => if key = "" then redrafted else redrafted.loadDetails app.database key }

def rendered (previous : String) : App := if app.database = previous then app else app.effects

def handleSelectRedisDatabase (connectionId : Uuid) (database : String) : App :=
  if app.isRedis connectionId then app.select connectionId database else app

/-- Selects the database of another key tab or of the navigator as well. -/
def handleOpenRedisKey (connectionId : Uuid) (database : String) : App :=
  if app.isRedis connectionId then app.select connectionId database else app

def handleSelectQueryTab (connectionId : Uuid) (title : String) : App :=
  match redisDatabaseFromWorkspaceTitle title with
  | none => app
  | some database => if app.isRedis connectionId ∧ database ≠ "" then app.select connectionId database else app

def commitDatabaseDraft : App :=
  if app.workspace.cliRunning = true ∨ app.workspace.runningMutation.isSome = true then app
  else
    match js.naturalNumber app.workspace.databaseDraft with
    | none =>
      { app with workspace := { app.workspace with
          databaseDraft := app.database
          error := some "Redis 数据库编号必须是非负整数。" } }
    | some normalizedDatabase =>
      let normalized := { app.workspace with databaseDraft := normalizedDatabase }
      if normalizedDatabase = app.database then { app with workspace := normalized }
      else { app with workspace := normalized.clearDetails }.handleSelectRedisDatabase app.tab.connectionId normalizedDatabase

/-- Connections or the tab's title change; the workspace lives on while its connection is one of Redis. -/
def connectionsSaved (connections : List SavedConnection) (title : String) : App :=
  let saved := { app with connections, tab := { app.tab with title } }
  if saved.isRedis app.tab.connectionId then saved else app

/-- Asks for a confirmation where one is due. -/
def requestPlanned (planned : PlannedMutation) : App :=
  { app with
    workspace := if app.production = true ∨ planned.plan.destructive = true then
        { app.workspace with pendingMutation := some planned }
      else app.workspace.executeMutation app.database planned }

/-- What a control plans now, or the message that refuses it; its buttons are disabled while a mutation runs. -/
def planned (control : Control) : Option (Except String PlannedMutation) := do
  let details ← app.workspace.shownDetails
  let plan ← control.plan js details.content app.workspace.drafts app.workspace.stringDraftIsBinary
  if app.workspace.runningMutation.isSome then none
  else some (plan.map fun plan => { plan, readFrom := some details.database })

def requestMutation (control : Control) : App :=
  match app.planned js control with
  | none => app
  | some (.error message) => { app with workspace := { app.workspace with error := some message } }
  | some (.ok planned) => app.requestPlanned planned

def createKey (form : CreateForm) : App :=
  if app.workspace.runningMutation.isSome then app
  else
    match RedisBrowsing.createKey js form with
    | .error message => { app with workspace := { app.workspace with error := some message } }
    | .ok plan => app.requestPlanned { plan, readFrom := none }

def cancelMutation : App :=
  if app.workspace.runningMutation.isSome then app
  else { app with workspace := { app.workspace with pendingMutation := none } }

def confirmMutation : App :=
  match app.workspace.pendingMutation with
  | none => app
  | some planned => { app with workspace := app.workspace.executeMutation app.database planned }

def step (app : App) : Event → App
  | .connectionsSaved connections title => (app.connectionsSaved connections title).rendered app.database
  | .selectRedisDatabase connectionId database => (app.handleSelectRedisDatabase connectionId database).rendered app.database
  | .openRedisKey connectionId database => (app.handleOpenRedisKey connectionId database).rendered app.database
  | .selectQueryTab connectionId title => (app.handleSelectQueryTab connectionId title).rendered app.database
  | .editDatabaseDraft text => { app with workspace := { app.workspace with databaseDraft := text } }
  | .commitDatabaseDraft => (app.commitDatabaseDraft js).rendered app.database
  | .cliRunningChange running => { app with workspace := { app.workspace with cliRunning := running } }
  | .editDrafts drafts => { app with workspace := { app.workspace with drafts } }
  | .loadDetails key => { app with workspace := app.workspace.loadDetails app.database key }
  | .detailsReplied requestId replies => { app with workspace := app.workspace.detailsReplied js requestId replies }
  | .requestMutation control => app.requestMutation js control
  | .createKey form => app.createKey js form
  | .cancelMutation => app.cancelMutation
  | .confirmMutation => app.confirmMutation
  | .commandReplied failure => { app with workspace := app.workspace.commandReplied failure }
  | .keysReplied => { app with workspace := app.workspace.keysReplied }

/-- A command as it is sent, with the database of the details that its plan was built from. -/
structure Execution where
  command : String
  database : String
  readFrom : Option String
deriving DecidableEq, Repr

/-- The first command of a mutation that starts now. -/
def starts (planned : PlannedMutation) : Option Execution :=
  if app.workspace.runningMutation.isSome then none
  else planned.plan.commands.head?.map fun command => { command, database := app.database, readFrom := planned.readFrom }

/-- The first command of a mutation that needs no confirmation. -/
def startsUnconfirmed (planned : PlannedMutation) : Option Execution :=
  if app.production = true ∨ planned.plan.destructive = true then none else app.starts planned

/-- The command of a mutation plan that an event sends. -/
def executes (app : App) : Event → Option Execution
  | .requestMutation control =>
    match app.planned js control with
    | some (.ok planned) => app.startsUnconfirmed planned
    | _ => none
  | .createKey form =>
    match RedisBrowsing.createKey js form with
    | .ok plan => app.startsUnconfirmed { plan, readFrom := none }
    | .error _ => none
  | .confirmMutation => app.workspace.pendingMutation.bind app.starts
  | .commandReplied none =>
    app.workspace.runningMutation.bind fun running =>
      if running.stage = .command then
        running.remaining.head?.map fun command =>
          { command, database := running.database, readFrom := running.planned.readFrom }
      else none
  | _ => none

def mounted (connections : List SavedConnection) (selectedRedisDatabases : Uuid → Option String) (connectionId : Uuid)
    (title sqlText : String) : App where
  connections
  selectedRedisDatabases
  tab := { connectionId, title, initialKey := inspectionKeyFromSql sqlText }
  workspace := {
    selectedKey := inspectionKeyFromSql sqlText
    details := none
    loadingDetails := false
    cliRunning := false
    runningMutation := none
    error := none
    feedback := none
    pendingMutation := none
    drafts := {}
    stringDraftIsBinary := false
    databaseDraft := ""
    detailRequestId := 0
    loads := [] }

/-- The workspace after its first rendering. -/
def initial (connections : List SavedConnection) (selectedRedisDatabases : Uuid → Option String) (connectionId : Uuid)
    (title sqlText : String) : App :=
  (mounted connections selectedRedisDatabases connectionId title sqlText).effects

end App

end Pipa.RedisBrowsing

/-! The keys that the Redis browser lists, and the commands that it sends for the selected one. -/

namespace Pipa.RedisBrowsing
open Redis

section
variable (js : Builtins)

/-- The keys of one page of SCAN, as they are listed. -/
def pageKeys (result : QueryExecutionResult) : List String :=
  (result.rows.map fun row => cellText js row[1]?).filter (· ≠ "")

/-- The listed keys behind a fresh search, or behind one page more; `new Set` keeps the first ones. -/
def listedKeys (current page : List String) (replace : Bool) : List String :=
  (if replace then page else current ++ page).eraseDups

/-- The commands that `loadDetails` sends for a key whose type was answered. -/
def detailCommands (type key : String) : List String :=
  let quotedKey := quoteRedisArgument key
  if js.toLowerCase type = "none" then ["TYPE " ++ quotedKey]
  else ["TYPE " ++ quotedKey, "TTL " ++ quotedKey, "MEMORY USAGE " ++ quotedKey] ++ (valueCommand js type key).toList

end

end Pipa.RedisBrowsing
