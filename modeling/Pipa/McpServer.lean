import Pipa.AppError
import Pipa.Binlog
import Pipa.Library.Runs
import Mathlib.Logic.Function.Basic

/-! Lifecycle of the loopback MCP server: the shared handle, the listener tasks and the
commands that act on them. A command is the list of its remaining lock sections, so the
commands and the tasks interleave at their locks; a cancellation that follows a lock
section without waiting is part of it. -/

namespace Pipa

structure McpSettings where
  enabled : Bool
  port : Nat
  restrictToConnection : Bool
  targetConnectionIds : List Uuid
deriving DecidableEq, Repr

/-- Runtime MCP connection visibility and authorization boundary. -/
structure McpConnectionScope where
  restrictToConnection : Bool
  targetConnectionIds : List Uuid
deriving DecidableEq, Repr

namespace McpConnectionScope

def fromSettings (settings : McpSettings) : McpConnectionScope :=
  ⟨settings.restrictToConnection, settings.targetConnectionIds⟩

def allows (self : McpConnectionScope) (connectionId : Uuid) : Bool :=
  !self.restrictToConnection || self.targetConnectionIds.contains connectionId

end McpConnectionScope

/-- Keeps the first of equal ids. -/
def uniqueIds (ids : List Uuid) : List Uuid :=
  ids.foldl (fun unique id => if unique.contains id then unique else unique ++ [id]) []

namespace McpServer

/-- A cancellation token and its task are known by the number of the start that made them. -/
structure Handle where
  cancellation : Option Nat
  task : Option Nat
  token : Option String
  port : Option Nat
  lastError : Option String
  settings : McpSettings
deriving DecidableEq, Repr

namespace Handle

def fromSettings (settings : McpSettings) : Handle :=
  { cancellation := none, task := none, token := none, port := none, lastError := none, settings }

def running (self : Handle) : Bool := self.cancellation.isSome

/-- The scope that the panel shows. -/
def scope (self : Handle) : McpConnectionScope := .fromSettings self.settings

def setConnectionScope (self : Handle) (scope : McpConnectionScope) : Handle :=
  { self with settings := { self.settings with
      restrictToConnection := scope.restrictToConnection
      targetConnectionIds := scope.targetConnectionIds } }

/-- The bound port when running, else the configured one. -/
def currentPort (self : Handle) : Nat := self.port.getD self.settings.port

/-- What the end of a server task, and the stop of a server, clear. -/
def cleared (self : Handle) : Handle :=
  { self with cancellation := none, task := none, token := none, port := none }

end Handle

/-- A task serves until its server returns, and then clears the handle. -/
inductive Phase where
  | serving
  | ending (error : Option String)
  | finished
  | panicked
deriving DecidableEq, Repr

structure ServerTask where
  port : Nat
  token : String
  cancelled : Bool
  phase : Phase
deriving DecidableEq, Repr

/-- One lock section of a command, or a wait between two of them. -/
inductive Section where
  | validateCurrent
  | validate (scope : McpConnectionScope)
  | choosePort
  | requireRunning
  | restart
  | listen (port : Nat) (previous : Option (McpSettings × Nat))
  | relisten (port : Nat)
  | stop
  | wait (task : Nat)
  | report (message : String)
  | snapshotPort (port : Nat)
  | setPort (port : Nat)
  | configure (settings : McpSettings)
  | enable
  | setScope (scope : McpConnectionScope)
  | enforce (scope : McpConnectionScope)
  | save
deriving DecidableEq, Repr

/-- The commands of the panel, and the start at launch. -/
inductive Command where
  | autoStart
  | start
  | setConnectionScope (restrictToConnection : Bool) (targetConnectionIds : List Uuid)
  | stop
  | setPort (port : Nat)
  | regenerateToken
deriving DecidableEq, Repr

def Command.sections : Command → List Section
  | .autoStart => [.choosePort]
  | .start => [.validateCurrent, .choosePort, .save]
  | .setConnectionScope restrictToConnection targetConnectionIds =>
    let scope : McpConnectionScope := ⟨restrictToConnection, uniqueIds targetConnectionIds⟩
    [.validate scope, .setScope scope, .enforce scope]
  | .stop => [.stop, .save]
  | .setPort port => if port = 0 then [] else [.snapshotPort port, .save]
  | .regenerateToken => [.requireRunning, .restart, .save]

/-- What the world decides while a section runs. -/
structure World where
  /-- Whether a connection is saved. -/
  known : Uuid → Bool
  generateToken : Except String String
  /-- The port bound for a requested one, or why it is not. -/
  bind : Nat → Except String Nat
  /-- After how many of its writes a save fails. -/
  saveFails : Option Nat

def validateConnectionScope (known : Uuid → Bool) (scope : McpConnectionScope) : Bool :=
  !(scope.restrictToConnection && scope.targetConnectionIds.isEmpty) && scope.targetConnectionIds.all known

/-- The settings are written key by key; a failing write leaves the earlier ones. -/
def settingsWrites (settings : McpSettings) : List (McpSettings → McpSettings) :=
  [fun stored => { stored with enabled := settings.enabled }, fun stored => { stored with port := settings.port },
    fun stored => { stored with restrictToConnection := settings.restrictToConnection },
    fun stored => { stored with targetConnectionIds := settings.targetConnectionIds }]

def saveMcpSettings (saveFails : Option Nat) (settings stored : McpSettings) : McpSettings :=
  let written := match saveFails with
    | none => settingsWrites settings
    | some count => (settingsWrites settings).take count
  written.foldl (fun stored write => write stored) stored

structure State where
  handle : Handle
  spawned : Nat
  tasks : Nat → Option ServerTask
  /-- The scope that authorises requests. -/
  connectionScope : McpConnectionScope
  stored : McpSettings
  commands : Nat → List Section

inductive Event where
  | invoke (command : Nat) (invoked : Command)
  | advance (command : Nat) (world : World)
  /-- The server of a task returns: when it was cancelled, or with an error. -/
  | serveEnds (task : Nat) (error : Option String)
  | cleanup (task : Nat)
  | panics (task : Nat)

namespace State

def initial (settings : McpSettings) : State :=
  { handle := .fromSettings settings, spawned := 0, tasks := fun _ => none
    connectionScope := .fromSettings settings, stored := settings, commands := fun _ => [] }

def setTask (self : State) (task : Nat) (change : ServerTask → ServerTask) : State :=
  { self with tasks := Function.update self.tasks task ((self.tasks task).map change) }

/-- `start_mcp_server`: the whole start runs under the lock. -/
def startMcpServer (self : State) (world : World) (port : Nat) : Except String Unit × State :=
  if self.handle.running then (.ok (), self)
  else
    match world.generateToken with
    | .error message => (.error message, { self with handle.lastError := some message })
    | .ok token =>
      match world.bind port with
      | .error _ =>
        let message := s!"Could not bind MCP server on 127.0.0.1:{port}"
        (.error message, { self with handle.lastError := some message })
      | .ok boundPort =>
        (.ok (), { self with
          spawned := self.spawned + 1
          tasks := Function.update self.tasks self.spawned (some ⟨boundPort, token, false, .serving⟩)
          handle := {
            cancellation := some self.spawned
            task := some self.spawned
            token := some token
            port := some boundPort
            lastError := none
            settings := { self.handle.settings with port := boundPort, enabled := true } } })

/-- The lock section of `stop_mcp_server` and the cancellation behind it. -/
def stopMcpServer (self : State) : State :=
  let stopped := { self with handle := { self.handle.cleared with
    lastError := none
    settings := { self.handle.settings with enabled := false } } }
  match self.handle.cancellation with
  | none => stopped
  | some task => stopped.setTask task fun task => { task with cancelled := true }

/-- Runs one section; what follows it is returned, and nothing when the command fails. -/
def perform (self : State) (world : World) : Section → List Section → List Section × State
  | .validateCurrent, rest => (if validateConnectionScope world.known self.connectionScope then rest else [], self)
  | .validate scope, rest => (if validateConnectionScope world.known scope then rest else [], self)
  | .choosePort, rest => (.listen self.handle.currentPort none :: rest, self)
  | .requireRunning, rest => (if self.handle.running then rest else [], self)
  | .restart, rest => (.stop :: .enable :: .listen self.handle.currentPort none :: rest, self)
  | .listen port previous, rest =>
    match self.startMcpServer world port, previous with
    | (.ok (), state), _ => (rest, state)
    | (.error _, state), none => ([], state)
    | (.error _, state), some (settings, oldPort) => ([.configure settings, .relisten oldPort], state)
  | .relisten port, _ =>
    match self.startMcpServer world port with
    | (.ok (), state) => ([], state)
    | (.error _, state) => ([.report "Could not change MCP port or restore the previous server"], state)
  | .stop, rest =>
    (match self.handle.task with
      | some task => .wait task :: rest
      | none => rest, self.stopMcpServer)
  | .wait task, rest =>
    match (self.tasks task).map ServerTask.phase with
    | some .finished | none => (rest, self)
    | some .panicked => ([.report "MCP server task stopped unexpectedly"], self)
    | some .serving | some (.ending _) => (.wait task :: rest, self)
  | .report message, _ => ([], { self with handle.lastError := some message })
  | .snapshotPort port, rest =>
    let settings := self.handle.settings
    let changed := { settings with port, enabled := true }
    (if self.handle.running then
      .stop :: .configure changed :: .listen port (some (settings, self.handle.currentPort)) :: rest
    else .setPort port :: rest, self)
  | .setPort port, rest => (rest, { self with handle := { self.handle with
      settings := { self.handle.settings with port }
      lastError := none } })
  | .configure settings, rest => (rest, { self with handle.settings := settings })
  | .enable, rest => (rest, { self with handle.settings.enabled := true })
  | .setScope scope, rest =>
    let handle := self.handle.setConnectionScope scope
    (if world.saveFails.isNone then rest else [],
      { self with handle, stored := saveMcpSettings world.saveFails handle.settings self.stored })
  | .enforce scope, rest => (rest, { self with connectionScope := scope })
  | .save, rest =>
    (if world.saveFails.isNone then rest else [],
      { self with stored := saveMcpSettings world.saveFails self.handle.settings self.stored })

/-- A step that is not due leaves the state as it is. -/
def step (self : State) : Event → State
  | .invoke command invoked =>
    if self.commands command = [] then
      { self with commands := Function.update self.commands command invoked.sections }
    else self
  | .advance command world =>
    match self.commands command with
    | [] => self
    | due :: rest =>
      let (next, state) := self.perform world due rest
      { state with commands := Function.update self.commands command next }
  | .serveEnds task error =>
    match self.tasks task with
    | some found =>
      if found.phase = .serving ∧ (found.cancelled = true ∨ error.isSome) then
        self.setTask task fun found => { found with phase := .ending error }
      else self
    | none => self
  | .cleanup task =>
    match (self.tasks task).map ServerTask.phase with
    | some (.ending error) =>
      let handle := match error with
        | some error => { self.handle.cleared with lastError := some s!"MCP server stopped: {error}" }
        | none => self.handle.cleared
      { self.setTask task fun found => { found with phase := .finished } with handle }
    | _ => self
  | .panics task =>
    if (self.tasks task).map ServerTask.phase = some .serving then
      self.setTask task fun found => { found with phase := .panicked }
    else self

end State

end McpServer

end Pipa
