import Pipa.Text
import Mathlib.Logic.Function.Basic

/-! The registry of keyboard shortcuts: binding texts and their normal form, the events
that match them, and the changes that the settings make. -/

namespace Pipa.Shortcuts
open Text

inductive ShortcutActionId where
  | commandPalette | shortcutHelp | toggleSidebar
  | newQuery | closeWorkspace | nextWorkspace | previousWorkspace
  | executeQuery | cancelQuery | selectSql
  | find | copyResultSelection | viewResultCell
  | selectRows | saveTable
deriving DecidableEq, Repr

abbrev ShortcutBindings := ShortcutActionId → String

structure ShortcutDefinition where
  id : ShortcutActionId
  defaultBinding : String
deriving DecidableEq, Repr

structure KeyboardShortcutEvent where
  altKey : Bool
  ctrlKey : Bool
  key : String
  metaKey : Bool
  shiftKey : Bool
deriving DecidableEq, Repr

/-- The case conversions of the host; the first one depends on its locale. -/
structure CaseMapping where
  toLocaleLowerCase : String → String
  toUpperCase : String → String

def modifierKeys : List String := ["Alt", "Control", "Meta", "Shift"]

def shortcutDefinitions : List ShortcutDefinition := [
  ⟨.commandPalette, "Mod+Shift+P"⟩,
  ⟨.shortcutHelp, "Mod+/"⟩,
  ⟨.toggleSidebar, "Mod+B"⟩,
  ⟨.newQuery, "Mod+T"⟩,
  ⟨.closeWorkspace, "Mod+W"⟩,
  ⟨.nextWorkspace, "Ctrl+Tab"⟩,
  ⟨.previousWorkspace, "Ctrl+Shift+Tab"⟩,
  ⟨.executeQuery, "Mod+R"⟩,
  ⟨.cancelQuery, "Mod+."⟩,
  ⟨.selectSql, "Mod+L"⟩,
  ⟨.find, "Mod+F"⟩,
  ⟨.copyResultSelection, "Mod+C"⟩,
  ⟨.viewResultCell, "F2"⟩,
  ⟨.selectRows, "Mod+A"⟩,
  ⟨.saveTable, "Mod+S"⟩]

/-- The definition of an action; every action has one. -/
def shortcutDefinition (actionId : ShortcutActionId) : Option ShortcutDefinition :=
  shortcutDefinitions.find? (·.id = actionId)

def getDefaultShortcutBindings : ShortcutBindings := fun actionId =>
  ((shortcutDefinition actionId).map ShortcutDefinition.defaultBinding).getD ""

section
variable (js : CaseMapping)

/-- What `/[a-z]/iu` matches of one character. -/
def isLetter (c : Char) : Bool := c.isAlpha || c == '\u017F' || c == '\u212A'

/-- Converts browser key names into stable, human-readable binding tokens. A character
beyond the first plane is two units of text, and the first of them has no case. -/
def normalizePrimaryKey (key : String) : Option String :=
  if key = "" ∨ modifierKeys.contains key then none
  else if key = " " then some "Space"
  else if key = "Esc" then some "Escape"
  else if key = "Spacebar" then some "Space"
  else if key = "Del" then some "Delete"
  else if key = "ArrowUp" ∨ key = "ArrowDown" ∨ key = "ArrowLeft" ∨ key = "ArrowRight" then some key
  else match key.toList with
    | [] => none
    | first :: rest =>
      if 0x10000 ≤ first.toNat then some key
      else if rest = [] then some (if isLetter first then js.toUpperCase key else key)
      else some (js.toUpperCase (String.singleton first) ++ String.ofList rest)

def modifierNames : List String := ["mod", "cmd", "meta", "ctrl", "control", "alt", "option", "shift"]

def modifierOrder : List (String × List String) :=
  [("Mod", ["mod", "cmd", "meta"]), ("Ctrl", ["ctrl", "control"]), ("Alt", ["alt", "option"]), ("Shift", ["shift"])]

def rawTokens (binding : String) : List String := ((split '+' binding).map jsTrim).filter (· ≠ "")

/-- The modifiers of a binding in their order, without repetitions. -/
def modifiers (binding : String) : List String :=
  (modifierOrder.filter fun modifier =>
    (rawTokens binding).any fun token => modifier.2.contains (js.toLocaleLowerCase token)).map Prod.fst

/-- Normalizes a persisted or programmatic binding and rejects incomplete input. -/
def normalizeShortcut (binding : String) : Option String :=
  match (rawTokens binding).find? fun token => !modifierNames.contains (js.toLocaleLowerCase token) with
  | none => none
  | some primaryToken =>
    ((normalizePrimaryKey js primaryToken).filter (· ≠ "")).map fun primaryKey =>
      String.intercalate "+" (modifiers js binding ++ [primaryKey])

def functionKeys : List String := ["F1", "F2", "F3", "F4", "F5", "F6", "F7", "F8", "F9", "F10", "F11", "F12"]

/-- Rejects bare character bindings that would interfere with ordinary input. -/
def isSafeShortcutBinding (binding : String) : Bool :=
  match normalizeShortcut js binding with
  | none => false
  | some normalizedBinding =>
    let tokens := split '+' normalizedBinding
    (tokens.any fun token => token = "Mod" || token = "Ctrl" || token = "Alt") ||
      functionKeys.contains (tokens.getLast?.getD "")

/-- Checks whether a keyboard event matches a binding. -/
def matchesShortcut (event : KeyboardShortcutEvent) (binding : String) : Bool :=
  match normalizeShortcut js binding with
  | none => false
  | some normalizedBinding =>
    let tokens := split '+' normalizedBinding
    if tokens.getLast? ≠ normalizePrimaryKey js event.key then false
    else
      let usesMod := tokens.contains "Mod"
      let expectsCtrl := tokens.contains "Ctrl"
      let expectsAlt := tokens.contains "Alt"
      let expectsShift := tokens.contains "Shift"
      let modMatches := if usesMod then event.metaKey || event.ctrlKey else !event.metaKey
      let ctrlMatches :=
        if usesMod then if expectsCtrl then event.ctrlKey else !(event.metaKey && event.ctrlKey)
        else event.ctrlKey == expectsCtrl
      modMatches && ctrlMatches && event.altKey == expectsAlt && event.shiftKey == expectsShift

/-! ### Changes of the bindings -/

/-- Another action has this normal form. -/
def hasConflict (bindings : ShortcutBindings) (actionId : ShortcutActionId) (normalized : Option String) : Bool :=
  shortcutDefinitions.any fun candidate => candidate.id ≠ actionId && normalizeShortcut js (bindings candidate.id) = normalized

/-- Applies one safe normalized binding unless it is already assigned to another action. -/
def updateShortcutBinding (bindings : ShortcutBindings) (actionId : ShortcutActionId) (binding : String) : ShortcutBindings × Bool :=
  match normalizeShortcut js binding, shortcutDefinition actionId with
  | some normalized, some _ =>
    if isSafeShortcutBinding js normalized = false ∨ hasConflict js bindings actionId (some normalized) then (bindings, false)
    else (Function.update bindings actionId normalized, true)
  | _, _ => (bindings, false)

/-- Restores one action only when another customized action has not claimed its default. -/
def resetShortcutBinding (bindings : ShortcutBindings) (actionId : ShortcutActionId) : ShortcutBindings × Bool :=
  match shortcutDefinition actionId with
  | none => (bindings, false)
  | some definition =>
    if hasConflict js bindings actionId (normalizeShortcut js definition.defaultBinding) then (bindings, false)
    else (Function.update bindings actionId definition.defaultBinding, true)

/-- Restores every configurable action to its registry default. -/
def resetAllShortcutBindings : ShortcutBindings := getDefaultShortcutBindings

/-- A call of the settings. -/
inductive Call where
  | updateShortcutBinding (actionId : ShortcutActionId) (binding : String)
  | resetShortcutBinding (actionId : ShortcutActionId)
  | resetAllShortcutBindings
deriving DecidableEq, Repr

/-- The bindings after a call. -/
def step (bindings : ShortcutBindings) : Call → ShortcutBindings
  | .updateShortcutBinding actionId binding => (updateShortcutBinding js bindings actionId binding).1
  | .resetShortcutBinding actionId => (resetShortcutBinding js bindings actionId).1
  | .resetAllShortcutBindings => resetAllShortcutBindings

end

end Pipa.Shortcuts
