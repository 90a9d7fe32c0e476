import Pipa.Library.TextLines
import Pipa.SettingsRepository
import Mathlib.Tactic.IntervalCases

/-! What the application reads back of the preferences of the MCP server, however a save ended.
A save that fails halfway has written the fields before the failing statement. -/

namespace Pipa.SettingsRepository
open Statements

def noFaults : Nat → Faults := fun _ _ => none

section Reading
variable (library : UuidLibrary) (table : AppSettings)

def storedValue (key : String) : Option String := (table.find? key).map SettingRow.value

/-- What the rows say, with the defaults of the keys that are not there. -/
def storedSettings : McpSettings where
  enabled := ((storedValue table mcpEnabledKey).map parseFlag).getD false
  port := ((storedValue table mcpPortKey).bind parsePort).getD defaultMcpPort
  restrictToConnection := ((storedValue table mcpRestrictToConnectionKey).map parseFlag).getD false
  targetConnectionIds := ((storedValue table mcpTargetConnectionIdsKey).map (parseConnectionIds library)).getD
    (((storedValue table mcpTargetConnectionIdKey).map (parseConnectionId library)).getD [])

theorem getSetting_stored (key : String) : getSetting key (fun _ => none) table = (.ok (storedValue table key), table) := by
  rw [getSetting, storedValue]
  refine (bind_of_ok rfl).trans ((bind_of_ok rfl).trans ((bind_of_ok rfl).trans ?_))
  dsimp only
  cases table.find? key <;> rfl

/-- Without failures the application loads what the rows say. -/
theorem load_stored : loadMcpSettings library noFaults table = (.ok (storedSettings library table), table) := by
  rw [loadMcpSettings, storedSettings]
  refine (bind_of_ok rfl).trans ?_
  refine (bind_of_ok (getSetting_stored table mcpEnabledKey)).trans ?_
  refine (bind_of_ok (getSetting_stored table mcpPortKey)).trans ?_
  refine (bind_of_ok (getSetting_stored table mcpRestrictToConnectionKey)).trans ?_
  refine (bind_of_ok (getSetting_stored table mcpTargetConnectionIdsKey)).trans ?_
  cases storedValue table mcpTargetConnectionIdsKey with
  | some value => rfl
  | none => exact bind_of_ok (getSetting_stored table mcpTargetConnectionIdKey)

/-- A store that has none of the keys loads the defaults. -/
theorem load_default (missing : ∀ key ∈ [mcpEnabledKey, mcpPortKey, mcpRestrictToConnectionKey, mcpTargetConnectionIdsKey,
    mcpTargetConnectionIdKey], storedValue table key = none) :
    loadMcpSettings library noFaults table = (.ok defaultMcpSettings, table) := by
  simp only [List.forall_mem_cons, List.not_mem_nil, false_implies, implies_true, and_true] at missing
  obtain ⟨enabled, port, restriction, targets, target⟩ := missing
  rw [load_stored, storedSettings, enabled, port, restriction, targets, target]
  rfl

end Reading

section Writing
variable {library : UuidLibrary} {table : AppSettings}

theorem storedValue_put (key value other : String) :
    storedValue (putSetting key value table) other = if other = key then some value else storedValue table other := by
  split
  case isTrue same =>
    subst same
    have found : (putSetting other value table).find? other = some { key := other, value } := by
      apply KeyedTable.find?_insertOrUpdate
      rintro old rfl
      rfl
    rw [storedValue, found]
    rfl
  case isFalse differ => exact congrArg (Option.map SettingRow.value) (KeyedTable.find?_insertOrUpdate_other differ)

theorem parseFlag_write (flag : Bool) : parseFlag (writeFlag flag) = flag := by
  cases flag <;> decide

theorem parsePort_write {port : Nat} (positive : 0 < port) (narrow : port < 65536) : parsePort (toString port) = some port := by
  rw [parsePort, parseU16, Text.parseU64_toString (by omega)]
  simp [narrow, positive]

end Writing

section Identifiers

/-- The text of a UUID has neither commas nor white space. -/
theorem hyphenated_solid {id : Uuid} (hyphenated : id.isHyphenated) :
    ∀ c ∈ id.hyphenated.toList, c ≠ ',' ∧ Text.isWhitespace c = false := by
  have digits {c : Char} (digit : (c.isDigit || ('a' ≤ c && c ≤ 'f')) = true) : c ≠ ',' ∧ Text.isWhitespace c = false := by
    have bounds : (48 ≤ c.toNat ∧ c.toNat ≤ 57) ∨ (97 ≤ c.toNat ∧ c.toNat ≤ 102) := by
      simpa [Char.isDigit, Char.le_def, UInt32.le_iff_toNat_le] using digit
    constructor
    · rintro rfl
      exact absurd bounds (by decide)
    · simp [Text.isWhitespace]
      omega
  intro c member
  rcases TextLines.mem_splitOn '-' member with rfl | ⟨group, listed, inside⟩
  · decide
  · rw [Uuid.isHyphenated, Bool.and_eq_true, List.all_eq_true] at hyphenated
    exact digits (List.all_eq_true.mp (hyphenated.2 group listed) c inside)

theorem uniqueIds_of_nodup {ids : List Uuid} (distinct : ids.Nodup) : uniqueIds ids = ids := by
  have behind {front back : List Uuid} (distinct : (front ++ back).Nodup) :
      back.foldl (fun unique id => if unique.contains id then unique else unique ++ [id]) front = front ++ back := by
    induction back generalizing front with
    | nil => rw [List.foldl_nil, List.append_nil]
    | cons id back ih =>
      have fresh : front.contains id = false := by
        rw [Bool.eq_false_iff, ne_eq, List.contains_iff_mem]
        exact fun there => (List.nodup_append.mp distinct).2.2 id there id List.mem_cons_self rfl
      rw [List.append_cons] at distinct
      rw [List.foldl_cons, fresh, if_neg Bool.false_ne_true, ih distinct, ← List.append_cons]
  exact behind distinct

variable {library : UuidLibrary} {ids : List Uuid}

theorem parse_hyphenated {id : Uuid} (hyphenated : id.isHyphenated) :
    library.parseStr (Text.trim id.hyphenated) = some id := by
  rw [Text.trim, Text.trimMatches_of_none fun c member => (hyphenated_solid hyphenated c member).2]
  exact library.parse_hyphenated id hyphenated

/-- The targets are read as they were written. -/
theorem parseConnectionIds_write (distinct : ids.Nodup) (hyphenated : ∀ id ∈ ids, id.isHyphenated) :
    parseConnectionIds library (",".intercalate (ids.map toString)) = ids := by
  have read : (Text.split ',' (",".intercalate (ids.map toString))).filterMap (fun item => library.parseStr (Text.trim item)) =
      ids := by
    by_cases empty : ids = []
    · subst empty
      have nothing : library.parseStr (Text.trim "") = none := library.parse_empty
      exact List.filterMap_cons_none nothing
    · have free : ∀ text ∈ ids.map toString, ',' ∉ text.toList := by
        intro text listed comma
        obtain ⟨id, member, rfl⟩ := List.mem_map.mp listed
        exact (hyphenated_solid (hyphenated id member) ',' comma).1 rfl
      have comma : "," = String.singleton ',' := rfl
      rw [comma, Text.split_intercalate (by simpa using empty) free, List.filterMap_map]
      refine (List.filterMap_congr fun id member => ?_).trans List.filterMap_some
      exact parse_hyphenated (hyphenated id member)
  rw [parseConnectionIds, read, uniqueIds_of_nodup distinct]

end Identifiers

section Saving
variable {library : UuidLibrary} {settings : McpSettings}

/-- The change of each statement of a save. -/
def changes (settings : McpSettings) : List (AppSettings → AppSettings) :=
  [id, putSetting mcpEnabledKey (writeFlag settings.enabled), putSetting mcpPortKey (toString settings.port),
    putSetting mcpRestrictToConnectionKey (writeFlag settings.restrictToConnection),
    putSetting mcpTargetConnectionIdsKey (",".intercalate (settings.targetConnectionIds.map toString)),
    putSetting mcpTargetConnectionIdKey ((settings.targetConnectionIds.head?.map toString).getD "")]

def reported (faults : Faults) (place : Nat) : Option AppError :=
  (faults place).map <|
    if place = 0 then LocalStore.storageError "Could not initialize application settings" "create app_settings"
    else LocalStore.storageError "Could not save application settings" "upsert setting"

theorem save_writes (faults : Faults) : saveMcpSettings settings faults = writes (reported faults) (changes settings) := by
  simp only [saveMcpSettings, ensureAppSettingsTable, setSetting, mapError_execute]
  rfl

theorem failsAt_reported {faults : Faults} {place : Nat} : FailsAt (reported faults) place ↔ FailsAt faults place := by
  simp only [FailsAt, reported, Option.map_eq_none_iff, ne_eq]

/-- What the first statements of a save write of the settings. -/
def SameWritten (stored settings : McpSettings) (place : Nat) : Prop :=
  (1 < place → stored.enabled = settings.enabled) ∧ (2 < place → stored.port = settings.port) ∧
    (3 < place → stored.restrictToConnection = settings.restrictToConnection) ∧
    (4 < place → stored.targetConnectionIds = settings.targetConnectionIds)

/-- Settings that the application can save: a port, and the ids of different connections. -/
structure Saveable (settings : McpSettings) : Prop where
  positive : 0 < settings.port
  narrow : settings.port < 65536
  distinct : settings.targetConnectionIds.Nodup
  hyphenated : ∀ id ∈ settings.targetConnectionIds, id.isHyphenated

variable {table : AppSettings}

section Fields
variable {value : String}

/-! A statement changes the field of its key, and the last one changes none. -/

theorem stored_enabled {enabled : Bool} (read : parseFlag value = enabled) :
    storedSettings library (putSetting mcpEnabledKey value table) = { storedSettings library table with enabled } := by
  simp [storedSettings, storedValue_put, read, mcpEnabledKey, mcpPortKey, mcpRestrictToConnectionKey,
    mcpTargetConnectionIdsKey, mcpTargetConnectionIdKey]

theorem stored_port {port : Nat} (read : parsePort value = some port) :
    storedSettings library (putSetting mcpPortKey value table) = { storedSettings library table with port } := by
  simp [storedSettings, storedValue_put, read, mcpEnabledKey, mcpPortKey, mcpRestrictToConnectionKey,
    mcpTargetConnectionIdsKey, mcpTargetConnectionIdKey]

theorem stored_restriction {restrictToConnection : Bool} (read : parseFlag value = restrictToConnection) :
    storedSettings library (putSetting mcpRestrictToConnectionKey value table) =
      { storedSettings library table with restrictToConnection } := by
  simp [storedSettings, storedValue_put, read, mcpEnabledKey, mcpPortKey, mcpRestrictToConnectionKey,
    mcpTargetConnectionIdsKey, mcpTargetConnectionIdKey]

theorem stored_targets {targetConnectionIds : List Uuid} (read : parseConnectionIds library value = targetConnectionIds) :
    storedSettings library (putSetting mcpTargetConnectionIdsKey value table) =
      { storedSettings library table with targetConnectionIds } := by
  simp [storedSettings, storedValue_put, read, mcpEnabledKey, mcpPortKey, mcpRestrictToConnectionKey,
    mcpTargetConnectionIdsKey]

/-- The key of older versions is not read where the newer one is there. -/
theorem stored_target {newer : String} (present : storedValue table mcpTargetConnectionIdsKey = some newer) :
    storedSettings library (putSetting mcpTargetConnectionIdKey value table) = storedSettings library table := by
  rw [mcpTargetConnectionIdsKey] at present
  simp [storedSettings, storedValue_put, present, mcpEnabledKey, mcpPortKey, mcpRestrictToConnectionKey,
    mcpTargetConnectionIdsKey, mcpTargetConnectionIdKey]

end Fields

/-- Up to the key of older versions the statements of a save write the fields one by one. -/
theorem changes_follow (saveable : Saveable settings) :
    List.Forall₂ (fun change write => ∀ table, storedSettings library (change table) = write (storedSettings library table))
      ((changes settings).take 5) (id :: McpServer.settingsWrites settings) := by
  refine .cons (fun table => rfl) (.cons (fun table => ?_) (.cons (fun table => ?_) (.cons (fun table => ?_)
    (.cons (fun table => ?_) .nil))))
  · exact stored_enabled (parseFlag_write settings.enabled)
  · exact stored_port (parsePort_write saveable.positive saveable.narrow)
  · exact stored_restriction (parseFlag_write settings.restrictToConnection)
  · exact stored_targets (parseConnectionIds_write saveable.distinct saveable.hyphenated)

/-- A save that fails leaves what the server's model says. -/
theorem stored_prefix (saveable : Saveable settings) {place : Nat} (below : place < 6) :
    storedSettings library (applied ((changes settings).take place) table) =
      McpServer.saveMcpSettings (some (place - 1)) settings (storedSettings library table) := by
  have first : (changes settings).take place = ((changes settings).take 5).take place := by
    rw [List.take_take, Nat.min_eq_left (Nat.le_of_lt_succ below)]
  rw [first, applied_view (List.forall₂_take place (changes_follow saveable))]
  cases place <;> rfl

theorem stored_saved (saveable : Saveable settings) :
    storedSettings library (applied (changes settings) table) = settings := by
  have last : changes settings = (changes settings).take 5 ++
      [putSetting mcpTargetConnectionIdKey ((settings.targetConnectionIds.head?.map toString).getD "")] := rfl
  have targets : (changes settings).take 5 = (changes settings).take 4 ++
      [putSetting mcpTargetConnectionIdsKey (",".intercalate (settings.targetConnectionIds.map toString))] := rfl
  have present : storedValue (applied ((changes settings).take 5) table) mcpTargetConnectionIdsKey =
      some (",".intercalate (settings.targetConnectionIds.map toString)) := by
    rw [targets, applied_concat, storedValue_put, if_pos rfl]
  rw [last, applied_concat, stored_target present, stored_prefix saveable (by decide)]
  rfl

theorem sameWritten_iff {stored : McpSettings} {place : Nat} (below : place < 6) :
    McpServer.saveMcpSettings (some (place - 1)) settings stored = stored ↔ SameWritten stored settings place := by
  cases stored
  interval_cases place <;> simp [SameWritten, McpServer.saveMcpSettings, McpServer.settingsWrites, eq_comm]

/-- However a save ends, it leaves what the server's model of it says. -/
theorem save_follows (saveable : Saveable settings) (faults : Faults) :
    ∃ saveFails, (saveFails = none ↔ (saveMcpSettings settings faults table).1 = .ok ()) ∧
      storedSettings library ((saveMcpSettings settings faults).stored table) =
        McpServer.saveMcpSettings saveFails settings (storedSettings library table) := by
  rw [save_writes, Statements.stored]
  cases ended : writes (reported faults) (changes settings) table with
  | mk result after =>
    cases result with
    | ok value =>
      obtain ⟨-, rfl⟩ := writes_ok.mp ended
      refine ⟨none, by simp, ?_⟩
      dsimp only
      rw [stored_saved saveable]
      rfl
    | error error =>
      obtain ⟨place, below, -, -, rfl⟩ := writes_error.mp ended
      exact ⟨some (place - 1), by simp, stored_prefix saveable below⟩

/-- After an error the previous settings are loaded, and after a success the new ones. -/
def SavesAtomically (library : UuidLibrary) (previous settings : McpSettings) (faults : Faults) (table : AppSettings) : Prop :=
  (∀ error after, saveMcpSettings settings faults table = (.error error, after) →
      (loadMcpSettings library noFaults after).1 = .ok previous) ∧
    ∀ after, saveMcpSettings settings faults table = (.ok (), after) →
      (loadMcpSettings library noFaults after).1 = .ok settings

/-- A save is atomic exactly when what it writes before its first failing statement is
stored already. -/
theorem saves_atomically {previous : McpSettings} {faults : Faults} (saveable : Saveable settings)
    (loaded : (loadMcpSettings library noFaults table).1 = .ok previous) :
    SavesAtomically library previous settings faults table ↔
      ∀ place < 6, FailsAt faults place → SameWritten previous settings place := by
  rw [load_stored] at loaded
  obtain rfl := Except.ok.inj loaded
  simp only [SavesAtomically, save_writes, load_stored, Except.ok.injEq]
  have succeeds : ∀ after, writes (reported faults) (changes settings) table = (.ok (), after) →
      storedSettings library after = settings := by
    intro after ended
    obtain ⟨-, rfl⟩ := writes_ok.mp ended
    exact stored_saved saveable
  rw [and_iff_left succeeds, writes_atomic]
  refine forall_congr' fun place => forall_congr' fun below => ?_
  rw [failsAt_reported, stored_prefix saveable below, sameWritten_iff below]

end Saving

/-- Reads the hyphenated form only. -/
def hyphenatedUuids : UuidLibrary where
  parseStr text := if Uuid.isHyphenated ⟨text⟩ then some ⟨text⟩ else none
  parse_hyphenated _ hyphenated := if_pos hyphenated
  parse_empty := by decide

def orders : Uuid := ⟨"8f14e45f-ceea-467f-9a2b-0c1d2e3f4a5b"⟩

def restricted : McpSettings := ⟨true, 3847, true, [orders]⟩

def unrestricted : McpSettings := ⟨true, 3847, false, []⟩

theorem restricted_saveable : Saveable restricted where
  positive := by decide
  narrow := by decide
  distinct := by decide
  hyphenated := by decide +kernel

theorem unrestricted_saveable : Saveable unrestricted where
  positive := by decide
  narrow := by decide
  distinct := by decide
  hyphenated := by decide

/-- The settings of a store in which the restricted ones were saved. -/
def restrictedTable : AppSettings := (saveMcpSettings restricted fun _ => none).stored default

/-- The database refuses one statement of a save. -/
def fullAt (refused place : Nat) : Option String := if place = refused then some "database or disk is full" else none

theorem fails_fullAt {refused place : Nat} : FailsAt (fullAt refused) place ↔ place = refused := by
  constructor
  · intro fails
    by_contra differ
    exact fails.2 (if_neg differ)
  · rintro rfl
    refine ⟨fun earlier before => if_neg (Nat.ne_of_lt before), ?_⟩
    rw [fullAt, if_pos rfl]
    exact Option.some_ne_none _

theorem restricted_loaded : (loadMcpSettings hyphenatedUuids noFaults restrictedTable).1 = .ok restricted := by
  have saved : writes (reported fun _ => none) (changes restricted) default = (.ok (), applied (changes restricted) default) :=
    writes_ok.mpr ⟨fun place below => rfl, rfl⟩
  rw [load_stored, restrictedTable, save_writes, Statements.stored, saved, stored_saved restricted_saveable]

theorem saves_atomically_unchanged : SavesAtomically hyphenatedUuids restricted unrestricted (fullAt 3) restrictedTable := by
  refine (saves_atomically unrestricted_saveable restricted_loaded).mpr fun place below fails => ?_
  obtain rfl := fails_fullAt.mp fails
  exact ⟨fun _ => rfl, fun _ => rfl, fun written => absurd written (by decide), fun written => absurd written (by decide)⟩

/-- The restriction is lifted by a save that reports an error. -/
theorem failed_save_lifts_restriction :
    Saveable unrestricted ∧ (loadMcpSettings hyphenatedUuids noFaults restrictedTable).1 = .ok restricted ∧
      (loadMcpSettings hyphenatedUuids noFaults ((saveMcpSettings unrestricted (fullAt 4)).stored restrictedTable)).1 =
        .ok ⟨true, 3847, false, [orders]⟩ ∧
      ¬ SavesAtomically hyphenatedUuids restricted unrestricted (fullAt 4) restrictedTable := by
  obtain ⟨error, refused⟩ := Option.ne_none_iff_exists'.mp (failsAt_reported.mpr (fails_fullAt.mpr rfl)).2
  have ended : saveMcpSettings unrestricted (fullAt 4) restrictedTable =
      (.error error, applied ((changes unrestricted).take 4) restrictedTable) := by
    rw [save_writes]
    exact writes_error.mpr ⟨4, by decide, failsAt_reported.mpr (fails_fullAt.mpr rfl), refused, rfl⟩
  have before := restricted_loaded
  rw [load_stored] at before
  have mixture : (loadMcpSettings hyphenatedUuids noFaults (applied ((changes unrestricted).take 4) restrictedTable)).1 =
      .ok ⟨true, 3847, false, [orders]⟩ := by
    rw [load_stored, stored_prefix unrestricted_saveable (by decide), Except.ok.inj before]
    rfl
  refine ⟨unrestricted_saveable, restricted_loaded, ?_, ?_⟩
  · rw [Statements.stored, ended]
    exact mixture
  · intro atomic
    have kept := mixture.symm.trans (atomic.1 error _ ended)
    exact absurd kept (by decide)

end Pipa.SettingsRepository
