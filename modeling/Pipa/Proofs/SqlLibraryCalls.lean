import Pipa.Proofs.StoreCalls

/-! What the calls of the library leave. A save checks the engine, the name and the
directory before it writes, so one that fails has written nothing. -/

namespace Pipa.SqlLibraryRepository
open Statements LocalStore

variable {store after : LocalStore} {faults : Faults}

theorem upsertFolder_ok {folder : SqlFolder} {fault : Option String} {value : Unit}
    (put : upsertFolder folder fault store = (.ok value, after)) :
    ∃ sqlFolders, sqlFolders = store.sqlFolders.insertOrUpdate folder
        (fun old => { old with name := folder.name, updatedAt := folder.updatedAt }) (fun _ => rfl) ∧
      uniqueNames sqlFolders.rows = true ∧ after = { store with sqlFolders } := by
  obtain ⟨-, wrote⟩ := execute_ok.mp put
  dsimp only at wrote
  split at wrote
  case isTrue unique => exact ⟨_, rfl, unique, (Prod.mk.inj (Except.ok.inj wrote)).2.symm⟩
  case isFalse => cases wrote

/-- A saved directory was stored for its engine, or not at all. -/
theorem saveSqlFolder_ok {id : Uuid} {engine : Engine} {name now : String} {result : SqlFolder}
    (saved : saveSqlFolder id engine name now faults store = (.ok result, after)) :
    (∀ old ∈ store.sqlFolders.rows, old.id = id → old.engine = engine) ∧
      ∃ sqlFolders, sqlFolders = store.sqlFolders.insertOrUpdate { id, engine, name, updatedAt := now }
          (fun old => { old with name, updatedAt := now }) (fun _ => rfl) ∧
        uniqueNames sqlFolders.rows = true ∧ after = { store with sqlFolders } := by
  rw [saveSqlFolder, bind_ok] at saved
  obtain ⟨existing, between, first, rest⟩ := saved
  obtain ⟨-, found, rfl⟩ := query_ok.mp (mapError_ok.mp first)
  split at rest
  · exact absurd rest fail_ok
  case isFalse same =>
    rw [bind_ok] at rest
    obtain ⟨duplicate, between, second, rest⟩ := rest
    obtain ⟨-, -, rfl⟩ := query_ok.mp (mapError_ok.mp second)
    split at rest
    · exact absurd rest fail_ok
    simp only [bind_ok] at rest
    obtain ⟨_, between, put, ended⟩ := rest
    obtain ⟨-, rfl⟩ := pure_ok.mp ended
    refine ⟨fun old member equal => ?_, upsertFolder_ok (mapError_ok.mp put)⟩
    rw [KeyedTable.find?_some.mpr ⟨member, equal⟩] at found
    rw [← found] at same
    simpa using same

theorem saveSqlFolder_clean (id : Uuid) (engine : Engine) (name now : String) :
    (saveSqlFolder id engine name now faults).Clean := by
  refine ReadOnly.bind_clean ((preserves_query _ _).mapError _) fun existing => ?_
  split
  · exact ReadOnly.clean (preserves_fail _)
  refine ReadOnly.bind_clean ((preserves_query _ _).mapError _) fun duplicate => ?_
  split
  · exact ReadOnly.clean (preserves_fail _)
  · exact ((clean_execute _ _).mapError _).bind_pure _

theorem deleteSqlFolder_clean (id : Uuid) : (deleteSqlFolder id faults).Clean :=
  (clean_execute _ _).mapError _

theorem deleteSqlFolder_ok {id : Uuid} {value : Unit} (deleted : deleteSqlFolder id faults store = (.ok value, after)) :
    after = { store with
      sqlFolders := store.sqlFolders.deleteWhere fun row => row.id = id
      commonSql := store.commonSql.updateWhere (fun row => row.folderId = some id) (fun row => { row with folderId := none })
        fun _ => rfl } :=
  (write_ok.mp (mapError_ok.mp deleted)).2

theorem checkFolder_ok {folderId : Option Uuid} {engine : Engine} {fault : Option String} {value : Unit}
    (checked : checkFolder folderId engine fault store = (.ok value, after)) :
    after = store ∧ ∀ id, folderId = some id → ∃ folder ∈ store.sqlFolders.rows, folder.id = id ∧ folder.engine = engine := by
  cases folderId with
  | none =>
    obtain ⟨-, rfl⟩ := pure_ok.mp checked
    exact ⟨rfl, by simp⟩
  | some folderId =>
    rw [checkFolder, bind_ok] at checked
    obtain ⟨folderEngine, between, read, rest⟩ := checked
    obtain ⟨-, found, rfl⟩ := query_ok.mp (mapError_ok.mp read)
    cases folderEngine with
    | none => exact absurd rest fail_ok
    | some value =>
      dsimp only at rest
      split at rest
      · exact absurd rest fail_ok
      case isFalse same =>
        obtain ⟨-, rfl⟩ := pure_ok.mp rest
        obtain ⟨folder, there, kind⟩ := Option.map_eq_some_iff.mp found
        obtain ⟨member, named⟩ := KeyedTable.find?_some.mp there
        refine ⟨rfl, fun id equal => ⟨folder, member, named.trans (Option.some.inj equal), ?_⟩⟩
        rw [kind, not_not.mp same]

theorem checkFolder_readOnly (folderId : Option Uuid) (engine : Engine) (fault : Option String) :
    (checkFolder folderId engine fault).ReadOnly := by
  cases folderId with
  | none => exact preserves_pure _
  | some folderId =>
    refine Preserves.bind ((preserves_query _ _).mapError _) fun folderEngine => ?_
    cases folderEngine with
    | none => exact preserves_fail _
    | some value =>
      dsimp only
      split
      · exact preserves_fail _
      · exact preserves_pure _

theorem upsertEntry_ok {entry : CommonSql} {fault : Option String} {value : Unit}
    (put : upsertEntry entry fault store = (.ok value, after)) :
    ∃ commonSql, after = { store with commonSql } ∧ commonSql = store.commonSql.insertOrUpdate entry
      (fun old => { old with
        folderId := entry.folderId, name := entry.name, sqlText := entry.sqlText, updatedAt := entry.updatedAt })
      (fun _ => rfl) := by
  obtain ⟨-, wrote⟩ := execute_ok.mp put
  split at wrote
  · exact ⟨_, (Prod.mk.inj (Except.ok.inj wrote)).2.symm, rfl⟩
  · cases wrote

/-- A saved entry was stored for its engine, or not at all, and its directory has that engine. -/
theorem saveCommonSql_ok {id : Uuid} {engine : Engine} {folderId : Option Uuid} {name sqlText now : String} {result : CommonSql}
    (saved : saveCommonSql id engine folderId name sqlText now faults store = (.ok result, after)) :
    (∀ old ∈ store.commonSql.rows, old.id = id → old.engine = engine) ∧
      (∀ folder, folderId = some folder → ∃ row ∈ store.sqlFolders.rows, row.id = folder ∧ row.engine = engine) ∧
        ∃ commonSql, after = { store with commonSql } ∧
          commonSql = store.commonSql.insertOrUpdate { id, engine, folderId, name, sqlText, updatedAt := now }
            (fun old => { old with folderId, name, sqlText, updatedAt := now }) (fun _ => rfl) := by
  rw [saveCommonSql, bind_ok] at saved
  obtain ⟨existing, between, first, rest⟩ := saved
  obtain ⟨-, found, rfl⟩ := query_ok.mp (mapError_ok.mp first)
  split at rest
  · exact absurd rest fail_ok
  case isFalse same =>
    simp only [bind_ok] at rest
    obtain ⟨_, _, checked, _, _, put, ended⟩ := rest
    obtain ⟨rfl, filed⟩ := checkFolder_ok checked
    obtain ⟨-, rfl⟩ := pure_ok.mp ended
    refine ⟨fun old member equal => ?_, filed, upsertEntry_ok (mapError_ok.mp put)⟩
    rw [KeyedTable.find?_some.mpr ⟨member, equal⟩] at found
    rw [← found] at same
    simpa using same

theorem saveCommonSql_clean (id : Uuid) (engine : Engine) (folderId : Option Uuid) (name sqlText now : String) :
    (saveCommonSql id engine folderId name sqlText now faults).Clean := by
  refine ReadOnly.bind_clean ((preserves_query _ _).mapError _) fun existing => ?_
  split
  · exact ReadOnly.clean (preserves_fail _)
  · exact ReadOnly.bind_clean (checkFolder_readOnly _ _ _) fun _ => ((clean_execute _ _).mapError _).bind_pure _

theorem deleteCommonSql_ok {id : Uuid} {value : Unit} (deleted : deleteCommonSql id faults store = (.ok value, after)) :
    after = { store with commonSql := store.commonSql.deleteWhere fun row => row.id = id } :=
  (write_ok.mp (mapError_ok.mp deleted)).2

theorem deleteCommonSql_clean (id : Uuid) : (deleteCommonSql id faults).Clean :=
  (clean_execute _ _).mapError _

section Frame
variable {ν : Type} {view : LocalStore → ν}
  (same : ∀ (store : LocalStore) sqlFolders commonSql, view { store with sqlFolders, commonSql } = view store)
include same

theorem saveSqlFolder_preserves (id : Uuid) (engine : Engine) (name now : String) :
    (saveSqlFolder id engine name now faults).Preserves view := by
  intro store
  rcases (saveSqlFolder_clean id engine name now).stored store with unchanged | ⟨folder, ended⟩
  · rw [unchanged]
  · obtain ⟨-, sqlFolders, -, -, changed⟩ := saveSqlFolder_ok ended
    rw [changed]
    exact same store _ _

theorem deleteSqlFolder_preserves (id : Uuid) : (deleteSqlFolder id faults).Preserves view :=
  (write_preserves fun store => same store _ _).mapError _

theorem saveCommonSql_preserves (id : Uuid) (engine : Engine) (folderId : Option Uuid) (name sqlText now : String) :
    (saveCommonSql id engine folderId name sqlText now faults).Preserves view := by
  intro store
  rcases (saveCommonSql_clean id engine folderId name sqlText now).stored store with unchanged | ⟨entry, ended⟩
  · rw [unchanged]
  · obtain ⟨-, -, commonSql, changed, -⟩ := saveCommonSql_ok ended
    rw [changed]
    exact same store _ _

theorem deleteCommonSql_preserves (id : Uuid) : (deleteCommonSql id faults).Preserves view :=
  (write_preserves fun store => same store _ _).mapError _

end Frame

end Pipa.SqlLibraryRepository

namespace Pipa.StoreCommands
open Statements

variable {faults : Faults} {ν : Type} {view : LocalStore → ν}

section Frame
variable (same : ∀ (store : LocalStore) sqlFolders commonSql, view { store with sqlFolders, commonSql } = view store)
include same

theorem saveSqlFolder_preserves (id : Uuid) (engine : Engine) (name now : String) :
    (saveSqlFolder id engine name now faults).Preserves view := by
  rw [saveSqlFolder]
  split
  · exact preserves_fail _
  · exact SqlLibraryRepository.saveSqlFolder_preserves same _ _ _ _

theorem saveCommonSql_preserves (id : Uuid) (engine : Engine) (folderId : Option Uuid) (name sqlText now : String) :
    (saveCommonSql id engine folderId name sqlText now faults).Preserves view := by
  rw [saveCommonSql]
  split
  · exact preserves_fail _
  split
  · exact preserves_fail _
  split
  · exact preserves_fail _
  · exact SqlLibraryRepository.saveCommonSql_preserves same _ _ _ _ _ _

end Frame

section Frame
variable (same : ∀ (store : LocalStore) connections credentials workspaceTabs queryHistory,
    view { store with connections, credentials, workspaceTabs, queryHistory } = view store)
include same

theorem saveMysqlConnection_preserves (profile : SavedProfile) (password now : String) :
    (saveMysqlConnection profile password now faults).Preserves view := by
  rw [saveMysqlConnection]
  split
  · exact preserves_fail _
  · exact (ConnectionRepository.saveConnectionWithCredential_preserves same _ _ _).bind fun _ => preserves_pure _

theorem saveRedisConnection_preserves (profile : SavedProfile) (password now : String) :
    (saveRedisConnection profile password now faults).Preserves view := by
  rw [saveRedisConnection]
  split
  · exact preserves_fail _
  · exact (ConnectionRepository.saveConnectionWithCredential_preserves same _ _ _).bind fun _ => preserves_pure _

theorem renameConnection_preserves (connectionId : Uuid) (name now : String) :
    (renameConnection connectionId name now faults).Preserves view := by
  rw [renameConnection]
  split
  · exact preserves_fail _
  · exact ConnectionRepository.renameConnection_preserves same _ _ _

theorem updateConnectionProfile_preserves (profile : SavedProfile) (now : String) :
    (updateConnectionProfile profile now faults).Preserves view := by
  rw [updateConnectionProfile]
  split
  · exact preserves_fail _
  split
  · exact preserves_fail _
  split
  · exact preserves_fail _
  split
  · exact preserves_fail _
  · exact ConnectionRepository.updateConnectionProfile_preserves same _ _

end Frame

end Pipa.StoreCommands
