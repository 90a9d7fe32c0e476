import Mathlib.Data.String.Basic
import Pipa.ColumnPatterns
import Pipa.Library.Runs
import Pipa.Proofs.SqlLibraryCalls

/-! The library over whole runs of the store. What keeps an entry with a directory of its
own engine is that neither of the two can change the engine it was made for. -/

namespace Pipa.StoreCommands
open Statements SqlLibraryRepository

variable {store after : LocalStore} {faults : Faults}

/-- What a call can do to the library. -/
inductive LibraryChange (store after : LocalStore) : Prop where
  | unchanged (folders : after.sqlFolders = store.sqlFolders) (entries : after.commonSql = store.commonSql)
  | folderSaved (id : Uuid) (engine : Engine) (name now : String)
      (own : ∀ old ∈ store.sqlFolders.rows, old.id = id → old.engine = engine)
      (folders : after.sqlFolders = store.sqlFolders.insertOrUpdate { id, engine, name, updatedAt := now }
        (fun old => { old with name, updatedAt := now }) fun _ => rfl)
      (unique : uniqueNames after.sqlFolders.rows = true) (entries : after.commonSql = store.commonSql)
  | folderDeleted (id : Uuid) (folders : after.sqlFolders = store.sqlFolders.deleteWhere fun row => row.id = id)
      (entries : after.commonSql = store.commonSql.updateWhere (fun row => row.folderId = some id)
        (fun row => { row with folderId := none }) fun _ => rfl)
  | entrySaved (id : Uuid) (engine : Engine) (folderId : Option Uuid) (name sqlText now : String)
      (own : ∀ old ∈ store.commonSql.rows, old.id = id → old.engine = engine)
      (filed : ∀ folder, folderId = some folder → ∃ row ∈ store.sqlFolders.rows, row.id = folder ∧ row.engine = engine)
      (folders : after.sqlFolders = store.sqlFolders)
      (entries : after.commonSql = store.commonSql.insertOrUpdate { id, engine, folderId, name, sqlText, updatedAt := now }
        (fun old => { old with folderId, name, sqlText, updatedAt := now }) fun _ => rfl)
  | entryDeleted (id : Uuid) (folders : after.sqlFolders = store.sqlFolders)
      (entries : after.commonSql = store.commonSql.deleteWhere fun row => row.id = id)

namespace LibraryChange

theorem of_preserves {program : Storing Unit} (kept : program.Preserves fun store => (store.sqlFolders, store.commonSql)) :
    LibraryChange store (program.stored store) :=
  .unchanged (Prod.mk.inj (kept store)).1 (Prod.mk.inj (kept store)).2

theorem saveSqlFolder (id : Uuid) (engine : Engine) (name now : String) :
    LibraryChange store ((SqlLibraryRepository.saveSqlFolder id engine name now faults).stored store) := by
  rcases (saveSqlFolder_clean id engine name now).stored store with same | ⟨folder, ended⟩
  · rw [same]
    exact .unchanged rfl rfl
  · obtain ⟨own, sqlFolders, put, unique, changed⟩ := saveSqlFolder_ok ended
    rw [changed]
    exact .folderSaved id engine name now own put unique rfl

theorem saveCommonSql (id : Uuid) (engine : Engine) (folderId : Option Uuid) (name sqlText now : String) :
    LibraryChange store ((SqlLibraryRepository.saveCommonSql id engine folderId name sqlText now faults).stored store) := by
  rcases (saveCommonSql_clean id engine folderId name sqlText now).stored store with same | ⟨entry, ended⟩
  · rw [same]
    exact .unchanged rfl rfl
  · obtain ⟨own, filed, commonSql, changed, put⟩ := saveCommonSql_ok ended
    rw [changed]
    exact .entrySaved id engine folderId name sqlText now own filed rfl put

theorem deleteSqlFolder (id : Uuid) :
    LibraryChange store ((SqlLibraryRepository.deleteSqlFolder id faults).stored store) := by
  rcases (deleteSqlFolder_clean id).stored store with same | ⟨value, ended⟩
  · rw [same]
    exact .unchanged rfl rfl
  · rw [deleteSqlFolder_ok ended]
    exact .folderDeleted id rfl rfl

theorem deleteCommonSql (id : Uuid) :
    LibraryChange store ((SqlLibraryRepository.deleteCommonSql id faults).stored store) := by
  rcases (deleteCommonSql_clean id).stored store with same | ⟨value, ended⟩
  · rw [same]
    exact .unchanged rfl rfl
  · rw [deleteCommonSql_ok ended]
    exact .entryDeleted id rfl rfl

/-- What a program leaves whose result is thrown away. -/
theorem discard {α : Type} {program : Storing α} (change : LibraryChange store (program.stored store)) :
    LibraryChange store ((do let _ ← program : Storing Unit).stored store) := by
  have same : (do let _ ← program : Storing Unit).stored store = program.stored store := by
    show (Statements.bind _ _ store).2 = _
    rw [Statements.bind, Statements.stored]
    rcases program store with ⟨_ | _, after⟩ <;> rfl
  rw [same]
  exact change

end LibraryChange

/-- Every call makes one of the changes. -/
theorem step_library (store : LocalStore) (call : Call) : LibraryChange store (step store call) := by
  obtain ⟨command, now, faults⟩ := call
  cases command with
  | saveMysqlConnection profile password =>
    exact .of_preserves ((saveMysqlConnection_preserves (fun _ _ _ _ _ => rfl) _ _ _).bind fun _ => preserves_pure _)
  | saveRedisConnection profile password =>
    exact .of_preserves ((saveRedisConnection_preserves (fun _ _ _ _ _ => rfl) _ _ _).bind fun _ => preserves_pure _)
  | renameConnection connectionId name =>
    exact .of_preserves ((renameConnection_preserves (fun _ _ _ _ _ => rfl) _ _ _).bind fun _ => preserves_pure _)
  | updateConnectionProfile profile =>
    exact .of_preserves ((updateConnectionProfile_preserves (fun _ _ _ _ _ => rfl) _ _).bind fun _ => preserves_pure _)
  | deleteConnection connectionId =>
    exact .of_preserves (ConnectionRepository.deleteConnection_preserves (fun _ _ _ _ _ => rfl) _)
  | saveWorkspace windowLabel tabs =>
    exact .of_preserves (WorkspaceRepository.saveWorkspace_preserves (fun _ _ => rfl) _ _)
  | transferWorkspaceTab tab sourceWindowLabel targetWindowLabel =>
    exact .of_preserves (WorkspaceRepository.transferWorkspaceTab_preserves (fun _ _ => rfl) _ _ _)
  | recordQueryHistory queryId connectionId sql =>
    exact .of_preserves (WorkspaceRepository.recordQueryHistory_preserves (fun _ _ => rfl) _)
  | saveSqlFolder id engine name =>
    refine .discard ?_
    rw [StoreCommands.saveSqlFolder]
    split
    · exact .unchanged rfl rfl
    · exact .saveSqlFolder ..
  | deleteSqlFolder id => exact .deleteSqlFolder id
  | saveCommonSql id engine folderId name sqlText =>
    refine .discard ?_
    rw [StoreCommands.saveCommonSql]
    split
    · exact .unchanged rfl rfl
    split
    · exact .unchanged rfl rfl
    split
    · exact .unchanged rfl rfl
    · exact .saveCommonSql ..
  | deleteCommonSql id => exact .deleteCommonSql id

/-- What every reachable library keeps. -/
structure Filed (store : LocalStore) : Prop where
  folder : ∀ entry ∈ store.commonSql.rows, ∀ folderId, entry.folderId = some folderId →
    ∃ folder ∈ store.sqlFolders.rows, folder.id = folderId ∧ folder.engine = entry.engine
  unique : uniqueNames store.sqlFolders.rows = true

namespace LibraryChange

/-- A directory that is stored keeps its engine. -/
theorem folderKept (change : LibraryChange store after) : KeyedTable.Keeps SqlFolder.engine store.sqlFolders after.sqlFolders := by
  cases change with
  | unchanged folders entries =>
    rw [folders]
    exact KeyedTable.keeps_refl _
  | folderSaved id engine name now own folders unique entries =>
    rw [folders]
    exact KeyedTable.keeps_insertOrUpdate.mpr fun old _ _ => rfl
  | folderDeleted id folders entries =>
    rw [folders]
    exact KeyedTable.keeps_deleteWhere
  | entrySaved id engine folderId name sqlText now own filed folders entries =>
    rw [folders]
    exact KeyedTable.keeps_refl _
  | entryDeleted id folders entries =>
    rw [folders]
    exact KeyedTable.keeps_refl _

theorem entryKept (change : LibraryChange store after) : KeyedTable.Keeps CommonSql.engine store.commonSql after.commonSql := by
  cases change with
  | unchanged folders entries =>
    rw [entries]
    exact KeyedTable.keeps_refl _
  | folderSaved id engine name now own folders unique entries =>
    rw [entries]
    exact KeyedTable.keeps_refl _
  | folderDeleted id folders entries =>
    rw [entries]
    exact KeyedTable.keeps_updateWhere _ fun _ => rfl
  | entrySaved id engine folderId name sqlText now own filed folders entries =>
    rw [entries]
    exact KeyedTable.keeps_insertOrUpdate.mpr fun old _ _ => rfl
  | entryDeleted id folders entries =>
    rw [entries]
    exact KeyedTable.keeps_deleteWhere

/-- A directory that is saved again stays where it is, and so does every other one. -/
theorem folder_stays {folder put : SqlFolder} {name now : String} (there : folder ∈ store.sqlFolders.rows) :
    ∃ stays ∈ (store.sqlFolders.insertOrUpdate put (fun old => { old with name, updatedAt := now }) fun _ => rfl).rows,
      stays.id = folder.id ∧ stays.engine = folder.engine := by
  by_cases same : folder.id = put.id
  · exact ⟨_, KeyedTable.mem_insertOrUpdate.mpr (.inr (.inl ⟨folder, there, same, rfl⟩)), rfl, rfl⟩
  · exact ⟨folder, KeyedTable.mem_insertOrUpdate.mpr (.inl ⟨there, same⟩), rfl, rfl⟩

theorem filed (change : LibraryChange store after) (held : Filed store) : Filed after := by
  cases change with
  | unchanged folders entries =>
    refine ⟨?_, ?_⟩
    · rw [folders, entries]
      exact held.folder
    · rw [folders]
      exact held.unique
  | folderSaved id engine name now own folders unique entries =>
    refine ⟨fun entry member folderId named => ?_, unique⟩
    rw [entries] at member
    obtain ⟨folder, there, same, kind⟩ := held.folder entry member folderId named
    obtain ⟨stays, here, kept, engineKept⟩ := folder_stays there
    rw [folders]
    exact ⟨stays, here, kept.trans same, engineKept.trans kind⟩
  | folderDeleted id folders entries =>
    constructor
    · intro entry member folderId named
      rw [entries] at member
      obtain ⟨old, there, rfl⟩ := (KeyedTable.mem_updateWhere _).mp member
      -- an entry that still names a directory is not one of the deleted directory
      split at named
      · cases named
      case isFalse other =>
        rw [if_neg other]
        obtain ⟨folder, stored, same, kind⟩ := held.folder old there folderId named
        rw [decide_eq_true_eq, named, Option.some_inj, ← same] at other
        rw [folders]
        exact ⟨folder, (KeyedTable.mem_deleteWhere _).mpr ⟨stored, decide_eq_false other⟩, same, kind⟩
    · rw [folders, uniqueNames, List.all_eq_true]
      intro one first
      rw [List.all_eq_true]
      intro other second
      have unique := held.unique
      rw [uniqueNames, List.all_eq_true] at unique
      exact List.all_eq_true.mp (unique one ((KeyedTable.mem_deleteWhere _).mp first).1) other
        ((KeyedTable.mem_deleteWhere _).mp second).1
  | entrySaved id engine folderId name sqlText now own filed folders entries =>
    refine ⟨fun entry member folder named => ?_, by rw [folders]; exact held.unique⟩
    rw [entries] at member
    rw [folders]
    rcases KeyedTable.mem_insertOrUpdate.mp member with ⟨there, -⟩ | ⟨old, there, same, rfl⟩ | ⟨-, rfl⟩
    · exact held.folder entry there folder named
    · obtain ⟨row, stored, equal, kind⟩ := filed folder named
      exact ⟨row, stored, equal, kind.trans (own old there same).symm⟩
    · exact filed folder named
  | entryDeleted id folders entries =>
    refine ⟨fun entry member folder named => ?_, by rw [folders]; exact held.unique⟩
    rw [entries] at member
    rw [folders]
    exact held.folder entry ((KeyedTable.mem_deleteWhere _).mp member).1 folder named

end LibraryChange

theorem run_inDirectories (calls : List Call) : Filed (Runs.run step default calls) := by
  refine @Runs.run_preserves _ _ step _ Filed ⟨?_, rfl⟩ (fun store call => (step_library store call).filed) calls
  intro entry member
  cases member

section Names

theorem utf8Size_toNat (c : Char) :
    c.utf8Size = if c.toNat ≤ 127 then 1 else if c.toNat ≤ 2047 then 2 else if c.toNat ≤ 65535 then 3 else 4 := by
  rw [Char.utf8Size]
  simp [UInt32.le_iff_toNat_le]

theorem upper_fold {one other : Char} (same : one.toUpper = other.toUpper) :
    one.toLower = other.toLower ∧ (one = '\x00' ↔ other = '\x00') ∧ one.utf8Size = other.utf8Size := by
  have codes := congrArg Char.toNat same
  rw [ColumnPatterns.toUpper_toNat, ColumnPatterns.toUpper_toNat] at codes
  have nul : '\x00'.toNat = 0 := rfl
  rw [← Char.toNat_inj, ← Char.toNat_inj, ← Char.toNat_inj, ColumnPatterns.toLower_toNat, ColumnPatterns.toLower_toNat,
    utf8Size_toNat, utf8Size_toNat, nul]
  refine ⟨?_, ?_, ?_⟩ <;> split at codes <;> split at codes <;> grind

theorem upper_folds {one other : List Char} (same : one.map Char.toUpper = other.map Char.toUpper) :
    (one.takeWhile (· ≠ '\x00')).map Char.toLower = (other.takeWhile (· ≠ '\x00')).map Char.toLower ∧
      (String.ofList one).utf8ByteSize = (String.ofList other).utf8ByteSize := by
  induction one generalizing other with
  | nil =>
    obtain rfl := List.map_eq_nil_iff.mp same.symm
    exact ⟨rfl, rfl⟩
  | cons first one ih =>
    cases other with
    | nil => cases same
    | cons second other =>
      obtain ⟨here, rest⟩ := List.cons.inj same
      obtain ⟨lower, nul, size⟩ := upper_fold here
      obtain ⟨folded, sizes⟩ := ih rest
      rw [String.utf8ByteSize_ofList, String.utf8ByteSize_ofList] at sizes ⊢
      refine ⟨?_, by simp [sizes, size]⟩
      by_cases ends : first = '\x00'
      · simp [ends, nul.mp ends]
      · rw [List.takeWhile_cons_of_pos (by simpa using ends), List.takeWhile_cons_of_pos (by simpa using mt nul.mpr ends),
          List.map_cons, List.map_cons, lower, folded]

/-- The collation of the names tells no fewer names apart than the case of their ASCII letters. -/
theorem noCaseEqual_of_eqIgnoreAsciiCase {one other : String} (same : Text.eqIgnoreAsciiCase one other = true) :
    noCaseEqual one other = true := by
  have upper := String.ofList_injective (beq_iff_eq.mp same)
  obtain ⟨folded, sizes⟩ := upper_folds upper
  rw [String.ofList_toList, String.ofList_toList] at sizes
  rw [noCaseEqual, Bool.and_eq_true]
  exact ⟨decide_eq_true folded, decide_eq_true sizes⟩

theorem Filed.named (held : Filed store) {one other : SqlFolder} (first : one ∈ store.sqlFolders.rows)
    (second : other ∈ store.sqlFolders.rows) (engine : one.engine = other.engine)
    (name : Text.eqIgnoreAsciiCase one.name other.name = true) : one = other := by
  have unique := held.unique
  rw [uniqueNames, List.all_eq_true] at unique
  have apart := List.all_eq_true.mp (unique one first) other second
  rw [noCaseEqual_of_eqIgnoreAsciiCase name] at apart
  refine store.sqlFolders.eq_of_key first second ?_
  simpa [engine] using apart

end Names

/-- Saves of the library that fail have written nothing. -/
theorem saveSqlFolder_clean (id : Uuid) (engine : Engine) (name now : String) : (saveSqlFolder id engine name now faults).Clean := by
  rw [saveSqlFolder]
  split
  · exact ReadOnly.clean (preserves_fail _)
  · exact SqlLibraryRepository.saveSqlFolder_clean _ _ _ _

theorem saveCommonSql_clean (id : Uuid) (engine : Engine) (folderId : Option Uuid) (name sqlText now : String) :
    (saveCommonSql id engine folderId name sqlText now faults).Clean := by
  rw [saveCommonSql]
  split
  · exact ReadOnly.clean (preserves_fail _)
  split
  · exact ReadOnly.clean (preserves_fail _)
  split
  · exact ReadOnly.clean (preserves_fail _)
  · exact SqlLibraryRepository.saveCommonSql_clean _ _ _ _ _ _

/-- The library in every state that calls of the store reach: entries lie in directories of their
engine, no call changes an engine, names differ, a failed save leaves the library alone, and a
deleted directory leaves its entries without one. -/
theorem run_library (calls : List Call) :
    let store := Runs.run step default calls
    (∀ entry ∈ store.commonSql.rows, ∀ folderId, entry.folderId = some folderId →
      ∃ folder ∈ store.sqlFolders.rows, folder.id = folderId ∧ folder.engine = entry.engine) ∧
    (∀ one ∈ store.sqlFolders.rows, ∀ other ∈ store.sqlFolders.rows, one.engine = other.engine →
      Text.eqIgnoreAsciiCase one.name other.name = true → one = other) ∧
    (∀ call, KeyedTable.Keeps SqlFolder.engine store.sqlFolders (step store call).sqlFolders ∧
      KeyedTable.Keeps CommonSql.engine store.commonSql (step store call).commonSql) ∧
    (∀ id engine name now faults error after,
      saveSqlFolder id engine name now faults store = (.error error, after) → after = store) ∧
    (∀ id engine folderId name sqlText now faults error after,
      saveCommonSql id engine folderId name sqlText now faults store = (.error error, after) → after = store) ∧
    (∀ id faults after, deleteSqlFolder id faults store = (.ok (), after) →
      (∀ folder ∈ after.sqlFolders.rows, folder.id ≠ id) ∧
        after.commonSql.rows = store.commonSql.rows.map fun entry =>
          if entry.folderId = some id then { entry with folderId := none } else entry) := by
  dsimp only
  have held := run_inDirectories calls
  refine ⟨held.folder, fun one first other second => held.named first second, fun call => ?_,
    fun _ _ _ _ _ error after failed => saveSqlFolder_clean _ _ _ _ _ error after failed,
    fun _ _ _ _ _ _ _ error after failed => saveCommonSql_clean _ _ _ _ _ _ _ error after failed, fun id faults after deleted => ?_⟩
  · exact ⟨(step_library _ call).folderKept, (step_library _ call).entryKept⟩
  · rw [deleteSqlFolder_ok deleted]
    refine ⟨fun folder here => of_decide_eq_false ((KeyedTable.mem_deleteWhere _).mp here).2, ?_⟩
    refine List.map_congr_left fun entry _ => ?_
    simp only [decide_eq_true_eq]

end Pipa.StoreCommands
