import Pipa.Library.Runs
import Pipa.Proofs.SqlLibraryCalls

/-! The engine of a saved connection. A profile is edited under its engine only, but a
connection that is saved again takes the engine of its new profile. -/

namespace Pipa.StoreCommands
open Statements LocalStore ConnectionRepository

variable {store after : LocalStore} {faults : Faults}

/-- Connections that are there before and after have the engine they had. -/
def EngineKept (before after : LocalStore) : Prop :=
  KeyedTable.Keeps (fun row : ConnectionRow => row.engine) before.connections after.connections

/-- A profile that is saved under a stored id has the engine stored for it, unless the save
is refused for its engine or by the database. -/
def SavesOwnEngine (store : LocalStore) (profile : SavedProfile) (expected : Engine) (faults : Faults) : Prop :=
  profile.engine = expected → faults 0 = none ∧ faults 1 = none ∧ faults 2 = none ∧ faults 3 = none →
    ∀ row ∈ store.connections.rows, row.id = profile.id → row.engine = profile.engine

def KeepsEngine (store : LocalStore) (call : Call) : Prop :=
  match call.command with
  | .saveMysqlConnection profile _ => SavesOwnEngine store profile .mySql call.faults
  | .saveRedisConnection profile _ => SavesOwnEngine store profile .redis call.faults
  | _ => True

theorem engineKept_of_eq (same : after.connections = store.connections) : EngineKept store after := by
  rw [EngineKept, same]
  exact KeyedTable.keeps_refl _

/-- Saving keeps the engines exactly when the id is new or stored with the engine of the profile. -/
theorem putConnection_kept_iff {profile : SavedProfile} {password now : String} :
    EngineKept store (putCredential profile.id password (putConnection profile now store)) ↔
      ∀ row ∈ store.connections.rows, row.id = profile.id → row.engine = profile.engine := by
  refine KeyedTable.keeps_insertOrUpdate.trans ⟨?_, ?_⟩
  · exact fun own row member same => (own row member same).symm
  · exact fun own row member same => (own row member same).symm

/-- What either save command leaves. -/
theorem guardedSave_kept_iff {profile : SavedProfile} {expected : Engine} {error : AppError} {password now : String} :
    EngineKept store ((if profile.engine ≠ expected then fail error
      else do
        saveConnectionWithCredential profile password now faults
        pure profile : Storing SavedProfile).stored store) ↔ SavesOwnEngine store profile expected faults := by
  by_cases engine : profile.engine = expected
  · rw [if_neg (not_not.mpr engine), SavesOwnEngine]
    have saved : (do
        saveConnectionWithCredential profile password now faults
        pure profile : Storing SavedProfile).stored store = (saveConnectionWithCredential profile password now faults).stored store := by
      show (Statements.bind _ _ store).2 = _
      rw [Statements.bind, Statements.stored]
      rcases saveConnectionWithCredential profile password now faults store with ⟨_ | _, after⟩ <;> rfl
    rw [saved]
    by_cases whole : faults 0 = none ∧ faults 1 = none ∧ faults 2 = none ∧ faults 3 = none
    · rw [Statements.stored, (@saveConnectionWithCredential_ok store _ faults profile password now ()).mpr ⟨whole, rfl⟩,
        putConnection_kept_iff]
      exact ⟨fun own _ _ => own, fun own => own engine whole⟩
    · have unchanged : (saveConnectionWithCredential profile password now faults).stored store = store := by
        rcases (saveConnectionWithCredential_clean profile password now).stored store with unchanged | ⟨value, ended⟩
        · exact unchanged
        · exact absurd (saveConnectionWithCredential_ok.mp ended).1 whole
      rw [unchanged]
      exact ⟨fun _ _ unfailed => absurd unfailed whole, fun _ => engineKept_of_eq rfl⟩
  · rw [if_pos engine, SavesOwnEngine]
    exact ⟨fun _ same => absurd same engine, fun _ => engineKept_of_eq rfl⟩

theorem engineKept_of_preserves {program : Storing Unit} (kept : program.Preserves LocalStore.connections) :
    EngineKept store (program.stored store) :=
  engineKept_of_eq (kept store)

/-- What a program leaves whose result is thrown away. -/
theorem discard_stored {α : Type} (program : Storing α) :
    (do let _ ← program : Storing Unit).stored store = program.stored store := by
  show (Statements.bind _ _ store).2 = _
  rw [Statements.bind, Statements.stored]
  rcases program store with ⟨_ | _, after⟩ <;> rfl

theorem updateWhere_kept {matched : ConnectionRow → Bool} {change : ConnectionRow → ConnectionRow}
    (same : ∀ row, (change row).id = row.id) (keeps : ∀ row, (change row).engine = row.engine)
    (changed : after = store ∨ after = { store with connections := store.connections.updateWhere matched change same }) :
    EngineKept store after := by
  obtain rfl | rfl := changed
  · exact engineKept_of_eq rfl
  · exact KeyedTable.keeps_updateWhere same keeps

theorem renameConnection_kept (connectionId : Uuid) (name now : String) :
    EngineKept store ((renameConnection connectionId name now faults).stored store) := by
  rw [renameConnection]
  split
  · exact engineKept_of_eq rfl
  · exact updateWhere_kept _ (renamedRow_engine _ _) (renameConnection_stored _ _ _)

theorem updateConnectionProfile_kept (profile : SavedProfile) (now : String) :
    EngineKept store ((updateConnectionProfile profile now faults).stored store) := by
  rw [updateConnectionProfile]
  split
  · exact engineKept_of_eq rfl
  split
  · exact engineKept_of_eq rfl
  split
  · exact engineKept_of_eq rfl
  split
  · exact engineKept_of_eq rfl
  · exact updateWhere_kept _ (editedRow_engine _ _) (updateConnectionProfile_stored _ _)

theorem deleteConnection_kept (connectionId : Uuid) :
    EngineKept store ((deleteConnection connectionId faults).stored store) := by
  rcases (deleteConnection_clean connectionId).stored store with unchanged | ⟨value, ended⟩
  · rw [unchanged]
    exact engineKept_of_eq rfl
  · rw [deleteConnection_ok ended]
    exact KeyedTable.keeps_deleteWhere

/-- One call keeps the engines exactly when it saves no connection under the engine of another. -/
theorem step_engineKept_iff (store : LocalStore) (call : Call) : EngineKept store (step store call) ↔ KeepsEngine store call := by
  obtain ⟨command, now, faults⟩ := call
  have kept {held : Prop} (holds : held) : held ↔ True := iff_true_intro holds
  cases command with
  | saveMysqlConnection profile password =>
    rw [step, Call.run, discard_stored]
    exact guardedSave_kept_iff
  | saveRedisConnection profile password =>
    rw [step, Call.run, discard_stored]
    exact guardedSave_kept_iff
  | renameConnection connectionId name =>
    rw [step, Call.run, discard_stored]
    exact kept (renameConnection_kept _ _ _)
  | updateConnectionProfile profile =>
    rw [step, Call.run, discard_stored]
    exact kept (updateConnectionProfile_kept _ _)
  | deleteConnection connectionId => exact kept (deleteConnection_kept _)
  | saveWorkspace windowLabel tabs =>
    exact kept (engineKept_of_preserves (WorkspaceRepository.saveWorkspace_preserves (fun _ _ => rfl) _ _))
  | transferWorkspaceTab tab sourceWindowLabel targetWindowLabel =>
    exact kept (engineKept_of_preserves (WorkspaceRepository.transferWorkspaceTab_preserves (fun _ _ => rfl) _ _ _))
  | recordQueryHistory queryId connectionId sql =>
    exact kept (engineKept_of_preserves (WorkspaceRepository.recordQueryHistory_preserves (fun _ _ => rfl) _))
  | saveSqlFolder id engine name =>
    exact kept (engineKept_of_preserves ((saveSqlFolder_preserves (fun _ _ _ => rfl) _ _ _ _).bind fun _ => preserves_pure _))
  | deleteSqlFolder id =>
    exact kept (engineKept_of_preserves (SqlLibraryRepository.deleteSqlFolder_preserves (fun _ _ _ => rfl) _))
  | saveCommonSql id engine folderId name sqlText =>
    exact kept (engineKept_of_preserves ((saveCommonSql_preserves (fun _ _ _ => rfl) _ _ _ _ _ _).bind fun _ => preserves_pure _))
  | deleteCommonSql id =>
    exact kept (engineKept_of_preserves (SqlLibraryRepository.deleteCommonSql_preserves (fun _ _ _ => rfl) _))

/-- No step of a run changes the engine of a connection that stays, exactly when every save
of a stored connection is one under its engine. -/
theorem run_engineKept_iff (calls : List Call) :
    Runs.Permitted step (fun store call => EngineKept store (step store call)) default calls ↔
      Runs.Permitted step KeepsEngine default calls := by
  constructor
  · intro kept before call after same
    exact (step_engineKept_iff _ call).mp (kept before call after same)
  · intro keeps before call after same
    exact (step_engineKept_iff _ call).mpr (keeps before call after same)

/-- A Redis connection on the local host, and a MySQL connection under the same id. -/
def cacheId : Uuid := ⟨"6f1d8f0e-4a53-4c0a-9d7e-0c5f6a1b2c3d"⟩

def cacheProfile : SavedProfile where
  id := cacheId
  name := "Cache"
  engine := .redis
  database := none
  environment := .development
  host := "127.0.0.1"
  port := 6379
  username := ""
  tlsMode := .preferred

def cacheCall : Call where
  command := .saveRedisConnection cacheProfile ""
  now := "2026-01-01T00:00:00.000000000Z"
  faults := fun _ => none

def ordersCall : Call where
  command := .saveMysqlConnection { cacheProfile with name := "Orders", engine := .mySql, port := 3306, username := "root" } "secret"
  now := "2026-01-02T00:00:00.000000000Z"
  faults := fun _ => none

theorem saveMysqlConnection_changes :
    (step default cacheCall).connections.rows.map (fun row => (row.id, row.engine)) = [(cacheId, .redis)] ∧
      (Runs.run step default [cacheCall, ordersCall]).connections.rows.map (fun row => (row.id, row.engine)) =
        [(cacheId, .mySql)] ∧
      ¬ Runs.Permitted step (fun store call => EngineKept store (step store call)) default [cacheCall, ordersCall] := by
  refine ⟨rfl, rfl, fun kept => ?_⟩
  have last : EngineKept (step default cacheCall) (step (step default cacheCall) ordersCall) := kept [cacheCall] ordersCall [] rfl
  have changed : ¬ KeyedTable.Keeps (fun row : ConnectionRow => row.engine) (step default cacheCall).connections
      (step (step default cacheCall) ordersCall).connections := by decide
  exact changed last

end Pipa.StoreCommands
