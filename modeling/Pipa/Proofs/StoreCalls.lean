import Pipa.StoreCommands

/-! What the calls of the store leave: nothing new unless they succeed, and then only the
change of their own table. -/

namespace Pipa
open Statements

variable {store after : LocalStore} {faults : Faults}

namespace LocalStore

theorem control_ok {fault : Option String} {value : Unit} :
    control fault store = (.ok value, after) ↔ fault = none ∧ after = store := by
  rw [control, execute_ok]
  constructor
  · rintro ⟨whole, same⟩
    exact ⟨whole, (Prod.mk.inj (Except.ok.inj same)).2.symm⟩
  · rintro ⟨whole, rfl⟩
    exact ⟨whole, rfl⟩

theorem write_ok {fault : Option String} {change : LocalStore → LocalStore} {value : Unit} :
    write fault change store = (.ok value, after) ↔ fault = none ∧ after = change store := by
  rw [write, execute_ok]
  constructor
  · rintro ⟨whole, same⟩
    exact ⟨whole, (Prod.mk.inj (Except.ok.inj same)).2.symm⟩
  · rintro ⟨whole, rfl⟩
    exact ⟨whole, rfl⟩

variable {ν : Type} {view : LocalStore → ν}

theorem control_preserves (fault : Option String) : (control fault).Preserves view := by
  refine preserves_execute fun store value after same => ?_
  rw [(Prod.mk.inj (Except.ok.inj same)).2]

theorem write_preserves {fault : Option String} {change : LocalStore → LocalStore} (same : ∀ store, view (change store) = view store) :
    (write fault change).Preserves view := by
  refine preserves_execute fun store value after written => ?_
  rw [← (Prod.mk.inj (Except.ok.inj written)).2]
  exact same store

end LocalStore

namespace ConnectionRepository
open LocalStore

/-- The new row of a connection is there, so its credential may refer to it. -/
theorem putConnection_find (profile : SavedProfile) (now : String) :
    ((putConnection profile now store).connections.find? profile.id).isSome = true := by
  have there : ∃ row ∈ (putConnection profile now store).connections.rows, row.id = profile.id := by
    by_cases taken : ∃ old ∈ store.connections.rows, old.id = profile.id
    · obtain ⟨old, member, same⟩ := taken
      exact ⟨_, KeyedTable.mem_insertOrUpdate.mpr (.inr (.inl ⟨old, member, same, rfl⟩)), same⟩
    · refine ⟨_, KeyedTable.mem_insertOrUpdate.mpr (.inr (.inr ⟨?_, rfl⟩)), rfl⟩
      exact fun old member same => taken ⟨old, member, same⟩
  obtain ⟨row, member, same⟩ := there
  rw [KeyedTable.find?_some.mpr ⟨member, same⟩]
  rfl

/-- A connection is saved unless a statement fails of its own. -/
theorem saveConnectionWithCredential_ok {profile : SavedProfile} {password now : String} {value : Unit} :
    saveConnectionWithCredential profile password now faults store = (.ok value, after) ↔
      (faults 0 = none ∧ faults 1 = none ∧ faults 2 = none ∧ faults 3 = none) ∧
        after = putCredential profile.id password (putConnection profile now store) := by
  rw [saveConnectionWithCredential, mapError_ok, transaction_ok]
  simp only [bind_ok, control_ok]
  constructor
  · rintro ⟨_, _, ⟨first, rfl⟩, _, _, upserted, _, _, credential, last, rfl⟩
    obtain ⟨second, rfl⟩ := write_ok.mp upserted
    obtain ⟨third, put⟩ := execute_ok.mp credential
    rw [if_pos (putConnection_find profile now)] at put
    exact ⟨⟨first, second, third, last⟩, (Prod.mk.inj (Except.ok.inj put)).2.symm⟩
  · rintro ⟨⟨first, second, third, last⟩, rfl⟩
    refine ⟨(), _, ⟨first, rfl⟩, (), _, write_ok.mpr ⟨second, rfl⟩, (), _, execute_ok.mpr ⟨third, ?_⟩, last, rfl⟩
    rw [if_pos (putConnection_find profile now)]

theorem saveConnectionWithCredential_clean (profile : SavedProfile) (password now : String) :
    (saveConnectionWithCredential profile password now faults).Clean :=
  (clean_transaction _).mapError _

theorem deleteConnection_clean (connectionId : Uuid) : (deleteConnection connectionId faults).Clean :=
  (clean_transaction _).mapError _

/-- What a deleted connection takes along. -/
theorem deleteConnection_ok {connectionId : Uuid} {value : Unit}
    (deleted : deleteConnection connectionId faults store = (.ok value, after)) :
    after = { store with
      connections := store.connections.deleteWhere fun row => row.id = connectionId
      credentials := store.credentials.deleteWhere fun row => row.connectionId = connectionId
      workspaceTabs := store.workspaceTabs.deleteWhere fun row => row.tab.connectionId = connectionId.hyphenated
      queryHistory := store.queryHistory.deleteWhere fun row => row.connectionId = connectionId } := by
  rw [deleteConnection, mapError_ok, transaction_ok] at deleted
  simp only [bind_ok, control_ok, write_ok] at deleted
  obtain ⟨-, _, ⟨-, rfl⟩, -, _, ⟨-, rfl⟩, -, _, ⟨-, rfl⟩, -, _, ⟨-, rfl⟩, -, rfl⟩ := deleted
  rfl

theorem readBack_ok {connectionId : Uuid} {changed : Bool} {fault : Option String} {profile : Option SavedProfile}
    (read : readBack connectionId changed fault store = (.ok profile, after)) : after = store := by
  rw [readBack] at read
  split at read
  · obtain ⟨-, found⟩ := execute_ok.mp read
    split at found
    · exact (Prod.mk.inj (Except.ok.inj found)).2.symm
    · cases found
  · exact (pure_ok.mp read).2.symm

/-- An update leaves every row in place, changed where it matched. -/
theorem updateReturning_stored (connectionId : Uuid) (matched : ConnectionRow → Bool) (change : ConnectionRow → ConnectionRow)
    (same : ∀ row, (change row).id = row.id) :
    (updateReturning connectionId matched change same faults).stored store = store ∨
      (updateReturning connectionId matched change same faults).stored store =
        { store with connections := store.connections.updateWhere matched change same } := by
  rcases (clean_transaction _).stored store with unchanged | ⟨profile, ended⟩
  · exact .inl unchanged
  refine .inr ?_
  have ran := transaction_ok.mp ended
  simp only [bind_ok, control_ok, execute_ok] at ran
  obtain ⟨_, _, ⟨-, rfl⟩, changed, between, ⟨-, wrote⟩, result, read, reading, _, _, ⟨-, rfl⟩, finished⟩ := ran
  obtain ⟨-, last⟩ := pure_ok.mp finished
  obtain ⟨-, rfl⟩ := Prod.mk.inj (Except.ok.inj wrote)
  rw [updateReturning, ← last, readBack_ok reading]

/-- The call around an update reports its end and writes no more. -/
theorem reported_stored (program : Sql (Option SavedProfile)) (report : String → AppError) :
    (do
      let result ← mapError report program
      orNotFound result : Storing SavedProfile).stored store = program.stored store := by
  show (Statements.bind (mapError report program) _ store).2 = _
  rw [Statements.bind, Statements.stored, mapError]
  rcases program store with ⟨_ | _ | profile, after⟩
  · rfl
  · rfl
  · rfl

theorem renamedRow_engine (name now : String) (row : ConnectionRow) : (renamedRow name now row).engine = row.engine := rfl

theorem editedRow_engine (profile : SavedProfile) (now : String) (row : ConnectionRow) :
    (editedRow profile now row).engine = row.engine := rfl

theorem renameConnection_stored (connectionId : Uuid) (name now : String) :
    (renameConnection connectionId name now faults).stored store = store ∨
      (renameConnection connectionId name now faults).stored store = { store with
        connections := store.connections.updateWhere (fun row => row.id = connectionId) (renamedRow name now)
          (renamedRow_id name now) } := by
  rw [renameConnection, reported_stored]
  exact updateReturning_stored ..

theorem updateConnectionProfile_stored (profile : SavedProfile) (now : String) :
    (updateConnectionProfile profile now faults).stored store = store ∨
      (updateConnectionProfile profile now faults).stored store = { store with
        connections := store.connections.updateWhere (fun row => row.id = profile.id && row.engine = profile.engine)
          (editedRow profile now) (editedRow_id profile now) } := by
  rw [updateConnectionProfile, reported_stored]
  exact updateReturning_stored ..

section Frame
variable {ν : Type} {view : LocalStore → ν}
  (same : ∀ (store : LocalStore) connections credentials workspaceTabs queryHistory,
    view { store with connections, credentials, workspaceTabs, queryHistory } = view store)
include same

theorem saveConnectionWithCredential_preserves (profile : SavedProfile) (password now : String) :
    (saveConnectionWithCredential profile password now faults).Preserves view := by
  intro store
  rcases (saveConnectionWithCredential_clean profile password now).stored store with unchanged | ⟨value, ended⟩
  · rw [unchanged]
  · rw [(saveConnectionWithCredential_ok.mp ended).2]
    exact same store _ _ _ _

theorem deleteConnection_preserves (connectionId : Uuid) : (deleteConnection connectionId faults).Preserves view := by
  intro store
  rcases (deleteConnection_clean connectionId).stored store with unchanged | ⟨value, ended⟩
  · rw [unchanged]
  · rw [deleteConnection_ok ended]
    exact same ..

theorem renameConnection_preserves (connectionId : Uuid) (name now : String) :
    (renameConnection connectionId name now faults).Preserves view := by
  intro store
  rcases renameConnection_stored connectionId name now with unchanged | changed
  · rw [unchanged]
  · rw [changed]
    exact same ..

theorem updateConnectionProfile_preserves (profile : SavedProfile) (now : String) :
    (updateConnectionProfile profile now faults).Preserves view := by
  intro store
  rcases updateConnectionProfile_stored profile now with unchanged | changed
  · rw [unchanged]
  · rw [changed]
    exact same ..

end Frame

end ConnectionRepository

namespace WorkspaceRepository
open LocalStore

/-- Inserting the tabs one after another is inserting all their rows. -/
theorem insertTabs_ok {windowLabel : String} {tabs : List WorkspaceTab} {place : Nat} {value : Unit}
    (inserted : insertTabs windowLabel faults tabs place store = (.ok value, after)) :
    ∃ workspaceTabs, store.workspaceTabs.insertAll (tabs.map fun tab => { tab, windowLabel }) = some workspaceTabs ∧
      after = { store with workspaceTabs } := by
  induction tabs generalizing store place with
  | nil =>
    obtain ⟨-, rfl⟩ := pure_ok.mp inserted
    exact ⟨_, rfl, rfl⟩
  | cons tab tabs ih =>
    rw [insertTabs, bind_ok] at inserted
    obtain ⟨_, between, first, rest⟩ := inserted
    rw [insertTab, execute_ok] at first
    obtain ⟨-, wrote⟩ := first
    split at wrote
    case h_2 => cases wrote
    case h_1 one ran =>
      obtain ⟨-, rfl⟩ := Prod.mk.inj (Except.ok.inj wrote)
      obtain ⟨workspaceTabs, all, rfl⟩ := ih rest
      refine ⟨workspaceTabs, ?_, rfl⟩
      rw [List.map_cons, KeyedTable.insertAll, ran]
      exact all

theorem saveWorkspace_clean (windowLabel : String) (tabs : List WorkspaceTab) :
    (saveWorkspace windowLabel tabs faults).Clean :=
  (clean_transaction _).mapError _

/-- A save that succeeds is one of the tab table alone. -/
theorem saveWorkspace_refines {windowLabel : String} {tabs : List WorkspaceTab} {value : Unit}
    (saved : saveWorkspace windowLabel tabs faults store = (.ok value, after)) :
    ∃ workspaceTabs, LocalStore.saveWorkspace store.workspaceTabs windowLabel tabs none = .ok workspaceTabs ∧
      after = { store with workspaceTabs } := by
  rw [saveWorkspace, mapError_ok, transaction_ok] at saved
  simp only [bind_ok, control_ok, write_ok] at saved
  obtain ⟨_, _, ⟨-, rfl⟩, _, _, ⟨-, rfl⟩, _, _, ⟨-, rfl⟩, _, _, inserted, -, rfl⟩ := saved
  obtain ⟨workspaceTabs, all, rfl⟩ := insertTabs_ok inserted
  refine ⟨workspaceTabs, ?_, rfl⟩
  rw [LocalStore.saveWorkspace, all]

/-- So is a transfer, which leaves the store alone when it fails. -/
theorem transferWorkspaceTab_refines {tab : WorkspaceTab} {sourceWindowLabel targetWindowLabel : String} {value : Unit}
    (moved : transferWorkspaceTab tab sourceWindowLabel targetWindowLabel faults store = (.ok value, after)) :
    ∃ workspaceTabs, LocalStore.transferWorkspaceTab store.workspaceTabs tab sourceWindowLabel targetWindowLabel none =
      .ok workspaceTabs ∧ after = { store with workspaceTabs } := by
  rw [transferWorkspaceTab, bind_ok] at moved
  obtain ⟨updated, between, ran, rest⟩ := moved
  obtain ⟨-, wrote⟩ := execute_ok.mp (mapError_ok.mp ran)
  split at wrote
  case h_1 workspaceTabs upserted =>
    obtain ⟨rfl, rfl⟩ := Prod.mk.inj (Except.ok.inj wrote)
    refine ⟨workspaceTabs, ?_, (pure_ok.mp rest).2.symm⟩
    rw [LocalStore.transferWorkspaceTab, upserted]
  case h_2 =>
    obtain ⟨rfl, rfl⟩ := Prod.mk.inj (Except.ok.inj wrote)
    cases rest

theorem transferWorkspaceTab_clean (tab : WorkspaceTab) (sourceWindowLabel targetWindowLabel : String) :
    (transferWorkspaceTab tab sourceWindowLabel targetWindowLabel faults).Clean := by
  intro store error after ended
  change Statements.bind _ _ store = _ at ended
  rw [Statements.bind] at ended
  split at ended
  case h_2 cause between ran =>
    rw [← (Prod.mk.inj ended).2]
    exact ((clean_execute _ _).mapError _) store cause between ran
  case h_1 updated between ran =>
    obtain ⟨-, wrote⟩ := execute_ok.mp (mapError_ok.mp ran)
    split at wrote
    case h_1 =>
      obtain ⟨rfl, rfl⟩ := Prod.mk.inj (Except.ok.inj wrote)
      cases ended
    case h_2 =>
      obtain ⟨rfl, rfl⟩ := Prod.mk.inj (Except.ok.inj wrote)
      exact (Prod.mk.inj ended).2.symm

section Frame
variable {ν : Type} {view : LocalStore → ν}

theorem saveWorkspace_preserves (same : ∀ (store : LocalStore) workspaceTabs, view { store with workspaceTabs } = view store)
    (windowLabel : String) (tabs : List WorkspaceTab) : (saveWorkspace windowLabel tabs faults).Preserves view := by
  intro store
  rcases (saveWorkspace_clean windowLabel tabs).stored store with unchanged | ⟨value, ended⟩
  · rw [unchanged]
  · obtain ⟨workspaceTabs, -, changed⟩ := saveWorkspace_refines ended
    rw [changed]
    exact same ..

theorem transferWorkspaceTab_preserves (same : ∀ (store : LocalStore) workspaceTabs, view { store with workspaceTabs } = view store)
    (tab : WorkspaceTab) (sourceWindowLabel targetWindowLabel : String) :
    (transferWorkspaceTab tab sourceWindowLabel targetWindowLabel faults).Preserves view := by
  intro store
  rcases (transferWorkspaceTab_clean tab sourceWindowLabel targetWindowLabel).stored store with unchanged | ⟨value, ended⟩
  · rw [unchanged]
  · obtain ⟨workspaceTabs, -, changed⟩ := transferWorkspaceTab_refines ended
    rw [changed]
    exact same ..

theorem recordQueryHistory_preserves (same : ∀ (store : LocalStore) queryHistory, view { store with queryHistory } = view store)
    (entry : QueryHistoryEntry) : (recordQueryHistory entry faults).Preserves view := by
  refine (Preserves.transaction ?_).mapError _
  refine (control_preserves _).bind fun _ => .bind (write_preserves fun store => ?_) fun _ =>
    .bind (write_preserves fun store => ?_) fun _ => control_preserves _
  · split
    · exact same ..
    · rfl
  · exact same ..

end Frame

end WorkspaceRepository

end Pipa
