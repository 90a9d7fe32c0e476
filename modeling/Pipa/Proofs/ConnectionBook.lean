import Mathlib.Data.Prod.Lex
import Mathlib.Data.String.Basic
import Mathlib.Logic.Function.Basic
import Pipa.Proofs.ConnectionEngines

/-! The saved connections against a book with one page for each id. The calls that the store
accepts write the book, and what the store reads back is what stands on its pages. -/

namespace Pipa.StoreCommands
open Statements LocalStore ConnectionRepository

/-- A connection as its owner knows it. -/
structure SavedConnection where
  profile : SavedProfile
  password : String
deriving DecidableEq

abbrev ConnectionBook := Uuid → Option SavedConnection

namespace ConnectionBook

def write (book : ConnectionBook) (profile : SavedProfile) (password : String) : ConnectionBook :=
  Function.update book profile.id (some ⟨profile, password⟩)

/-- Changes the profile on a page, if there is one. -/
def amend (book : ConnectionBook) (connectionId : Uuid) (change : SavedProfile → SavedProfile) : ConnectionBook :=
  Function.update book connectionId ((book connectionId).map fun saved => { saved with profile := change saved.profile })

/-- What an accepted command means. An edit keeps the engine and the password of its page. -/
def apply (book : ConnectionBook) : Command → ConnectionBook
  | .saveMysqlConnection profile password | .saveRedisConnection profile password => book.write profile password
  | .renameConnection connectionId name => book.amend connectionId fun saved => { saved with name := Text.trim name }
  | .updateConnectionProfile profile =>
    book.amend (normalized profile).id fun saved => { normalized profile with id := saved.id, engine := saved.engine }
  | .deleteConnection connectionId => Function.update book connectionId none
  | _ => book

end ConnectionBook

/-- The tables hold what the book says, the credentials included. -/
def Holds (store : LocalStore) (book : ConnectionBook) : Prop :=
  ∀ connectionId,
    (store.connections.find? connectionId).map ConnectionRow.toSavedProfile = (book connectionId).map SavedConnection.profile ∧
      (store.credentials.find? connectionId).map CredentialRow.password = (book connectionId).map SavedConnection.password

/-- A program changes the book when it ends well, and leaves it alone when it fails. -/
structure Simulates {α : Type} (program : Storing α) (change : ConnectionBook → ConnectionBook) : Prop where
  accepted {store after : LocalStore} {book : ConnectionBook} {value : α} :
    Holds store book → program store = (.ok value, after) → Holds after (change book)
  refused {store after : LocalStore} {book : ConnectionBook} {error : AppError} :
    Holds store book → program store = (.error error, after) → Holds after book

section Rules
variable {α β : Type} {program : Storing α} {change : ConnectionBook → ConnectionBook}

theorem simulates_fail (error : AppError) : Simulates (fail error : Storing α) change where
  accepted _ ended := absurd ended fail_ok
  refused held ended := (Prod.mk.inj ended).2 ▸ held

theorem Simulates.result (simulates : Simulates program change) (result : α → β) :
    Simulates (program >>= fun value => pure (result value)) change where
  accepted held ended := by
    obtain ⟨value, between, ran, finished⟩ := bind_ok.mp ended
    rw [← (pure_ok.mp finished).2]
    exact simulates.accepted held ran
  refused {store after book error} held ended := by
    change Statements.bind program _ store = _ at ended
    rw [Statements.bind] at ended
    split at ended
    · cases ended
    case h_2 cause between ran =>
      rw [← (Prod.mk.inj ended).2]
      exact simulates.refused held ran

/-- A program that leaves both tables alone says nothing to the book. -/
theorem simulates_of_preserves (connections : program.Preserves LocalStore.connections)
    (credentials : program.Preserves LocalStore.credentials) : Simulates program fun book => book := by
  have same {store after : LocalStore} {ended : Except AppError α} {book : ConnectionBook} (held : Holds store book)
      (ran : program store = (ended, after)) : Holds after book := by
    have final : program.stored store = after := congrArg Prod.snd ran
    have there := connections store
    have known := credentials store
    rw [final] at there known
    rw [Holds, there, known]
    exact held
  exact ⟨same, same⟩

/-- A clean program is refused without a trace. -/
theorem simulates_of_clean (clean : program.Clean)
    (accepted : ∀ {store after book value}, Holds store book → program store = (.ok value, after) → Holds after (change book)) :
    Simulates program change where
  accepted := accepted
  refused held ended := clean _ _ _ ended ▸ held

end Rules

theorem holds_write {store : LocalStore} {book : ConnectionBook} (held : Holds store book) (profile : SavedProfile)
    (password now : String) :
    Holds (putCredential profile.id password (putConnection profile now store)) (book.write profile password) := by
  intro connectionId
  obtain ⟨there, known⟩ := held connectionId
  by_cases same : connectionId = profile.id
  · subst same
    rw [ConnectionBook.write, Function.update_self]
    constructor
    · exact congrArg (Option.map _) (KeyedTable.find?_insertOrUpdate fun old equal => by rw [equal])
    · refine congrArg (Option.map _) (KeyedTable.find?_insertOrUpdate fun old (equal : old.connectionId = profile.id) => ?_)
      rw [equal]
  · rw [ConnectionBook.write, Function.update_of_ne same]
    constructor
    · rw [← there]
      exact congrArg (Option.map _) (KeyedTable.find?_insertOrUpdate_other same)
    · rw [← known]
      exact congrArg (Option.map _) (KeyedTable.find?_insertOrUpdate_other same)

theorem holds_forget {store after : LocalStore} {book : ConnectionBook} (held : Holds store book) {connectionId : Uuid}
    (connections : after.connections = store.connections.deleteWhere fun row => row.id = connectionId)
    (credentials : after.credentials = store.credentials.deleteWhere fun row => row.connectionId = connectionId) :
    Holds after (Function.update book connectionId none) := by
  intro other
  obtain ⟨there, known⟩ := held other
  rw [connections, credentials]
  by_cases same : other = connectionId
  · subst same
    rw [Function.update_self]
    constructor
    · rw [KeyedTable.find?_deleteKey]
      rfl
    · rw [KeyedTable.find?_deleteKey]
      rfl
  · rw [Function.update_of_ne same]
    constructor
    · rw [← there]
      exact congrArg (Option.map _) (KeyedTable.find?_deleteKey_other same)
    · rw [← known]
      exact congrArg (Option.map _) (KeyedTable.find?_deleteKey_other same)

section Edits
variable {matched : ConnectionRow → Bool} {change : ConnectionRow → ConnectionRow} {same : ∀ row, (change row).id = row.id}
  {store after : LocalStore} {book : ConnectionBook} {connectionId : Uuid} {edit : SavedProfile → SavedProfile}

/-- An update that matches the row of an id, and no other, amends its page. -/
theorem holds_amend (held : Holds store book) (only : ∀ row, matched row = true → row.id = connectionId)
    (changes : ∀ row, (change row).toSavedProfile = edit row.toSavedProfile)
    (present : ∀ row ∈ store.connections.rows, row.id = connectionId → matched row = true) :
    Holds { store with connections := store.connections.updateWhere matched change same } (book.amend connectionId edit) := by
  intro other
  obtain ⟨there, known⟩ := held other
  dsimp only
  rw [KeyedTable.find?_updateWhere, known, Option.map_map]
  by_cases equal : other = connectionId
  · subst equal
    rw [ConnectionBook.amend, Function.update_self, Option.map_map, Option.map_map]
    refine ⟨?_, rfl⟩
    have edited : ((store.connections.find? other).map ConnectionRow.toSavedProfile).map edit =
        ((book other).map SavedConnection.profile).map edit := congrArg _ there
    rw [Option.map_map, Option.map_map] at edited
    refine Eq.trans (Option.map_congr fun row found => ?_) edited
    obtain ⟨member, named⟩ := KeyedTable.find?_some.mp found
    simp only [Function.comp, present row member named, if_true, changes]
  · rw [ConnectionBook.amend, Function.update_of_ne equal]
    refine ⟨Eq.trans (Option.map_congr fun row found => ?_) there, rfl⟩
    have free : matched row = false := by
      rw [Bool.eq_false_iff]
      exact fun wrong => equal ((KeyedTable.find?_some.mp found).2.symm.trans (only row wrong))
    simp only [Function.comp, free, Bool.false_eq_true, if_false]

/-- An update that matches no row leaves every page as it is. -/
theorem holds_unmatched (held : Holds store book) (unmatched : ∀ row ∈ store.connections.rows, matched row = false) :
    Holds { store with connections := store.connections.updateWhere matched change same } book := by
  intro other
  obtain ⟨there, known⟩ := held other
  refine ⟨?_, known⟩
  rw [← there, KeyedTable.find?_updateWhere, Option.map_map]
  refine Option.map_congr fun row found => ?_
  simp only [Function.comp, unmatched row (KeyedTable.find?_some.mp found).1, Bool.false_eq_true, if_false]

/-- The update that ends well has run, and it returns a profile just where it matched a row. -/
theorem updateReturning_ok {faults : Faults} {result : Option SavedProfile}
    (ended : updateReturning connectionId matched change same faults store = (.ok result, after)) :
    after = { store with connections := store.connections.updateWhere matched change same } ∧
      result.isSome = store.connections.rows.any matched := by
  have ran := transaction_ok.mp ended
  simp only [bind_ok, control_ok, execute_ok] at ran
  obtain ⟨_, _, ⟨-, rfl⟩, changed, between, ⟨-, wrote⟩, profile, read, reading, _, _, ⟨-, rfl⟩, finished⟩ := ran
  obtain ⟨rfl, rfl⟩ := pure_ok.mp finished
  obtain ⟨rfl, rfl⟩ := Prod.mk.inj (Except.ok.inj wrote)
  refine ⟨readBack_ok reading, ?_⟩
  rw [readBack] at reading
  split at reading
  case isTrue any =>
    obtain ⟨-, found⟩ := execute_ok.mp reading
    split at found
    · rw [← (Prod.mk.inj (Except.ok.inj found)).1, any]
      rfl
    · cases found
  case isFalse none =>
    rw [← (pure_ok.mp reading).1, Bool.eq_false_iff.mpr none]
    rfl

/-- The call around an update: an edit of the row of the id, or a refusal. -/
theorem simulates_edit {faults : Faults} {report : String → AppError} (only : ∀ row, matched row = true → row.id = connectionId)
    (changes : ∀ row, (change row).toSavedProfile = edit row.toSavedProfile) :
    Simulates (do
      let result ← mapError report (updateReturning connectionId matched change same faults)
      orNotFound result) fun book => book.amend connectionId edit where
  accepted {store after book value} held ended := by
    obtain ⟨result, between, ran, reported⟩ := bind_ok.mp ended
    obtain ⟨rfl, found⟩ := updateReturning_ok (mapError_ok.mp ran)
    cases result with
    | none => exact absurd reported fail_ok
    | some profile =>
      rw [← (pure_ok.mp reported).2]
      refine holds_amend held only changes fun row member named => ?_
      obtain ⟨other, there, hit⟩ := List.any_eq_true.mp found.symm
      rwa [store.connections.eq_of_key member there (named.trans (only other hit).symm)]
  refused {store after book error} held ended := by
    change Statements.bind _ _ store = _ at ended
    rw [Statements.bind] at ended
    split at ended
    case h_2 cause between ran =>
      have clean := (clean_transaction _).mapError report store cause between ran
      rw [← (Prod.mk.inj ended).2, clean]
      exact held
    case h_1 result between ran =>
      obtain ⟨rfl, found⟩ := updateReturning_ok (mapError_ok.mp ran)
      cases result with
      | some profile => cases ended
      | none =>
        rw [← (Prod.mk.inj ended).2]
        refine holds_unmatched held fun row member => ?_
        rw [Bool.eq_false_iff]
        exact fun hit => Bool.false_ne_true (found.trans (List.any_eq_true.mpr ⟨row, member, hit⟩))

end Edits

theorem simulates_guardedSave {profile : SavedProfile} {expected : Engine} {error : AppError} {password now : String} {faults : Faults} :
    Simulates (if profile.engine ≠ expected then fail error
      else do
        saveConnectionWithCredential profile password now faults
        pure profile) fun book => book.write profile password := by
  split
  · exact simulates_fail error
  · refine Simulates.result (simulates_of_clean (saveConnectionWithCredential_clean profile password now) fun held ended => ?_) fun _ => profile
    rw [(saveConnectionWithCredential_ok.mp ended).2]
    exact holds_write held profile password now

theorem simulates_renamed (connectionId : Uuid) (name now : String) (faults : Faults) :
    Simulates (ConnectionRepository.renameConnection connectionId name now faults)
      fun book => book.amend connectionId fun saved => { saved with name } := by
  rw [ConnectionRepository.renameConnection]
  exact simulates_edit (fun row hit => of_decide_eq_true hit) fun _ => rfl

theorem simulates_edited (profile : SavedProfile) (now : String) (faults : Faults) :
    Simulates (ConnectionRepository.updateConnectionProfile profile now faults)
      fun book => book.amend profile.id fun saved => { profile with id := saved.id, engine := saved.engine } := by
  rw [ConnectionRepository.updateConnectionProfile]
  refine simulates_edit (fun row hit => ?_) fun _ => rfl
  exact of_decide_eq_true (Bool.and_eq_true_iff.mp hit).1

theorem simulates_renameConnection (connectionId : Uuid) (name now : String) (faults : Faults) :
    Simulates (renameConnection connectionId name now faults)
      fun book => book.amend connectionId fun saved => { saved with name := Text.trim name } := by
  rw [renameConnection]
  split
  · exact simulates_fail _
  · exact simulates_renamed _ _ _ _

theorem simulates_updateConnectionProfile (profile : SavedProfile) (now : String) (faults : Faults) :
    Simulates (updateConnectionProfile profile now faults)
      fun book => book.amend (normalized profile).id fun saved =>
        { normalized profile with id := saved.id, engine := saved.engine } := by
  rw [updateConnectionProfile]
  split
  · exact simulates_fail _
  split
  · exact simulates_fail _
  split
  · exact simulates_fail _
  split
  · exact simulates_fail _
  · exact simulates_edited _ _ _

/-- Every call of the store means to the book what its command does. -/
theorem simulates_call (call : Call) : Simulates call.run fun book => book.apply call.command := by
  obtain ⟨command, now, faults⟩ := call
  cases command with
  | saveMysqlConnection profile password => exact simulates_guardedSave.result fun _ => ()
  | saveRedisConnection profile password => exact simulates_guardedSave.result fun _ => ()
  | renameConnection connectionId name => exact (simulates_renameConnection connectionId name now faults).result fun _ => ()
  | updateConnectionProfile profile => exact (simulates_updateConnectionProfile profile now faults).result fun _ => ()
  | deleteConnection connectionId =>
    refine simulates_of_clean (deleteConnection_clean connectionId) fun held ended => ?_
    exact holds_forget held (deleteConnection_ok ended ▸ rfl) (deleteConnection_ok ended ▸ rfl)
  | saveWorkspace windowLabel tabs =>
    exact simulates_of_preserves (WorkspaceRepository.saveWorkspace_preserves (fun _ _ => rfl) _ _)
      (WorkspaceRepository.saveWorkspace_preserves (fun _ _ => rfl) _ _)
  | transferWorkspaceTab tab sourceWindowLabel targetWindowLabel =>
    exact simulates_of_preserves (WorkspaceRepository.transferWorkspaceTab_preserves (fun _ _ => rfl) _ _ _)
      (WorkspaceRepository.transferWorkspaceTab_preserves (fun _ _ => rfl) _ _ _)
  | recordQueryHistory queryId connectionId sql =>
    exact simulates_of_preserves (WorkspaceRepository.recordQueryHistory_preserves (fun _ _ => rfl) _)
      (WorkspaceRepository.recordQueryHistory_preserves (fun _ _ => rfl) _)
  | saveSqlFolder id engine name =>
    have kept : Simulates (saveSqlFolder id engine name now faults) fun book => book :=
      simulates_of_preserves (saveSqlFolder_preserves (fun _ _ _ => rfl) _ _ _ _)
        (saveSqlFolder_preserves (fun _ _ _ => rfl) _ _ _ _)
    exact kept.result fun _ => ()
  | deleteSqlFolder id =>
    exact simulates_of_preserves (SqlLibraryRepository.deleteSqlFolder_preserves (fun _ _ _ => rfl) _)
      (SqlLibraryRepository.deleteSqlFolder_preserves (fun _ _ _ => rfl) _)
  | saveCommonSql id engine folderId name sqlText =>
    have kept : Simulates (saveCommonSql id engine folderId name sqlText now faults) fun book => book :=
      simulates_of_preserves (saveCommonSql_preserves (fun _ _ _ => rfl) _ _ _ _ _ _)
        (saveCommonSql_preserves (fun _ _ _ => rfl) _ _ _ _ _ _)
    exact kept.result fun _ => ()
  | deleteCommonSql id =>
    exact simulates_of_preserves (SqlLibraryRepository.deleteCommonSql_preserves (fun _ _ _ => rfl) _)
      (SqlLibraryRepository.deleteCommonSql_preserves (fun _ _ _ => rfl) _)

/-- The command of a call that the store accepts. -/
def accepted (store : LocalStore) (call : Call) : Option Command :=
  match (call.run store).1 with
  | .ok _ => some call.command
  | .error _ => none

/-- The book that the accepted calls of a run have written. -/
def written (calls : List Call) : ConnectionBook :=
  (Runs.outputs step accepted default calls).foldl ConnectionBook.apply fun _ => none

theorem step_holds {store : LocalStore} {book : ConnectionBook} (held : Holds store book) (call : Call) :
    Holds (step store call) ((accepted store call).toList.foldl ConnectionBook.apply book) := by
  rw [accepted]
  cases ended : call.run store with
  | mk result after =>
    have final : step store call = after := congrArg Prod.snd ended
    rw [final]
    cases result with
    | error error => exact (simulates_call call).refused held ended
    | ok value => exact (simulates_call call).accepted held ended

theorem run_holds (calls : List Call) : Holds (Runs.run step default calls) (written calls) := by
  refine @Runs.run_history _ _ step default (fun calls store => Holds store (written calls)) (fun _ => ⟨rfl, rfl⟩)
    (fun calls call held => ?_) calls
  rw [written, Runs.outputs_concat, List.foldl_append]
  exact step_holds held call

/-! ### Reads -/

section Reads
variable {store : LocalStore} {book : ConnectionBook}

theorem getConnection_held (held : Holds store book) (connectionId : Uuid) :
    getConnection connectionId none store =
      ((book connectionId).elim (.error connectionNotFoundError) fun saved => .ok saved.profile, store) := by
  have there := (held connectionId).1
  have ran : getConnection connectionId none store =
      orNotFound ((store.connections.find? connectionId).map ConnectionRow.toSavedProfile) store := rfl
  rw [ran, there]
  cases book connectionId <;> rfl

theorem getConnectionCredential_held (held : Holds store book) (connectionId : Uuid) :
    getConnectionCredential connectionId none store =
      ((book connectionId).elim (.error credentialNotFoundError) fun saved => .ok saved.password, store) := by
  have known := (held connectionId).2
  have ran : getConnectionCredential connectionId none store =
      (((store.credentials.find? connectionId).map CredentialRow.password).elim (.error credentialNotFoundError) .ok, store) := by
    rw [getConnectionCredential]
    show Statements.bind _ _ store = _
    rw [Statements.bind]
    cases found : store.credentials.find? connectionId with
    | none => simp only [mapError, query, found, Option.map_none, Option.elim_none, fail]
    | some row => simp only [mapError, query, found, Option.map_some, Option.elim_some, pure, Statements.pure]
  rw [ran, known]
  cases book connectionId <;> rfl

/-- What the order of the list compares. -/
def listingKey (profile : SavedProfile) : String ×ₗ Nat ×ₗ String :=
  toLex ((noCaseKey profile.name).1, toLex ((noCaseKey profile.name).2, profile.id.hyphenated))

theorem listedBefore_iff {left right : SavedProfile} : listedBefore left right = true ↔ listingKey left ≤ listingKey right := by
  rw [listedBefore, listingKey, listingKey, Prod.Lex.toLex_le_toLex, Prod.Lex.toLex_le_toLex]
  simp only [Bool.or_eq_true, Bool.and_eq_true, decide_eq_true_eq]

theorem listingKey_id {left right : SavedProfile} (same : listingKey left = listingKey right) : left.id = right.id := by
  have names := (Prod.mk.inj (toLex.injective same)).2
  have texts := (Prod.mk.inj (toLex.injective names)).2
  cases hid : left.id
  cases hid' : right.id
  rw [hid, hid'] at texts
  exact congrArg Uuid.mk texts

/-- The pages of a book as a list: every profile once, by name without case and then by id. -/
structure Lists (book : ConnectionBook) (profiles : List SavedProfile) : Prop where
  ordered : profiles.Pairwise fun left right => listedBefore left right = true ∧ listedBefore right left = false
  complete : ∀ profile, profile ∈ profiles ↔ ∃ password, book profile.id = some ⟨profile, password⟩

theorem Lists.nodup {profiles : List SavedProfile} (lists : Lists book profiles) : profiles.Nodup := by
  refine lists.ordered.imp fun before same => ?_
  rw [same] at before
  exact Bool.false_ne_true (before.2.symm.trans before.1)

/-- A book has one such list. -/
theorem Lists.unique {profiles others : List SavedProfile} (lists : Lists book profiles) (also : Lists book others) :
    others = profiles := by
  have perm : others.Perm profiles :=
    (List.perm_ext_iff_of_nodup also.nodup lists.nodup).mpr fun profile => (also.complete profile).trans (lists.complete profile).symm
  have strict {listed : List SavedProfile} (lists : Lists book listed) :
      listed.Pairwise fun left right => listingKey left < listingKey right := by
    refine lists.ordered.imp fun before => lt_of_not_ge fun wrong => ?_
    rw [listedBefore_iff.mpr wrong] at before
    exact Bool.noConfusion before.2
  exact List.Perm.eq_of_pairwise (fun _ _ _ _ before behind => absurd before behind.asymm) (strict also) (strict lists) perm

theorem mem_profiles (held : Holds store book) (profile : SavedProfile) :
    profile ∈ store.connections.rows.map ConnectionRow.toSavedProfile ↔ ∃ password, book profile.id = some ⟨profile, password⟩ := by
  have there := (held profile.id).1
  constructor
  · intro member
    obtain ⟨row, listed, rfl⟩ := List.mem_map.mp member
    have found : store.connections.find? row.id = some row := KeyedTable.find?_some.mpr ⟨listed, rfl⟩
    rw [found] at there
    obtain ⟨saved, page, same⟩ := Option.map_eq_some_iff.mp there.symm
    exact ⟨saved.password, by rw [page, ← same]⟩
  · rintro ⟨password, page⟩
    rw [page] at there
    obtain ⟨row, found, same⟩ := Option.map_eq_some_iff.mp there
    exact List.mem_map.mpr ⟨row, (KeyedTable.find?_some.mp found).1, same⟩

theorem listConnections_held (held : Holds store book) :
    ∃ profiles, listConnections (fun _ => none) store = (.ok profiles, store) ∧ Lists book profiles := by
  refine ⟨_, rfl, ?_, fun profile => (List.mem_insertionSort _).trans (mem_profiles held profile)⟩
  have total : Std.Total fun left right : SavedProfile => listedBefore left right = true := by
    refine ⟨fun left right => ?_⟩
    rw [listedBefore_iff, listedBefore_iff]
    exact le_total _ _
  have trans : IsTrans SavedProfile fun left right => listedBefore left right = true := by
    refine ⟨fun left middle right before behind => ?_⟩
    rw [listedBefore_iff] at before behind ⊢
    exact before.trans behind
  have distinct : ((store.connections.rows.map ConnectionRow.toSavedProfile).insertionSort
      fun left right => listedBefore left right = true).Pairwise fun left right => left.id ≠ right.id := by
    have perm := List.perm_insertionSort (fun left right : SavedProfile => listedBefore left right = true)
      (store.connections.rows.map ConnectionRow.toSavedProfile)
    refine List.pairwise_map.mp ((perm.map _).nodup_iff.mpr ?_)
    rw [List.map_map]
    exact store.connections.distinct
  refine ((List.pairwise_insertionSort _ _).and distinct).imp fun both => ?_
  refine ⟨both.1, Bool.eq_false_iff.mpr fun behind => both.2 (listingKey_id (le_antisymm ?_ ?_))⟩
  · exact listedBefore_iff.mp both.1
  · exact listedBefore_iff.mp behind

end Reads

/-- After any calls, reading a connection or its credential gives what the accepted calls wrote
for its id last: both of them, or neither. -/
theorem reads_follow_book (calls : List Call) (connectionId : Uuid) :
    getConnection connectionId none (Runs.run step default calls) =
        ((written calls connectionId).elim (.error connectionNotFoundError) fun saved => .ok saved.profile,
          Runs.run step default calls) ∧
      getConnectionCredential connectionId none (Runs.run step default calls) =
        ((written calls connectionId).elim (.error credentialNotFoundError) fun saved => .ok saved.password,
          Runs.run step default calls) :=
  ⟨getConnection_held (run_holds calls) connectionId, getConnectionCredential_held (run_holds calls) connectionId⟩

/-- The list of connections is decided by the book alone: its profiles, each once and in order,
whatever the calls were that wrote it. -/
theorem list_follows_book (calls : List Call) :
    ∃ profiles, listConnections (fun _ => none) (Runs.run step default calls) = (.ok profiles, Runs.run step default calls) ∧
      Lists (written calls) profiles ∧ ∀ others, Lists (written calls) others → others = profiles := by
  obtain ⟨profiles, ran, lists⟩ := listConnections_held (run_holds calls)
  exact ⟨profiles, ran, lists, fun others also => lists.unique also⟩

end Pipa.StoreCommands
