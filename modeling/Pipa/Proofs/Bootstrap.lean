import Pipa.Bootstrap
import Pipa.Text

/-! Safety of the startup storage. Any number of processes start, fail, crash and lose power
at any operation; the published bootstrap is complete at every moment and is never replaced. -/

namespace Pipa.Bootstrap
open Programs

variable {process other : Nat} {name : String} {inode : Nat} {directory after : Directory}

/-- The temporary names that a process draws, and what it cleans up beside them. -/
def Own (process : Nat) (name : String) : Prop := ∃ rest, name = temporaryName bootstrapDatabaseFilename process rest

theorem own_temporary (process : Nat) (uuid : String) : Own process (temporaryName bootstrapDatabaseFilename process uuid) :=
  ⟨uuid, rfl⟩

theorem own_journal (process : Nat) (uuid : String) :
    Own process (temporaryName bootstrapDatabaseFilename process uuid ++ "-journal") :=
  ⟨uuid ++ "-journal", by simp only [temporaryName, String.append_assoc]⟩

/-- The number of the process ends where its digits do. -/
theorem digits_until {number : Nat} (rest : List Char) :
    (Nat.toDigits 10 number ++ '-' :: rest).takeWhile Char.isDigit = Nat.toDigits 10 number := by
  rw [List.takeWhile_append_of_pos Text.toDigits_isDigit, List.takeWhile_cons_of_neg (by decide), List.append_nil]

theorem own_unique (own : Own process name) (own' : Own other name) : process = other := by
  obtain ⟨rest, rfl⟩ := own
  obtain ⟨rest', same⟩ := own'
  have characters := congrArg String.toList same
  simp only [temporaryName, String.toList_append, Text.toList_toString, List.append_assoc, List.append_cancel_left_eq] at characters
  have digits := congrArg (List.takeWhile Char.isDigit) characters
  rw [show "-".toList = ['-'] from rfl, List.singleton_append, List.singleton_append, digits_until, digits_until] at digits
  have read := congrArg (fun text => Nat.ofDigitChars 10 text 0) digits
  simpa only [Nat.ofDigitChars_ten_toDigits] using read

/-- Temporary names are hidden names, and the two databases are not. -/
theorem own_hidden (own : Own process name) : name.toList.head? = some '.' := by
  obtain ⟨rest, rfl⟩ := own
  simp [temporaryName]

theorem own_ne_bootstrap (own : Own process name) : name ≠ bootstrapDatabaseFilename := by
  rintro rfl
  exact absurd (own_hidden own) (by decide)

theorem own_ne_store (own : Own process name) : name ≠ localDatabaseFilename := by
  rintro rfl
  exact absurd (own_hidden own) (by decide)

/-- A private file with a committed bootstrap, on the medium. -/
def Complete (directory : Directory) (inode : Nat) : Prop :=
  ∃ rootKey, rootKey.length = 32 ∧ directory.files inode = ⟨.bootstrap rootKey, 0o600⟩ ∧ directory.Saved inode

/-- The state of the directory that every operation keeps: inodes ahead are unused, files are
shared between names only with the bootstrap and never by the store, and the bootstrap is
complete and never taken back to another one. -/
structure Sound (directory : Directory) : Prop where
  fresh : ∀ {name inode}, directory.Named name inode → inode < directory.next
  separate : ∀ {first second inode}, directory.Named first inode → directory.Named second inode →
    first = second ∨ first = bootstrapDatabaseFilename ∨ second = bootstrapDatabaseFilename
  storeApart : ∀ {inode}, directory.Named localDatabaseFilename inode → ¬ directory.Named bootstrapDatabaseFilename inode
  complete : ∀ {inode}, directory.names bootstrapDatabaseFilename = some inode → Complete directory inode
  settled : ∀ {inode}, directory.savedNames bootstrapDatabaseFilename = some inode →
    directory.names bootstrapDatabaseFilename = some inode
  storeSettled : ∀ {inode}, directory.savedNames localDatabaseFilename = some inode →
    directory.names localDatabaseFilename = some inode

/-- The encrypted store is still blank, or under the key of the published bootstrap. -/
def UnderRootKey (directory : Directory) (encryptionKey : String) : Prop :=
  ∃ inode rootKey mode, directory.names bootstrapDatabaseFilename = some inode ∧
    directory.files inode = ⟨.bootstrap rootKey, mode⟩ ∧ encryptionKey = encodeRootKey rootKey

/-- What one operation of a process may change. -/
structure Guarantee (process : Nat) (before after : Directory) : Prop where
  names : ∀ {name}, ¬ Own process name → name ≠ bootstrapDatabaseFilename → name ≠ localDatabaseFilename →
    after.names name = before.names name
  bootstrap : ∀ {inode}, before.names bootstrapDatabaseFilename = some inode →
    after.names bootstrapDatabaseFilename = some inode
  published : ∀ {inode}, after.names bootstrapDatabaseFilename = some inode →
    before.names bootstrapDatabaseFilename = some inode ∨ ∃ name, Own process name ∧ before.names name = some inode
  settled : ∀ {inode}, before.savedNames bootstrapDatabaseFilename = some inode →
    after.savedNames bootstrapDatabaseFilename = some inode
  medium : ∀ name, after.savedNames name = before.savedNames name ∨ after.savedNames name = before.names name
  store : ∀ {inode}, before.names localDatabaseFilename = some inode → after.names localDatabaseFilename = some inode
  created : ∀ {inode}, after.names localDatabaseFilename = some inode →
    before.names localDatabaseFilename = some inode ∨ (after.files inode).content = .blank
  files : ∀ {inode}, inode < before.next →
    (after.files inode = before.files inode ∧ (before.Saved inode → after.Saved inode)) ∨
    (∃ name, Own process name ∧ before.names name = some inode ∧ before.names bootstrapDatabaseFilename ≠ some inode) ∨
    (before.names localDatabaseFilename = some inode ∧ (before.files inode).content = .blank ∧
      ∃ encryptionKey, (after.files inode).content = .store encryptionKey ∧ UnderRootKey before encryptionKey)

/-- What a process may rely on: its own temporary files stay, the bootstrap stays once
published, and so does an encrypted store. -/
structure Rely (process : Nat) (before after : Directory) : Prop where
  own : ∀ {name}, Own process name → after.names name = before.names name
  files : ∀ {name inode}, Own process name → before.names name = some inode →
    after.files inode = before.files inode ∧ (before.Saved inode → after.Saved inode)
  apart : ∀ {name inode}, Own process name → before.names name = some inode →
    before.names bootstrapDatabaseFilename ≠ some inode → after.names bootstrapDatabaseFilename ≠ some inode
  bootstrap : ∀ {inode}, before.names bootstrapDatabaseFilename = some inode →
    after.names bootstrapDatabaseFilename = some inode ∧ after.files inode = before.files inode
  settled : ∀ {inode}, before.savedNames bootstrapDatabaseFilename = some inode →
    after.savedNames bootstrapDatabaseFilename = some inode
  store : ∀ {inode}, before.names localDatabaseFilename = some inode → after.names localDatabaseFilename = some inode ∧
    ∀ encryptionKey, (before.files inode).content = .store encryptionKey → (after.files inode).content = .store encryptionKey

theorem rely_refl (process : Nat) (directory : Directory) : Rely process directory directory where
  own _ := rfl
  files _ _ := ⟨rfl, id⟩
  apart _ _ := id
  bootstrap named := ⟨named, rfl⟩
  settled := id
  store named := ⟨named, fun _ => id⟩

theorem rely_trans {first middle last : Directory} (early : Rely process first middle) (late : Rely process middle last) :
    Rely process first last where
  own own := (late.own own).trans (early.own own)
  files own named := by
    obtain ⟨same, saved⟩ := early.files own named
    obtain ⟨same', saved'⟩ := late.files own ((early.own own).trans named)
    exact ⟨same'.trans same, saved' ∘ saved⟩
  apart own named different := late.apart own ((early.own own).trans named) (early.apart own named different)
  bootstrap named := by
    obtain ⟨kept, same⟩ := early.bootstrap named
    obtain ⟨kept', same'⟩ := late.bootstrap kept
    exact ⟨kept', same'.trans same⟩
  settled saved := late.settled (early.settled saved)
  store named := by
    obtain ⟨kept, sealed⟩ := early.store named
    obtain ⟨kept', sealed'⟩ := late.store kept
    exact ⟨kept', fun key held => sealed' key (sealed key held)⟩

/-- Two processes share no temporary file. -/
theorem Sound.own_apart (sound : Sound directory) {name' : String} (own : Own process name) (named : directory.names name = some inode)
    (own' : Own other name') (named' : directory.names name' = some inode) : process = other := by
  rcases sound.separate (.inl named) (.inl named') with same | same | same
  · subst same
    exact own_unique own own'
  · exact absurd same (own_ne_bootstrap own)
  · exact absurd same (own_ne_bootstrap own')

theorem Sound.own_not_store (sound : Sound directory) (own : Own process name) (named : directory.names name = some inode) :
    directory.names localDatabaseFilename ≠ some inode := by
  intro stored
  rcases sound.separate (.inl named) (.inl stored) with same | same | same
  · exact own_ne_store own same
  · exact own_ne_bootstrap own same
  · exact absurd same (by decide)

theorem compatible (different : process ≠ other) (sound : Sound directory) (given : Guarantee process directory after) :
    Rely other directory after where
  own own := given.names (fun own' => different (own_unique own' own)) (own_ne_bootstrap own) (own_ne_store own)
  files own named := by
    rcases given.files (sound.fresh (.inl named)) with same | ⟨name', own', named', -⟩ | ⟨stored, -⟩
    · exact same
    · exact absurd (sound.own_apart own' named' own named) different
    · exact absurd stored (sound.own_not_store own named)
  apart own named free := by
    intro published
    rcases given.published published with already | ⟨name', own', named'⟩
    · exact free already
    · exact different (sound.own_apart own' named' own named)
  bootstrap named := by
    refine ⟨given.bootstrap named, ?_⟩
    rcases given.files (sound.fresh (.inl named)) with same | ⟨_, -, -, free⟩ | ⟨stored, -⟩
    · exact same.1
    · exact absurd named free
    · exact absurd (.inl named) (sound.storeApart (.inl stored))
  settled := given.settled
  store named := by
    refine ⟨given.store named, ?_⟩
    intro encryptionKey held
    rcases given.files (sound.fresh (.inl named)) with same | ⟨_, own', named', -⟩ | ⟨-, blank, -⟩
    · rw [same.1]
      exact held
    · exact absurd named (sound.own_not_store own' named')
    · rw [blank] at held
      cases held

def protocol : Protocol Directory where
  invariant := Sound
  rely := Rely
  guarantee := Guarantee
  rely_refl := rely_refl
  rely_trans := rely_trans
  compatible := compatible

/-- A step that keeps the directory sound and changes only what the process may. -/
def Allowed (process : Nat) (before after : Directory) : Prop := Sound after ∧ Guarantee process before after

theorem guarantee_refl (process : Nat) (directory : Directory) : Guarantee process directory directory where
  names _ _ _ := rfl
  bootstrap := id
  published := .inl
  settled := id
  medium _ := .inl rfl
  store := id
  created := .inl
  files _ := .inl ⟨rfl, id⟩

theorem Sound.same (sound : Sound directory) (process : Nat) : Allowed process directory directory :=
  ⟨sound, guarantee_refl process directory⟩

/-- A file that only an own name leads to. -/
structure Private (directory : Directory) (process : Nat) (name : String) (inode : Nat) : Prop where
  own : Own process name
  named : directory.names name = some inode
  unpublished : directory.names bootstrapDatabaseFilename ≠ some inode

theorem Sound.unnamed (sound : Sound directory) {inode : Nat} (named : directory.Named name inode) : inode ≠ directory.next :=
  Nat.ne_of_lt (sound.fresh named)

theorem named_create {file : File} {found : String} (named : (directory.create name file).Named found inode) :
    directory.Named found inode ∨ found = name ∧ inode = directory.next :=
  Disk.named_setName named

theorem Complete.create {file : File} (complete : Complete directory inode) (older : inode < directory.next) :
    Complete (directory.create name file) inode := by
  obtain ⟨rootKey, length, held, saved⟩ := complete
  refine ⟨rootKey, length, (Disk.create_files older).trans held, ?_⟩
  rw [Disk.Saved, Disk.create_files older]
  exact saved

/-- A new file under a name that is not the bootstrap's. -/
theorem Sound.create {file : File} (sound : Sound directory) (different : name ≠ bootstrapDatabaseFilename)
    (free : directory.names name = none) : Sound (directory.create name file) := by
  have kept : (directory.create name file).names bootstrapDatabaseFilename = directory.names bootstrapDatabaseFilename :=
    Disk.create_names_of_ne (Ne.symm different)
  constructor
  case fresh =>
    intro found inode named
    rcases named_create named with named | ⟨-, rfl⟩
    · exact Nat.lt_succ_of_lt (sound.fresh named)
    · exact Nat.lt_succ_self _
  case separate =>
    intro first second inode named named'
    rcases named_create named with old | ⟨rfl, rfl⟩
    · rcases named_create named' with old' | ⟨-, new⟩
      · exact sound.separate old old'
      · exact absurd new (sound.unnamed old)
    · rcases named_create named' with old' | ⟨same, -⟩
      · exact absurd rfl (sound.unnamed old')
      · exact .inl same.symm
  case storeApart =>
    intro inode stored published
    rcases named_create published with published | ⟨same, -⟩
    · rcases named_create stored with stored | ⟨-, rfl⟩
      · exact sound.storeApart stored published
      · exact sound.unnamed published rfl
    · exact different same.symm
  case complete =>
    intro inode named
    rw [kept] at named
    exact (sound.complete named).create (sound.fresh (.inl named))
  case settled =>
    intro inode saved
    rw [kept]
    exact sound.settled saved
  case storeSettled =>
    intro inode saved
    have named := sound.storeSettled saved
    have other : localDatabaseFilename ≠ name := by
      rintro rfl
      rw [free] at named
      cases named
    exact (Disk.create_names_of_ne other).trans named

theorem allowed_createPrivate {file : File} (sound : Sound directory) (own : Own process name) (free : directory.names name = none) :
    Allowed process directory (directory.create name file) := by
  refine ⟨sound.create (own_ne_bootstrap own) free, ?_⟩
  have kept {other : String} (different : other ≠ name) : (directory.create name file).names other = directory.names other :=
    Disk.create_names_of_ne different
  have bootstrap := kept (own_ne_bootstrap own).symm
  have store := kept (own_ne_store own).symm
  constructor
  case names => exact fun foreign _ _ => kept fun same => foreign (same ▸ own)
  case bootstrap => exact fun named => bootstrap.trans named
  case published => exact fun named => .inl (bootstrap ▸ named)
  case settled => exact id
  case medium => exact fun _ => .inl rfl
  case store => exact fun named => store.trans named
  case created => exact fun named => .inl (store ▸ named)
  case files =>
    intro inode older
    refine .inl ⟨Disk.create_files older, ?_⟩
    rw [Disk.Saved, Disk.Saved, Disk.create_files older]
    exact id

theorem allowed_createStore {mode : Nat} (sound : Sound directory) (free : directory.names localDatabaseFilename = none) :
    Allowed process directory (directory.create localDatabaseFilename ⟨.blank, mode⟩) := by
  refine ⟨sound.create (by decide) free, ?_⟩
  have kept {other : String} (different : other ≠ localDatabaseFilename) :
      (directory.create localDatabaseFilename ⟨.blank, mode⟩).names other = directory.names other :=
    Disk.create_names_of_ne different
  have bootstrap := @kept bootstrapDatabaseFilename (by decide)
  constructor
  case names => exact fun _ _ different => kept different
  case bootstrap => exact fun named => bootstrap.trans named
  case published => exact fun named => .inl (bootstrap ▸ named)
  case settled => exact id
  case medium => exact fun _ => .inl rfl
  case store =>
    intro inode named
    rw [free] at named
    cases named
  case created =>
    intro inode named
    obtain rfl : directory.next = inode := by simpa using named
    exact .inr (by rw [Disk.create_files_next])
  case files =>
    intro inode older
    refine .inl ⟨Disk.create_files older, ?_⟩
    rw [Disk.Saved, Disk.Saved, Disk.create_files older]
    exact id

/-- Writing a file that is not the published bootstrap. -/
theorem Sound.write {target : Nat} {file : File} (sound : Sound directory)
    (unpublished : directory.names bootstrapDatabaseFilename ≠ some target) : Sound (directory.write target file) where
  fresh := sound.fresh
  separate := sound.separate
  storeApart := sound.storeApart
  complete named := by
    have different : _ ≠ target := fun same => unpublished (same ▸ named)
    obtain ⟨rootKey, length, held, saved⟩ := sound.complete named
    refine ⟨rootKey, length, (Disk.write_files_of_ne different).trans held, ?_⟩
    rw [Disk.Saved, Disk.write_files_of_ne different]
    exact saved
  settled := sound.settled
  storeSettled := sound.storeSettled

theorem written_files {target : Nat} {file : File} (different : inode ≠ target) :
    (directory.write target file).files inode = directory.files inode ∧
      (directory.Saved inode → (directory.write target file).Saved inode) := by
  refine ⟨Disk.write_files_of_ne different, ?_⟩
  rw [Disk.Saved, Disk.Saved, Disk.write_files_of_ne different]
  exact id

theorem allowed_write {file : File} (sound : Sound directory) (mine : Private directory process name inode) :
    Allowed process directory (directory.write inode file) := by
  refine ⟨sound.write mine.unpublished, ?_⟩
  constructor
  case names => exact fun _ _ _ => rfl
  case bootstrap => exact id
  case published => exact .inl
  case settled => exact id
  case medium => exact fun _ => .inl rfl
  case store => exact id
  case created => exact .inl
  case files =>
    intro target older
    by_cases same : target = inode
    · subst same
      exact .inr (.inl ⟨name, mine.own, mine.named, mine.unpublished⟩)
    · exact .inl (written_files same)

/-- The blank store takes the key of the published bootstrap. -/
theorem allowed_unlock {encryptionKey : String} (sound : Sound directory) (named : directory.names localDatabaseFilename = some inode)
    (blank : (directory.files inode).content = .blank) (underRootKey : UnderRootKey directory encryptionKey) :
    Allowed process directory (writeContent directory inode (.store encryptionKey)) := by
  have unpublished : directory.names bootstrapDatabaseFilename ≠ some inode :=
    fun published => sound.storeApart (.inl named) (.inl published)
  refine ⟨sound.write unpublished, ?_⟩
  constructor
  case names => exact fun _ _ _ => rfl
  case bootstrap => exact id
  case published => exact .inl
  case settled => exact id
  case medium => exact fun _ => .inl rfl
  case store => exact id
  case created => exact .inl
  case files =>
    intro target older
    by_cases same : target = inode
    · subst same
      refine .inr (.inr ⟨named, blank, encryptionKey, ?_, underRootKey⟩)
      rw [writeContent, Disk.write_files_self]
    · exact .inl (written_files same)

theorem allowed_syncFile (sound : Sound directory) (process inode : Nat) :
    Allowed process directory (directory.syncFile inode) := by
  constructor
  · exact {
      fresh := sound.fresh
      separate := sound.separate
      storeApart := sound.storeApart
      complete := fun named => by
        obtain ⟨rootKey, length, held, saved⟩ := sound.complete named
        exact ⟨rootKey, length, held, saved.syncFile⟩
      settled := sound.settled
      storeSettled := sound.storeSettled }
  · exact { guarantee_refl process directory with files := fun _ => .inl ⟨rfl, Disk.Saved.syncFile⟩ }

theorem allowed_syncNames (sound : Sound directory) (process : Nat) : Allowed process directory directory.syncNames := by
  constructor
  · exact {
      fresh := fun named => sound.fresh (Disk.named_syncNames named)
      separate := fun named named' => sound.separate (Disk.named_syncNames named) (Disk.named_syncNames named')
      storeApart := fun stored published => sound.storeApart (Disk.named_syncNames stored) (Disk.named_syncNames published)
      complete := sound.complete
      settled := id
      storeSettled := id }
  · exact { guarantee_refl process directory with settled := sound.settled, medium := fun _ => .inr rfl }

theorem Sound.remove (sound : Sound directory) (different : name ≠ bootstrapDatabaseFilename) (different' : name ≠ localDatabaseFilename) :
    Sound (directory.setName name none) where
  fresh named := sound.fresh (Disk.named_remove named)
  separate named named' := sound.separate (Disk.named_remove named) (Disk.named_remove named')
  storeApart stored published := sound.storeApart (Disk.named_remove stored) (Disk.named_remove published)
  complete named := by
    rw [Disk.setName_names_of_ne (Ne.symm different)] at named
    exact sound.complete named
  settled saved := by
    rw [Disk.setName_names_of_ne (Ne.symm different)]
    exact sound.settled saved
  storeSettled saved := by
    rw [Disk.setName_names_of_ne (Ne.symm different')]
    exact sound.storeSettled saved

theorem allowed_remove (sound : Sound directory) (own : Own process name) :
    Allowed process directory (directory.setName name none) := by
  refine ⟨sound.remove (own_ne_bootstrap own) (own_ne_store own), ?_⟩
  have kept {other : String} (different : other ≠ name) : (directory.setName name none).names other = directory.names other :=
    Disk.setName_names_of_ne different
  have bootstrap := kept (own_ne_bootstrap own).symm
  have store := kept (own_ne_store own).symm
  exact {
    guarantee_refl process directory with
    names := fun foreign _ _ => kept fun same => foreign (same ▸ own)
    bootstrap := fun named => bootstrap.trans named
    published := fun named => .inl (bootstrap ▸ named)
    store := fun named => store.trans named
    created := fun named => .inl (store ▸ named) }

/-- Publishing a complete private file under the free name of the bootstrap. -/
theorem Sound.publish (sound : Sound directory) (mine : Private directory process name inode) (complete : Complete directory inode)
    (free : directory.names bootstrapDatabaseFilename = none) :
    Sound (directory.setName bootstrapDatabaseFilename (some inode)) := by
  have apart {found : String} {target : Nat} (named : (directory.setName bootstrapDatabaseFilename (some inode)).Named found target) :
      directory.Named found target ∨ found = bootstrapDatabaseFilename ∧ target = inode := Disk.named_setName named
  constructor
  case fresh =>
    intro found target named
    rcases apart named with named | ⟨-, rfl⟩
    · exact sound.fresh named
    · exact sound.fresh (.inl mine.named)
  case separate =>
    intro first second target named named'
    rcases apart named with named | ⟨rfl, -⟩
    · rcases apart named' with named' | ⟨rfl, -⟩
      · exact sound.separate named named'
      · exact .inr (.inr rfl)
    · exact .inr (.inl rfl)
  case storeApart =>
    intro target stored published
    rcases apart stored with stored | ⟨same, -⟩
    · rcases apart published with published | ⟨-, rfl⟩
      · exact sound.storeApart stored published
      · rcases sound.separate (.inl mine.named) stored with same | same | same
        · exact own_ne_store mine.own same
        · exact own_ne_bootstrap mine.own same
        · exact absurd same (by decide)
    · exact absurd same (by decide)
  case complete =>
    intro target named
    rw [Disk.setName_names_self] at named
    obtain rfl := Option.some.inj named
    exact complete
  case settled =>
    intro target saved
    have named := sound.settled saved
    rw [free] at named
    cases named
  case storeSettled => exact fun saved => (Disk.setName_names_of_ne (by decide)).trans (sound.storeSettled saved)

theorem allowed_link (sound : Sound directory) (mine : Private directory process name inode) (complete : Complete directory inode)
    (free : directory.names bootstrapDatabaseFilename = none) (drop : Bool) :
    Allowed process directory (if drop then (directory.setName bootstrapDatabaseFilename (some inode)).setName name none
      else directory.setName bootstrapDatabaseFilename (some inode)) := by
  have published := sound.publish mine complete free
  have linked : Guarantee process directory (directory.setName bootstrapDatabaseFilename (some inode)) := {
    guarantee_refl process directory with
    names := fun _ different _ => Disk.setName_names_of_ne different
    bootstrap := fun named => by
      rw [free] at named
      cases named
    published := fun named => by
      rw [Disk.setName_names_self] at named
      obtain rfl := Option.some.inj named
      exact .inr ⟨name, mine.own, mine.named⟩
    store := fun named => (Disk.setName_names_of_ne (by decide)).trans named
    created := fun named => .inl (by rwa [Disk.setName_names_of_ne (by decide)] at named) }
  cases drop with
  | false => exact ⟨published, linked⟩
  | true =>
    refine ⟨published.remove (own_ne_bootstrap mine.own) (own_ne_store mine.own), ?_⟩
    have kept {found : String} (different : found ≠ name) :
        ((directory.setName bootstrapDatabaseFilename (some inode)).setName name none).names found =
          (directory.setName bootstrapDatabaseFilename (some inode)).names found := Disk.setName_names_of_ne different
    exact {
      guarantee_refl process directory with
      names := fun {found} foreign different store => by
        have other : found ≠ name := fun same => foreign (same ▸ mine.own)
        exact (kept other).trans (linked.names foreign different store)
      bootstrap := fun named => (kept (own_ne_bootstrap mine.own).symm).trans (linked.bootstrap named)
      published := fun named => linked.published ((kept (own_ne_bootstrap mine.own).symm) ▸ named)
      store := fun named => (kept (own_ne_store mine.own).symm).trans (linked.store named)
      created := fun named => linked.created ((kept (own_ne_store mine.own).symm) ▸ named) }

/-- Facts about the directory that hold for good, whatever the other processes do. -/
def Stable (process : Nat) (fact : Directory → Prop) : Prop :=
  ∀ {before after}, Rely process before after → fact before → fact after

abbrev Obeys {α : Type} (process : Nat) (fact : α → Directory → Prop) (action : Action α) (directory : Directory) : Prop :=
  Keeps protocol serve process (Succeeds fact) action directory

section
variable {α β : Type} {fact : α → Directory → Prop} {middle : β → Directory → Prop}

theorem obeys_done {outcome : Except AppError α} (stable : ∀ value, Stable process (fact value)) (held : Succeeds fact outcome directory) :
    Obeys process fact (Program.done outcome : Program Operation Reply _) directory :=
  fun _ changed value same => stable value changed (held value same)

theorem obeys_pure {value : α} (stable : Stable process (fact value)) (held : fact value directory) :
    Obeys process fact (pure value) directory := by
  intro later changed found same
  obtain rfl := Except.ok.inj same
  exact stable changed held

theorem obeys_throw (error : AppError) : Obeys process fact (throw error) directory := by
  intro later changed value same
  cases same

theorem obeys_bind {action : Action β} {next : β → Action α} (first : Obeys process middle action directory)
    (rest : ∀ value later, middle value later → Obeys process fact (next value) later) :
    Obeys process fact (action >>= next) directory := by
  refine first.andThen ?_ ?_
  · exact fun error state _ => obeys_throw error
  · exact fun value state held => rest value state (held value rfl)

theorem obeys_mono {action : Action α} {weaker : α → Directory → Prop} (obeys : Obeys process fact action directory)
    (implies : ∀ value later, fact value later → weaker value later) : Obeys process weaker action directory :=
  obeys.mono fun _ state held value same => implies value state (held value same)

theorem obeys_attempt {operation : Operation} {reply : Reply operation → Except AppError α}
    (stable : ∀ value, Stable process (fact value))
    (step : ∀ later, Rely process directory later → Sound later → ∀ world,
      Allowed process later (serve world operation later).2 ∧ Succeeds fact (reply (serve world operation later).1) (serve world operation later).2) :
    Obeys process fact (attempt operation reply) directory := by
  intro later changed sound world
  obtain ⟨⟨kept, given⟩, held⟩ := step later changed sound world
  exact ⟨kept, given, obeys_done stable held⟩

/-- A step and its result, when the world does not let it fail. -/
def Does (process : Nat) (before : Directory) (fact : α → Directory → Prop) (result : Except String α × Directory) : Prop :=
  Allowed process before result.2 ∧ ∀ value, result.1 = .ok value → fact value result.2

variable {later : Directory}

theorem does_ok {value : α} (allowed : Allowed process later after) (held : fact value after) :
    Does process later fact (.ok value, after) := by
  refine ⟨allowed, ?_⟩
  intro found same
  obtain rfl := Except.ok.inj same
  exact held

theorem does_error (sound : Sound later) (error : String) : Does process later fact (.error error, later) := by
  refine ⟨sound.same process, ?_⟩
  intro value same
  cases same

theorem does_onFile {edit : Nat → Except String α × Directory} (sound : Sound later)
    (given : ∀ inode, later.names name = some inode → Does process later fact (edit inode)) :
    Does process later fact (onFile later name edit) := by
  rw [onFile]
  cases found : later.names name with
  | none => exact does_error sound _
  | some inode => exact given inode found

theorem allowed_orFault {fault : Option String} {result : Except String α × Directory} (sound : Sound later)
    (does : Does process later fact result) : Allowed process later (orFault later fault result).2 := by
  cases fault with
  | some error => exact sound.same process
  | none => exact does.1

theorem step_orFault {fault : Option String} {result : Except String α × Directory} {report : String → AppError}
    (sound : Sound later) (does : Does process later fact result) :
    Allowed process later (orFault later fault result).2 ∧
      Succeeds fact (Except.mapError report (orFault later fault result).1) (orFault later fault result).2 := by
  refine ⟨allowed_orFault sound does, ?_⟩
  intro value same
  cases fault with
  | some error => cases same
  | none =>
    obtain ⟨outcome, next⟩ := result
    cases outcome with
    | error error => cases same
    | ok found =>
      obtain rfl := Except.ok.inj same
      exact does.2 found rfl

/-- A fact that holds for good is kept beside what an action establishes. -/
theorem obeys_frame {frame : Directory → Prop} {action : Action α} (lasting : ∀ process, Stable process frame)
    (obeys : Obeys process fact action directory) (held : frame directory) :
    Obeys process (fun value directory => fact value directory ∧ frame directory) action directory := by
  have given {before after : Directory} (sound : Sound before) (changed : Guarantee process before after) (held : frame before) :
      frame after := lasting (process + 1) (compatible (Nat.ne_of_lt (Nat.lt_succ_self process)) sound changed) held
  have relied {before after : Directory} (changed : Rely process before after) (held : frame before) : frame after :=
    lasting process changed held
  have framed := @Keeps.frame _ _ _ _ _ protocol serve process _ directory action frame relied given obeys held
  exact framed.mono fun outcome state both value same => ⟨both.1 value same, both.2⟩

end

theorem stable_true {process : Nat} : Stable process fun _ => True := fun _ _ => trivial

/-- A private file of the process with what it holds. -/
def Draft (process : Nat) (name : String) (file : File) (directory : Directory) : Prop :=
  ∃ inode, Private directory process name inode ∧ directory.files inode = file

/-- A private file that is ready to be published. -/
def Prepared (process : Nat) (name : String) (rootKey : List UInt8) (directory : Directory) : Prop :=
  ∃ inode, Private directory process name inode ∧ directory.files inode = ⟨.bootstrap rootKey, 0o600⟩ ∧ directory.Saved inode

/-- The published bootstrap holds this root key. -/
def Published (rootKey : List UInt8) (directory : Directory) : Prop :=
  rootKey.length = 32 ∧ ∃ inode, directory.names bootstrapDatabaseFilename = some inode ∧
    directory.files inode = ⟨.bootstrap rootKey, 0o600⟩

/-- The name of the bootstrap survives a power loss. -/
def Settled (directory : Directory) : Prop := ∃ inode, directory.savedNames bootstrapDatabaseFilename = some inode

def StoreNamed (directory : Directory) : Prop := ∃ inode, directory.names localDatabaseFilename = some inode

def StoreUnder (encryptionKey : String) (directory : Directory) : Prop :=
  ∃ inode, directory.names localDatabaseFilename = some inode ∧ (directory.files inode).content = .store encryptionKey

theorem Private.later (mine : Private directory process name inode) (changed : Rely process directory after) :
    Private after process name inode where
  own := mine.own
  named := (changed.own mine.own).trans mine.named
  unpublished := changed.apart mine.own mine.named mine.unpublished

theorem stable_draft {file : File} : Stable process (Draft process name file) := by
  rintro before after changed ⟨inode, mine, held⟩
  exact ⟨inode, mine.later changed, (changed.files mine.own mine.named).1.trans held⟩

theorem stable_prepared {rootKey : List UInt8} : Stable process (Prepared process name rootKey) := by
  rintro before after changed ⟨inode, mine, held, saved⟩
  obtain ⟨same, kept⟩ := changed.files mine.own mine.named
  exact ⟨inode, mine.later changed, same.trans held, kept saved⟩

theorem stable_published {rootKey : List UInt8} : Stable process (Published rootKey) := by
  rintro before after changed ⟨length, inode, named, held⟩
  obtain ⟨kept, same⟩ := changed.bootstrap named
  exact ⟨length, inode, kept, same.trans held⟩

theorem stable_settled : Stable process Settled := by
  rintro before after changed ⟨inode, saved⟩
  exact ⟨inode, changed.settled saved⟩

theorem stable_storeNamed : Stable process StoreNamed := by
  rintro before after changed ⟨inode, named⟩
  exact ⟨inode, (changed.store named).1⟩

theorem stable_storeUnder {encryptionKey : String} : Stable process (StoreUnder encryptionKey) := by
  rintro before after changed ⟨inode, named, held⟩
  obtain ⟨kept, sealed⟩ := changed.store named
  exact ⟨inode, kept, sealed encryptionKey held⟩

theorem stable_and {first second : Directory → Prop} (stable : Stable process first) (stable' : Stable process second) :
    Stable process fun directory => first directory ∧ second directory :=
  fun changed held => ⟨stable changed held.1, stable' changed held.2⟩

theorem stable_const (process : Nat) (fact : Prop) : Stable process fun _ => fact := fun _ held => held

section
variable (directory)

/-- An operation that leaves the directory as it is keeps what holds for good. -/
theorem obeys_idle {α : Type} {operation : Operation} {reply : Reply operation → Except AppError α} {fact : Directory → Prop}
    (stable : Stable process fact) (held : fact directory)
    (idle : ∀ later, fact later → ∀ world, (serve world operation later).2 = later) :
    Obeys process (fun _ => fact) (attempt operation reply) directory := by
  refine obeys_attempt (fun _ => stable) ?_
  intro later changed sound world
  rw [idle later (stable changed held) world]
  exact ⟨sound.same process, fun _ _ => stable changed held⟩

theorem orFault_same {α : Type} {later : Directory} {fault : Option String} {result : Except String α × Directory} (same : result.2 = later) :
    (orFault later fault result).2 = later := by
  cases fault with
  | some error => rfl
  | none => exact same

theorem obeys_tryPathExists {fact : Directory → Prop} (stable : Stable process fact) (held : fact directory) (found operation : String) :
    Obeys process (fun _ => fact) (tryPathExists found operation) directory :=
  obeys_idle directory stable held fun _ _ _ => orFault_same rfl

theorem obeys_validateRootKey (rootKey : List UInt8) :
    Obeys process (fun _ _ => rootKey.length = 32) (validateRootKey rootKey) directory := by
  rw [validateRootKey]
  split
  case isTrue length => exact obeys_pure (stable_const process _) length
  case isFalse => exact obeys_throw _

/-- The published bootstrap is private already. -/
theorem obeys_secureFilePermissions :
    Obeys process (fun _ _ => True) (secureFilePermissions bootstrapDatabaseFilename) directory := by
  refine obeys_attempt (fun _ => stable_true) ?_
  intro later _ sound world
  refine step_orFault sound (does_onFile sound ?_)
  intro inode named
  obtain ⟨rootKey, -, held, -⟩ := sound.complete named
  apply does_ok
  · rw [Disk.write_files_eq (by rw [held])]
    exact sound.same process
  · trivial

theorem obeys_configureBootstrap (found : String) : Obeys process (fun _ _ => True) (configureBootstrap found) directory := by
  refine obeys_attempt (fun _ => stable_true) ?_
  intro later _ sound world
  refine step_orFault sound (does_onFile sound ?_)
  intro inode named
  rw [configure]
  split
  · exact does_ok (sound.same process) trivial
  · exact does_ok (sound.same process) trivial
  · exact does_error sound _
  · exact does_error sound _

theorem obeys_openExisting : Obeys process (fun store _ => store.path = bootstrapDatabaseFilename)
    (BootstrapStore.openExisting bootstrapDatabaseFilename) directory := by
  refine obeys_bind (obeys_secureFilePermissions directory) ?_
  intro _ secured _
  have connected : Obeys process (fun _ _ => True) (attempt (.connect bootstrapDatabaseFilename false)
      (Except.mapError (bootstrapError "Could not open local storage bootstrap" "open bootstrap"))) secured := by
    refine obeys_attempt (fun _ => stable_true) ?_
    intro later _ sound world
    refine step_orFault sound ?_
    rw [connect]
    split
    · exact does_ok (sound.same process) trivial
    · exact does_error sound _
  refine obeys_bind connected ?_
  intro _ opened _
  refine obeys_bind (obeys_configureBootstrap opened bootstrapDatabaseFilename) ?_
  intro _ configured _
  exact obeys_pure (stable_const process _) rfl

/-- What is loaded is what is published. -/
theorem obeys_load {store : BootstrapStore} (path : store.path = bootstrapDatabaseFilename) :
    Obeys process Published store.load directory := by
  have read : Obeys process Published (attempt (.queryRootKey store.path)
      (Except.mapError (bootstrapError "Could not read local storage bootstrap" "read bootstrap state"))) directory := by
    refine obeys_attempt (fun _ => stable_published) ?_
    intro later _ sound world
    refine step_orFault sound (does_onFile sound ?_)
    intro inode named
    rw [path] at named
    obtain ⟨rootKey, length, held, -⟩ := sound.complete named
    rw [queryRootKey, held]
    exact does_ok (sound.same process) ⟨length, inode, named, held⟩
  refine obeys_bind read ?_
  intro rootKey later published
  refine obeys_bind (obeys_frame (fun _ => stable_published) (obeys_validateRootKey later rootKey) published) ?_
  exact fun _ validated held => obeys_pure stable_published held.2

/-- A step on a private file, from where it is known to be. -/
theorem obeys_onDraft {file : File} {operation : Operation} {reply : Reply operation → Except AppError Unit} {fact : Directory → Prop}
    (drafted : Draft process name file directory) (stable : Stable process fact)
    (step : ∀ later inode, Sound later → Private later process name inode → later.files inode = file → ∀ world,
      Allowed process later (serve world operation later).2 ∧
        Succeeds (fun _ => fact) (reply (serve world operation later).1) (serve world operation later).2) :
    Obeys process (fun _ => fact) (attempt operation reply) directory := by
  refine obeys_attempt (fun _ => stable) ?_
  intro later changed sound world
  obtain ⟨inode, mine, held⟩ := stable_draft changed drafted
  exact step later inode sound mine held world

theorem obeys_createPrivateFile (own : Own process name) :
    Obeys process (fun _ => Draft process name ⟨.blank, 0o600⟩) (createPrivateFile name) directory := by
  refine obeys_attempt (fun _ => stable_draft) ?_
  intro later _ sound world
  refine step_orFault sound ?_
  rw [createNew]
  cases free : later.names name with
  | some inode => exact does_error sound _
  | none =>
    refine does_ok (allowed_createPrivate sound own free) ⟨later.next, ⟨own, Disk.create_names_self, ?_⟩, Disk.create_files_next⟩
    rw [Disk.create_names_of_ne (own_ne_bootstrap own).symm]
    exact fun named => sound.unnamed (.inl named) rfl

/-- The temporary bootstrap is ready to be published where its initialization succeeds. -/
theorem obeys_initializeTemporaryBootstrap (own : Own process name) (rootKey : List UInt8) :
    Obeys process (fun _ => Prepared process name rootKey) (initializeTemporaryBootstrap name rootKey) directory := by
  refine obeys_bind (obeys_createPrivateFile directory own) ?_
  intro _ created drafted
  refine obeys_bind (obeys_idle created stable_draft drafted ?_) ?_
  · rintro later ⟨inode, mine, held⟩ world
    apply orFault_same
    rw [connect, mine.named]
  intro _ connected drafted
  refine obeys_bind (obeys_idle connected stable_draft drafted ?_) ?_
  · rintro later ⟨inode, mine, held⟩ world
    apply orFault_same
    have configured : configure later inode = (.ok (), later) := by rw [configure, held]
    rw [onFile, mine.named]
    exact congrArg Prod.snd configured
  intro _ configured drafted
  refine obeys_bind (obeys_idle configured stable_draft drafted fun later _ world => orFault_same rfl) ?_
  intro _ begun drafted
  have committed : Obeys process (fun _ => Draft process name ⟨.bootstrap rootKey, 0o600⟩) (attempt (.commitState name rootKey)
      (Except.mapError (bootstrapError "Could not create local storage bootstrap" "commit bootstrap state"))) begun := by
    refine obeys_onDraft begun drafted stable_draft ?_
    intro later inode sound mine held world
    refine step_orFault sound (does_onFile sound ?_)
    intro found named
    obtain rfl := Option.some.inj (mine.named.symm.trans named)
    simp only [commitState, held]
    split
    case isTrue length =>
      refine does_ok (allowed_write sound mine) ⟨inode, ⟨mine.own, mine.named, mine.unpublished⟩, ?_⟩
      rw [writeContent, Disk.write_files_self, held]
    case isFalse => exact does_error sound _
  refine obeys_bind committed ?_
  intro _ committed drafted
  refine obeys_onDraft committed drafted stable_prepared ?_
  intro later inode sound mine held world
  refine step_orFault sound (does_onFile sound ?_)
  intro found named
  obtain rfl := Option.some.inj (mine.named.symm.trans named)
  exact does_ok (allowed_syncFile sound process inode) ⟨inode, ⟨mine.own, mine.named, mine.unpublished⟩, held, Disk.saved_syncFile⟩

theorem obeys_removeFile {report : Reply (.removeFile name) → Except AppError Unit} (own : Own process name) :
    Obeys process (fun _ _ => True) (attempt (.removeFile name) report) directory := by
  refine obeys_attempt (fun _ => stable_true) ?_
  intro later _ sound world
  have does : Does process later (fun _ _ => True) (onFile later name fun _ => (.ok (), later.setName name none)) :=
    does_onFile sound fun inode named => does_ok (allowed_remove sound own) trivial
  exact ⟨allowed_orFault sound does, fun _ _ => trivial⟩

/-- Cleaning up behind a failure changes nothing about what a success establishes. -/
theorem obeys_cleaningUp {uuid : String} {action : Action Unit} {fact : Directory → Prop} (stable : Stable process fact)
    (obeys : Obeys process (fun _ => fact) action directory) :
    Obeys process (fun _ => fact) (cleaningUp (temporaryName bootstrapDatabaseFilename process uuid) action) directory := by
  refine Keeps.bind (obeys.mono ?_)
  intro outcome later held
  cases outcome with
  | ok value => exact obeys_done (fun _ => stable) held
  | error error =>
    have cleaned : Obeys process (fun _ _ => True) (cleanupTemporaryFile (temporaryName bootstrapDatabaseFilename process uuid)) later := by
      refine obeys_bind (obeys_removeFile later (own_temporary process uuid)) ?_
      exact fun _ removed _ => obeys_removeFile removed (own_journal process uuid)
    exact obeys_bind cleaned fun _ _ _ => obeys_throw error

/-- Publishing succeeds only with the prepared file, under a free name. -/
theorem does_link {rootKey : List UInt8} {later : Directory} (sound : Sound later) (prepared : Prepared process name rootKey later)
    (length : rootKey.length = 32) (drop : Bool) :
    Does process later (fun _ => Published rootKey) (link later name bootstrapDatabaseFilename drop) := by
  obtain ⟨inode, mine, held, saved⟩ := prepared
  refine does_onFile sound ?_
  intro found named
  obtain rfl := Option.some.inj (mine.named.symm.trans named)
  cases free : later.names bootstrapDatabaseFilename with
  | some taken => exact does_error sound _
  | none =>
    refine does_ok (allowed_link sound mine ⟨rootKey, length, held, saved⟩ free drop) ⟨length, inode, ?_, ?_⟩
    · cases drop with
      | false => exact Disk.setName_names_self
      | true => exact (Disk.setName_names_of_ne (own_ne_bootstrap mine.own).symm).trans Disk.setName_names_self
    · cases drop with
      | false => exact held
      | true => exact held

theorem obeys_atomicPublishWithoutClobber {rootKey : List UInt8} (platform : Platform) (error : String → AppError)
    (prepared : Prepared process name rootKey directory) (own : Own process name) (length : rootKey.length = 32) :
    Obeys process (fun _ => Published rootKey)
      (atomicPublishWithoutClobber platform name bootstrapDatabaseFilename error) directory := by
  cases platform with
  | macOs =>
    refine obeys_attempt (fun _ => stable_published) ?_
    intro later changed sound world
    exact step_orFault sound (does_link sound (stable_prepared changed prepared) length true)
  | otherUnix =>
    have linked : Obeys process (fun _ => Published rootKey)
        (attempt (.hardLink name bootstrapDatabaseFilename) (Except.mapError error)) directory := by
      refine obeys_attempt (fun _ => stable_published) ?_
      intro later changed sound world
      exact step_orFault sound (does_link sound (stable_prepared changed prepared) length false)
    refine obeys_bind linked ?_
    intro _ later published
    exact obeys_mono (obeys_frame (fun _ => stable_published) (obeys_removeFile later own) published) fun _ _ => And.right

theorem obeys_publishTemporaryBootstrap {rootKey : List UInt8} (platform : Platform)
    (prepared : Prepared process name rootKey directory) (own : Own process name) (length : rootKey.length = 32) :
    Obeys process (fun _ => Published rootKey) (publishTemporaryBootstrap platform name bootstrapDatabaseFilename) directory := by
  refine obeys_bind (obeys_tryPathExists directory stable_prepared prepared _ _) ?_
  intro taken later prepared
  cases taken with
  | true => exact obeys_throw _
  | false => exact obeys_atomicPublishWithoutClobber later platform _ prepared own length

/-- The name of a published bootstrap is settled once the directory is synchronised. -/
theorem obeys_syncParentDirectory {rootKey : List UInt8} (published : Published rootKey directory) :
    Obeys process (fun _ => Settled) syncParentDirectory directory := by
  refine obeys_attempt (fun _ => stable_settled) ?_
  intro later changed sound world
  obtain ⟨-, inode, named, -⟩ := stable_published changed published
  exact step_orFault sound (does_ok (allowed_syncNames sound process) ⟨inode, named⟩)

/-- A bootstrap that was created is published with the given key, under a name that is settled. -/
theorem obeys_createBootstrap (platform : Platform) (rootKey : List UInt8) :
    Obeys process (fun store directory => store.path = bootstrapDatabaseFilename ∧ Published rootKey directory ∧ Settled directory)
      (createBootstrap platform process bootstrapDatabaseFilename rootKey) directory := by
  refine obeys_bind (obeys_validateRootKey directory rootKey) ?_
  intro _ validated length
  refine obeys_bind (obeys_tryPathExists validated stable_true trivial _ _) ?_
  intro taken probed _
  cases taken with
  | true => exact obeys_throw _
  | false =>
    have drawn : Obeys process (fun temporaryPath _ => ∃ uuid, temporaryPath = temporaryName bootstrapDatabaseFilename process uuid)
        (uniqueTemporaryPath bootstrapDatabaseFilename process) probed := by
      refine obeys_attempt (fun _ => stable_const process _) ?_
      intro later _ sound world
      refine ⟨sound.same process, ?_⟩
      intro temporaryPath same
      exact ⟨world.uuid, (Except.ok.inj same).symm⟩
    refine obeys_bind drawn ?_
    rintro _ named ⟨uuid, rfl⟩
    have own := own_temporary process uuid
    refine obeys_bind (obeys_cleaningUp named stable_prepared (obeys_initializeTemporaryBootstrap named own rootKey)) ?_
    intro _ initialized prepared
    refine obeys_bind (obeys_cleaningUp initialized stable_published
      (obeys_publishTemporaryBootstrap initialized platform prepared own length)) ?_
    intro _ linked published
    refine obeys_bind (obeys_frame (fun _ => stable_published) (obeys_syncParentDirectory linked published) published) ?_
    intro _ synced both
    exact obeys_mono (obeys_frame (fun _ => stable_and stable_published stable_settled) (obeys_openExisting synced) both.symm)
      fun _ _ => id

theorem obeys_obtainRootKey (platform : Platform) : Obeys process Published (obtainRootKey platform process) directory := by
  refine obeys_bind (obeys_tryPathExists directory stable_true trivial _ _) ?_
  intro found probed _
  cases found with
  | true =>
    refine obeys_bind (obeys_openExisting probed) ?_
    exact fun store opened path => obeys_load opened path
  | false =>
    refine obeys_bind (obeys_idle probed stable_true trivial fun _ _ _ => orFault_same rfl) ?_
    intro rootKey filled _
    refine obeys_bind (obeys_createBootstrap filled platform rootKey.val) ?_
    exact fun store created held => obeys_load created held.1

/-- The first key that the encrypted store takes is the published one, and later it takes no other. -/
theorem does_unlock {rootKey : List UInt8} {later : Directory} (sound : Sound later) (published : Published rootKey later) :
    Does process later (fun _ => StoreUnder (encodeRootKey rootKey))
      (onFile later localDatabaseFilename (unlock later (encodeRootKey rootKey))) := by
  obtain ⟨-, bootstrap, held, holds⟩ := published
  refine does_onFile sound ?_
  intro inode named
  rw [unlock]
  split
  case h_1 blank =>
    refine does_ok (allowed_unlock sound named blank ⟨bootstrap, rootKey, 0o600, held, holds, rfl⟩) ⟨inode, named, ?_⟩
    rw [writeContent, Disk.write_files_self]
  case h_2 key content =>
    split
    case isTrue same => exact does_ok (sound.same process) ⟨inode, named, same ▸ content⟩
    case isFalse => exact does_error sound _
  case h_3 => exact does_error sound _
  case h_4 => exact does_error sound _

/-- The encrypted store is opened under the published root key. -/
theorem obeys_openMainStore {rootKey : List UInt8} (published : Published rootKey directory) :
    Obeys process (fun store directory => store.encryptionKey = encodeRootKey rootKey ∧
      StoreUnder (encodeRootKey rootKey) directory ∧ Published rootKey directory)
      (openMainStore localDatabaseFilename rootKey) directory := by
  rw [openMainStore, if_neg (show ¬ rootKey.length ≠ localDatabaseKeyLength from not_not.mpr published.1)]
  have connected : Obeys process (fun _ _ => True) (attempt (.connect localDatabaseFilename true)
      (Except.mapError (bootstrapError "Could not open local storage" "open database"))) directory := by
    refine obeys_attempt (fun _ => stable_true) ?_
    intro later _ sound world
    refine step_orFault sound ?_
    rw [connect]
    split
    case h_1 => exact does_ok (sound.same process) trivial
    case h_2 free => exact does_ok (allowed_createStore sound free) trivial
  refine obeys_bind (obeys_frame (fun _ => stable_published) connected published) ?_
  intro _ opened held
  have unlocked : Obeys process (fun _ => StoreUnder (encodeRootKey rootKey)) (attempt (.unlock localDatabaseFilename (encodeRootKey rootKey))
      (Except.mapError (bootstrapError "Could not open local storage" "initialize encrypted database"))) opened := by
    refine obeys_attempt (fun _ => stable_storeUnder) ?_
    intro later changed sound world
    exact step_orFault sound (does_unlock sound (stable_published changed held.2))
  refine obeys_bind (obeys_frame (fun _ => stable_published) unlocked held.2) ?_
  exact fun _ later both => obeys_pure (stable_and (stable_const process _) (stable_and stable_storeUnder stable_published)) ⟨rfl, both⟩

/-- A start that succeeds has the encrypted store open under the published root key. -/
def Opened (store : OpenedStore) (directory : Directory) : Prop :=
  ∃ rootKey, store.encryptionKey = encodeRootKey rootKey ∧ StoreUnder (encodeRootKey rootKey) directory ∧ Published rootKey directory

theorem obeys_initializeLocalStorage (platform : Platform) :
    Obeys process Opened (initializeLocalStorage platform process) directory := by
  have prepared : Obeys process (fun _ _ => True) prepareAppDataDirectory directory := by
    refine obeys_bind (obeys_idle directory stable_true trivial fun _ _ _ => orFault_same rfl) ?_
    exact fun _ created _ => obeys_idle created stable_true trivial fun _ _ _ => orFault_same rfl
  refine obeys_bind prepared ?_
  intro _ ready _
  refine obeys_bind (obeys_obtainRootKey ready platform) ?_
  intro rootKey obtained published
  exact obeys_mono (obeys_openMainStore obtained published) fun store _ held => ⟨rootKey, held⟩

end

/-- A power loss leaves a sound directory sound: what was published was synchronised before. -/
theorem Sound.losePower (sound : Sound directory) (loss : PowerLoss) : Sound (directory.losePower torn loss) where
  fresh named := sound.fresh (Disk.named_losePower named)
  separate named named' := sound.separate (Disk.named_losePower named) (Disk.named_losePower named')
  storeApart stored published := sound.storeApart (Disk.named_losePower stored) (Disk.named_losePower published)
  complete {inode} named := by
    have visible : directory.names bootstrapDatabaseFilename = some inode := by
      rcases @Disk.losePower_names _ directory bootstrapDatabaseFilename _ torn loss with same | same
      · exact same ▸ named
      · exact sound.settled (same ▸ named)
    obtain ⟨rootKey, length, held, saved⟩ := sound.complete visible
    exact ⟨rootKey, length, (Disk.losePower_files saved).trans held, Disk.saved_losePower⟩
  settled := id
  storeSettled := id

section
variable {platform : Platform} {start : Directory} {system : System Operation Reply Directory (Except AppError OpenedStore)}
variable {permitted : Directory → PowerLoss → Prop}

/-- What some run of processes reaches, where power is lost only in permitted states. -/
def Reached (platform : Platform) (permitted : Directory → PowerLoss → Prop)
    (system later : System Operation Reply Directory (Except AppError OpenedStore)) : Prop :=
  ∃ events, Runs.Permitted (machine platform).step (Machine.Permits permitted) system events ∧
    Runs.run (machine platform).step system events = later

theorem Reached.orderly {later : System Operation Reply Directory (Except AppError OpenedStore)}
    (reached : Reached platform permitted system later)
    (orderly : Machine.Orderly (machine platform) protocol (fun _ => Succeeds Opened) system) :
    Machine.Orderly (machine platform) protocol (fun _ => Succeeds Opened) later := by
  obtain ⟨events, permits, rfl⟩ := reached
  refine Machine.run_orderly orderly ?_ ?_ permits
  · exact fun process _ directory sound => ⟨sound, guarantee_refl process directory, obeys_initializeLocalStorage directory platform⟩
  · exact fun directory loss _ sound => sound.losePower loss

/-- A further invariant of the directory, which steps and permitted power losses keep. -/
theorem Reached.also {later : System Operation Reply Directory (Except AppError OpenedStore)} {extra : Directory → Prop}
    (reached : Reached platform permitted system later)
    (orderly : Machine.Orderly (machine platform) protocol (fun _ => Succeeds Opened) system)
    (given : ∀ {process before after}, Sound before → Guarantee process before after → Sound after → extra before → extra after)
    (disrupted : ∀ directory loss, permitted directory loss → Sound directory → extra directory → extra (directory.losePower torn loss))
    (held : extra system.shared) : extra later.shared := by
  obtain ⟨events, permits, rfl⟩ := reached
  have stronger : Machine.Orderly (machine platform) (protocol.also extra) (fun _ => Succeeds Opened) system := orderly.also given held
  have all := Machine.run_orderly stronger ?_ ?_ permits
  · exact all.1.2
  · exact fun process _ directory sound =>
      ⟨sound, guarantee_refl process directory, (obeys_initializeLocalStorage directory platform).also given⟩
  · exact fun directory loss allowed sound => ⟨sound.1.losePower loss, disrupted directory loss allowed sound.1 sound.2⟩

variable {later : System Operation Reply Directory (Except AppError OpenedStore)}

/-- An app-data directory in which nothing was ever stored. -/
def freshDirectory : Directory := ⟨fun _ => none, fun _ => torn, 0, fun _ => none, fun _ => none⟩

theorem fresh_unnamed (name : String) (inode : Nat) : ¬ freshDirectory.Named name inode := by
  rintro (visible | saved)
  · cases visible
  · cases saved

theorem sound_fresh : Sound freshDirectory where
  fresh named := absurd named (fresh_unnamed _ _)
  separate named := absurd named (fresh_unnamed _ _)
  storeApart stored := absurd stored (fresh_unnamed _ _)
  complete named := by cases named
  settled saved := by cases saved
  storeSettled saved := by cases saved

/-- A start that nothing disturbs, of so many operations. -/
def calmStart (process operations : Nat) : List (Programs.Event Unit World PowerLoss) :=
  .start process () :: List.replicate operations (.advance process ⟨none, ⟨List.replicate 32 7, rfl⟩, "a"⟩)

theorem calmStart_steady (process operations : Nat) (loss : PowerLoss) : .outage loss ∉ calmStart process operations := by
  simp [calmStart, List.mem_replicate]

def afterFirstStart : System Operation Reply Directory (Except AppError OpenedStore) :=
  Runs.run (machine .otherUnix).step (Machine.initial freshDirectory) (calmStart 7 22)

theorem reached_first : Reached .otherUnix permitted (Machine.initial freshDirectory) afterFirstStart :=
  ⟨calmStart 7 22, Machine.permitted_steady (calmStart_steady 7 22), rfl⟩

theorem orderly_start (sound : Sound start) (reached : Reached platform permitted (Machine.initial start) system) :
    Machine.Orderly (machine platform) protocol (fun _ => Succeeds Opened) system :=
  reached.orderly (Machine.orderly_initial sound)

theorem opened_of_done {store : OpenedStore} (orderly : Machine.Orderly (machine platform) protocol (fun _ => Succeeds Opened) system)
    (running : system.running process = some (.done (.ok store))) : Opened store system.shared :=
  orderly.returned running store rfl

theorem Published.unique {rootKey rootKey' : List UInt8} (published : Published rootKey directory)
    (published' : Published rootKey' directory) : rootKey = rootKey' := by
  obtain ⟨-, inode, named, held⟩ := published
  obtain ⟨-, inode', named', held'⟩ := published'
  obtain rfl := Option.some.inj (named.symm.trans named')
  exact Content.bootstrap.inj (congrArg File.content (held.symm.trans held'))

/-- The bootstrap with its name and its content on the medium. -/
def SettledAt (inode : Nat) (file : File) (directory : Directory) : Prop :=
  directory.savedNames bootstrapDatabaseFilename = some inode ∧ directory.names bootstrapDatabaseFilename = some inode ∧
    directory.files inode = file

theorem SettledAt.step {file : File} (sound : Sound directory) (given : Guarantee process directory after)
    (held : SettledAt inode file directory) : SettledAt inode file after := by
  obtain ⟨saved, named, holds⟩ := held
  have relied := compatible (Nat.ne_of_lt (Nat.lt_succ_self process)) sound given
  obtain ⟨kept, same⟩ := relied.bootstrap named
  exact ⟨given.settled saved, kept, same.trans holds⟩

theorem SettledAt.losePower {file : File} (sound : Sound directory) (loss : PowerLoss) (held : SettledAt inode file directory) :
    SettledAt inode file (directory.losePower torn loss) := by
  obtain ⟨saved, named, holds⟩ := held
  obtain ⟨rootKey, -, -, content⟩ := sound.complete named
  have kept := @Disk.losePower_settled _ directory bootstrapDatabaseFilename _ torn loss (saved.trans named.symm)
  exact ⟨kept.trans named, kept.trans named, (Disk.losePower_files content).trans holds⟩

/-- Once the name of the bootstrap is on the medium, its root key is the one of every later start,
through all crashes and power losses. -/
theorem settled_rootKey_lasts (sound : Sound start) (reached : Reached platform (fun _ _ => True) (Machine.initial start) system)
    (settled : Settled system.shared) (reached' : Reached platform (fun _ _ => True) system later) :
    ∃ rootKey, Published rootKey system.shared ∧ Published rootKey later.shared ∧ Settled later.shared ∧
      ∀ process store, later.running process = some (.done (.ok store)) → store.encryptionKey = encodeRootKey rootKey := by
  have orderly := orderly_start sound reached
  obtain ⟨inode, saved⟩ := settled
  have named := orderly.1.settled saved
  obtain ⟨rootKey, length, held, -⟩ := orderly.1.complete named
  obtain ⟨saved', named', held'⟩ := reached'.also orderly (fun sound given _ => SettledAt.step sound given)
    (fun directory loss _ sound => SettledAt.losePower sound loss) ⟨saved, named, held⟩
  have published : Published rootKey later.shared := ⟨length, inode, named', held'⟩
  refine ⟨rootKey, ⟨length, inode, named, held⟩, published, ⟨inode, saved'⟩, ?_⟩
  intro process store running
  obtain ⟨rootKey', key, -, published'⟩ := opened_of_done (reached'.orderly orderly) running
  rw [key, published.unique published']

def afterPowerLoss : System Operation Reply Directory (Except AppError OpenedStore) :=
  Runs.run (machine .otherUnix).step afterFirstStart (.outage ⟨fun _ => false, fun _ => false⟩ :: calmStart 8 9)

theorem settled_rootKey_lasts_powerLoss : ∃ rootKey, Published rootKey afterFirstStart.shared ∧
    Published rootKey afterPowerLoss.shared ∧ Settled afterPowerLoss.shared ∧
    ∀ process store, afterPowerLoss.running process = some (.done (.ok store)) → store.encryptionKey = encodeRootKey rootKey :=
  settled_rootKey_lasts sound_fresh reached_first ⟨0, rfl⟩ ⟨_, Machine.permitted_all _ _, rfl⟩

/-- An encrypted store is under the key of the published bootstrap. -/
def Sealed (directory : Directory) : Prop :=
  ∀ inode encryptionKey, directory.names localDatabaseFilename = some inode →
    (directory.files inode).content = .store encryptionKey → UnderRootKey directory encryptionKey

theorem UnderRootKey.step {encryptionKey : String} (sound : Sound directory) (given : Guarantee process directory after)
    (under : UnderRootKey directory encryptionKey) : UnderRootKey after encryptionKey := by
  obtain ⟨inode, rootKey, mode, named, held, key⟩ := under
  obtain ⟨kept, same⟩ := (compatible (Nat.ne_of_lt (Nat.lt_succ_self process)) sound given).bootstrap named
  exact ⟨inode, rootKey, mode, kept, same.trans held, key⟩

theorem Sealed.step (sound : Sound directory) (given : Guarantee process directory after) (sealed : Sealed directory) :
    Sealed after := by
  intro inode encryptionKey named content
  rcases given.created named with named' | blank
  · rcases given.files (sound.fresh (.inl named')) with same | ⟨found, own, mine, -⟩ | ⟨-, -, key, written, under⟩
    · rw [same.1] at content
      exact (sealed inode encryptionKey named' content).step sound given
    · exact absurd named' (sound.own_not_store own mine)
    · rw [written] at content
      obtain rfl := Content.store.inj content
      exact under.step sound given
  · rw [blank] at content
    cases content

/-- Power is lost only while the name of the bootstrap is on the medium as it is in the directory. -/
def BootstrapSynced (directory : Directory) (_ : PowerLoss) : Prop :=
  directory.savedNames bootstrapDatabaseFilename = directory.names bootstrapDatabaseFilename

theorem Sealed.losePower {loss : PowerLoss} (synced : BootstrapSynced directory loss) (sound : Sound directory) (sealed : Sealed directory) :
    Sealed (directory.losePower torn loss) := by
  intro inode encryptionKey named content
  have visible : directory.names localDatabaseFilename = some inode := by
    rcases @Disk.losePower_names _ directory localDatabaseFilename _ torn loss with same | same
    · exact same ▸ named
    · exact sound.storeSettled (same ▸ named)
  rcases @Disk.losePower_files_or _ directory inode _ torn loss with same | same
  · rw [same] at content
    obtain ⟨bootstrap, rootKey, mode, published, held, key⟩ := sealed inode encryptionKey visible content
    obtain ⟨-, -, -, saved⟩ := sound.complete published
    exact ⟨bootstrap, rootKey, mode, (Disk.losePower_settled synced).trans published, (Disk.losePower_files saved).trans held, key⟩
  · rw [same] at content
    cases content

/-- No start is ever locked out of the encrypted store: it is under the key of the published
bootstrap in every state of every run that loses power only while the name of the bootstrap is
synchronised. -/
theorem store_under_rootKey (sound : Sound start) (sealed : Sealed start)
    (reached : Reached platform BootstrapSynced (Machine.initial start) system) : Sealed system.shared :=
  reached.also (Machine.orderly_initial sound) (fun sound given _ => Sealed.step sound given)
    (fun _ _ synced sound => Sealed.losePower synced sound) sealed

theorem store_under_rootKey_first : Sealed afterFirstStart.shared :=
  store_under_rootKey sound_fresh (fun _ _ named _ => by cases named) reached_first

/-- A file that is neither one of the two databases nor temporary to some process. -/
structure Foreign (name : String) : Prop where
  bootstrap : name ≠ bootstrapDatabaseFilename
  store : name ≠ localDatabaseFilename
  own : ∀ process, ¬ Own process name

/-- The name leads to the same file in the directory and on the medium. -/
def Untouched (name : String) (target : Option Nat) (file : Nat → File) (directory : Directory) : Prop :=
  directory.names name = target ∧ directory.savedNames name = target ∧
    ∀ inode, target = some inode → directory.files inode = file inode ∧ directory.Saved inode

theorem Untouched.step {target : Option Nat} {file : Nat → File} (foreign : Foreign name) (sound : Sound directory)
    (given : Guarantee process directory after) (held : Untouched name target file directory) : Untouched name target file after := by
  obtain ⟨named, saved, files⟩ := held
  refine ⟨(given.names (foreign.own process) foreign.bootstrap foreign.store).trans named, ?_, ?_⟩
  · rcases given.medium name with same | same
    · exact same.trans saved
    · exact same.trans named
  · rintro inode rfl
    obtain ⟨holds, kept⟩ := files inode rfl
    rcases given.files (sound.fresh (.inl named)) with same | ⟨found, own, mine, -⟩ | ⟨stored, -⟩
    · exact ⟨same.1.trans holds, same.2 kept⟩
    · rcases sound.separate (.inl named) (.inl mine) with same | same | same
      · exact absurd (same ▸ own) (foreign.own process)
      · exact absurd same foreign.bootstrap
      · exact absurd same (own_ne_bootstrap own)
    · rcases sound.separate (.inl named) (.inl stored) with same | same | same
      · exact absurd same foreign.store
      · exact absurd same foreign.bootstrap
      · exact absurd same (by decide)

theorem Untouched.losePower {target : Option Nat} {file : Nat → File} (loss : PowerLoss) (held : Untouched name target file directory) :
    Untouched name target file (directory.losePower torn loss) := by
  obtain ⟨named, saved, files⟩ := held
  have kept := @Disk.losePower_settled _ directory name _ torn loss (saved.trans named.symm)
  refine ⟨kept.trans named, kept.trans named, ?_⟩
  intro inode same
  obtain ⟨holds, onMedium⟩ := files inode same
  exact ⟨(Disk.losePower_files onMedium).trans holds, Disk.saved_losePower⟩

end

end Pipa.Bootstrap
