import Mathlib.Logic.Function.Basic

/-! A directory of files behind inodes. Names and contents are on the medium once they
are synchronised; a power loss may take back a name and tear a content that is not.
Inodes are never used again. -/

structure Disk (File : Type) where
  names : String → Option Nat
  files : Nat → File
  next : Nat
  /-- The names and the contents that the medium holds. -/
  savedNames : String → Option Nat
  savedFiles : Nat → Option File

/-- What a power loss spares of what is not synchronised. -/
structure PowerLoss where
  sparesName : String → Bool
  sparesFile : Nat → Bool

namespace Disk

variable {File : Type} (disk : Disk File)

def file (name : String) : Option File := (disk.names name).map disk.files

/-- The name leads to the inode, now or after a power loss. -/
def Named (name : String) (inode : Nat) : Prop := disk.names name = some inode ∨ disk.savedNames name = some inode

/-- The medium holds the file as it is. -/
def Saved (inode : Nat) : Prop := disk.savedFiles inode = some (disk.files inode)

def setName (name : String) (inode : Option Nat) : Disk File := { disk with names := Function.update disk.names name inode }

def create (name : String) (file : File) : Disk File :=
  { disk.setName name (some disk.next) with files := Function.update disk.files disk.next file, next := disk.next + 1 }

def write (inode : Nat) (file : File) : Disk File := { disk with files := Function.update disk.files inode file }

def syncFile (inode : Nat) : Disk File :=
  { disk with savedFiles := Function.update disk.savedFiles inode (some (disk.files inode)) }

def syncNames : Disk File := { disk with savedNames := disk.names }

/-- Names fall back to what the medium holds unless they are spared, and contents are torn that
are neither spared nor synchronised. -/
def losePower [DecidableEq File] (torn : File) (loss : PowerLoss) : Disk File :=
  let names name := if loss.sparesName name then disk.names name else disk.savedNames name
  let files inode :=
    if disk.savedFiles inode = some (disk.files inode) ∨ loss.sparesFile inode then disk.files inode else torn
  { disk with names, files, savedNames := names, savedFiles := fun inode => some (files inode) }

variable {disk} {name other : String} {inode : Nat} {file : File}

@[simp]
theorem setName_names_self {target : Option Nat} : (disk.setName name target).names name = target := by
  simp [setName]

@[simp]
theorem setName_names_of_ne {target : Option Nat} (different : other ≠ name) :
    (disk.setName name target).names other = disk.names other := by
  simp [setName, different]

@[simp]
theorem create_names_self : (disk.create name file).names name = some disk.next := by
  simp [create]

@[simp]
theorem create_names_of_ne (different : other ≠ name) : (disk.create name file).names other = disk.names other := by
  simp [create, different]

@[simp]
theorem create_files_next : (disk.create name file).files disk.next = file := by
  simp [create]

theorem create_files (older : inode < disk.next) : (disk.create name file).files inode = disk.files inode := by
  simp [create, Nat.ne_of_lt older]

@[simp]
theorem write_files_self : (disk.write inode file).files inode = file := by
  simp [write]

@[simp]
theorem write_files_of_ne {target : Nat} (different : inode ≠ target) : (disk.write target file).files inode = disk.files inode := by
  simp [write, different]

/-- Writing what the file already holds changes nothing. -/
theorem write_files_eq (same : disk.files inode = file) : disk.write inode file = disk := by
  subst same
  simp [write]

theorem saved_syncFile : (disk.syncFile inode).Saved inode := by
  simp [Saved, syncFile]

theorem Saved.syncFile {target : Nat} (saved : disk.Saved inode) : (disk.syncFile target).Saved inode := by
  by_cases same : inode = target
  · subst same
    exact saved_syncFile
  · simpa [Saved, Disk.syncFile, same] using saved

theorem named_setName {target : Nat} (named : (disk.setName name (some target)).Named other inode) :
    disk.Named other inode ∨ other = name ∧ inode = target := by
  rcases named with visible | saved
  · by_cases same : other = name
    · subst same
      rw [setName_names_self] at visible
      exact .inr ⟨rfl, (Option.some.inj visible).symm⟩
    · rw [setName_names_of_ne same] at visible
      exact .inl (.inl visible)
  · exact .inl (.inr saved)

theorem named_remove (named : (disk.setName name none).Named other inode) : disk.Named other inode := by
  rcases named with visible | saved
  · by_cases same : other = name
    · subst same
      rw [setName_names_self] at visible
      cases visible
    · rw [setName_names_of_ne same] at visible
      exact .inl visible
  · exact .inr saved

theorem named_syncNames (named : disk.syncNames.Named other inode) : disk.Named other inode :=
  .inl (named.elim id id)

section
variable [DecidableEq File] {torn : File} {loss : PowerLoss}

theorem losePower_names : (disk.losePower torn loss).names name = disk.names name ∨ (disk.losePower torn loss).names name = disk.savedNames name :=
  ite_eq_or_eq _ _ _

theorem named_losePower (named : (disk.losePower torn loss).Named other inode) : disk.Named other inode := by
  have visible : (disk.losePower torn loss).names other = some inode := named.elim id id
  rcases @losePower_names File disk other _ torn loss with same | same
  · exact .inl (same ▸ visible)
  · exact .inr (same ▸ visible)

/-- A synchronised file survives. -/
theorem losePower_files (saved : disk.Saved inode) : (disk.losePower torn loss).files inode = disk.files inode :=
  if_pos (.inl saved)

theorem saved_losePower : (disk.losePower torn loss).Saved inode := rfl

/-- What is left of a file is the file, or torn. -/
theorem losePower_files_or : (disk.losePower torn loss).files inode = disk.files inode ∨ (disk.losePower torn loss).files inode = torn :=
  ite_eq_or_eq _ _ _

/-- A name that is synchronised, as it is, survives. -/
theorem losePower_settled (settled : disk.savedNames name = disk.names name) : (disk.losePower torn loss).names name = disk.names name := by
  rcases @losePower_names File disk name _ torn loss with same | same
  · exact same
  · exact same.trans settled

end

end Disk
