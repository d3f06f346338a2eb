import ServiceDispatch.Data.Table
import ServiceDispatch.Text.Utf8

/-!
# The scratch area on disk

A `Disk` is the part of a file system that uploads are written to: a root that holds
one directory for each request with uploads, and files in these directories. The
root itself may be impossible to create, a name may be too long to write, and a file
may be locked against removal; nothing else goes wrong. Directories are numbered, and
a number is never used again, so a new directory is none of those that are there.
-/

namespace ServiceDispatch

/-- What a file system refuses. -/
inductive DiskError where
  | notPermitted
  | notFound
  | alreadyExists
  | notDirectory
  | nameTooLong
  /-- A failure known only by its description. -/
  | described (text : String)
  deriving DecidableEq, Repr

def DiskError.message : DiskError → String
  | .notPermitted => "Operation not permitted (os error 1)"
  | .notFound => "No such file or directory (os error 2)"
  | .alreadyExists => "File exists (os error 17)"
  | .notDirectory => "Not a directory (os error 20)"
  | .nameTooLong => "File name too long (os error 36)"
  | .described text => text

/-- A file in a request directory. -/
structure FilePath where
  directory : Nat
  name : String
  deriving DecidableEq, Repr

structure Disk where
  /-- Why the root cannot be created, if it cannot. -/
  rootError : Option DiskError := none
  /-- The directories below the root and the files in them. -/
  directories : List (Nat × Table Bytes) := []
  /-- The least number that has not named a directory yet. -/
  next : Nat := 0
  /-- Files that cannot be removed. -/
  locked : List FilePath := []
  lt_next : ∀ e ∈ directories, e.1 < next := by exact fun _ he => absurd he List.not_mem_nil
  deriving DecidableEq, Repr

namespace Disk

/-- The number of bytes that a file name may have. -/
def nameLimit : Nat := 255

/-- The files of a directory. -/
def files? (d : Disk) (directory : Nat) : Option (Table Bytes) :=
  (d.directories.find? fun e => e.1 == directory).map Prod.snd

/-- The number of entries of the root. -/
def entryCount (d : Disk) : Nat := d.directories.length

/-- Puts new files in place of those of a directory. -/
def setFiles (d : Disk) (directory : Nat) (files : Table Bytes) : Disk :=
  { d with
    directories := d.directories.map fun e => if e.1 == directory then (directory, files) else e
    lt_next := by
      intro e he
      obtain ⟨o, ho, rfl⟩ := List.mem_map.1 he
      have hlt := d.lt_next o ho
      split
      · next heq => exact beq_iff_eq.1 heq ▸ hlt
      · exact hlt }

/-- Makes a fresh directory below the root. -/
def createDirectory (d : Disk) : Except DiskError (Nat × Disk) :=
  match d.rootError with
  | some e => .error e
  | none => .ok (d.next,
      { d with
        directories := d.directories ++ [(d.next, [])]
        next := d.next + 1
        lt_next := by
          intro e he
          rcases List.mem_append.1 he with he | he
          · exact Nat.lt_succ_of_lt (d.lt_next e he)
          · rw [List.mem_singleton.1 he]
            exact Nat.lt_succ_self d.next })

/-- The content of a file. -/
def read? (d : Disk) (p : FilePath) : Option Bytes :=
  (d.files? p.directory).bind (Table.get? p.name)

def contains (d : Disk) (p : FilePath) : Bool := (d.read? p).isSome

/-- Writes a file, in place of what it held. -/
def write (d : Disk) (p : FilePath) (data : Bytes) : Except DiskError Disk :=
  match d.files? p.directory with
  | none => .error .notFound
  | some files =>
    if nameLimit < (Utf8.encode p.name).length then .error .nameTooLong
    else .ok (d.setFiles p.directory (Table.insert p.name data files))

/-- Removes a file. -/
def remove (d : Disk) (p : FilePath) : Except DiskError Disk :=
  match d.files? p.directory with
  | none => .error .notFound
  | some files =>
    if (Table.get? p.name files).isNone then .error .notFound
    else if d.locked.contains p then .error .notPermitted
    else .ok (d.setFiles p.directory (Table.erase p.name files))

/-- Removes a directory and its files. Locked files keep themselves and the
directory, and the failure is reported beside what is left. -/
def removeDirectory (d : Disk) (directory : Nat) : Option DiskError × Disk :=
  match d.files? directory with
  | none => (some .notFound, d)
  | some files =>
    match files.filter fun e => d.locked.contains ⟨directory, e.1⟩ with
    | [] => (none,
        { d with
          directories := d.directories.filter fun e => e.1 != directory
          lt_next := fun e he => d.lt_next e (List.mem_filter.1 he).1 })
    | kept => (some .notPermitted, d.setFiles directory kept)

end Disk

end ServiceDispatch
