import ServiceDispatch.Form.FileName
import ServiceDispatch.Form.Multipart
import ServiceDispatch.Form.Params

/-!
# Scratch files of a request

A `Scratch` names the private directory of a request, which is made for its first
upload, and the files stored in it. `store` never writes over a file: a name that is
taken gets the first number in front of it that makes it free. `cleanup` removes the
files and the directory and forgets both, whatever happens on disk.
-/

namespace ServiceDispatch

/-- An upload on its way to disk. -/
structure Upload where
  field : String
  fileName : Option String
  contentType : String
  data : Bytes
  deriving DecidableEq, Repr

def Part.upload (p : Part) : Upload := ⟨p.name, p.fileName, p.contentType, p.data⟩

/-- The name that an upload asks for: the client's, else the field's, else a word. -/
def Upload.wantedName (u : Upload) : String :=
  match u.fileName.bind FileName.sanitize? with
  | some name => name
  | none => (FileName.sanitize? u.field).getD "upload"

structure Scratch where
  directory : Option Nat := none
  files : List FilePath := []
  deriving DecidableEq, Repr

namespace Scratch

/-- The name behind a number, and the bare name for zero. -/
def numbered (name : String) (k : Nat) : String := if k = 0 then name else s!"{k}-{name}"

/-- The first name that is not taken, from number `k` on; among `tries` taken names
and one more there is a free one. -/
def freeName (taken : String → Bool) (name : String) : Nat → Nat → String
  | 0, k => numbered name k
  | tries + 1, k =>
    if taken (numbered name k) then freeName taken name tries (k + 1) else numbered name k

/-- The request's directory, made if there is none. -/
def ensureDirectory (s : Scratch) (d : Disk) : Except DiskError (Nat × Scratch × Disk) :=
  match s.directory with
  | some id => .ok (id, s, d)
  | none => match d.createDirectory with
    | .ok (id, d) => .ok (id, { s with directory := some id }, d)
    | .error e => .error e

/-- Where an upload goes in a directory. -/
def placeFor (u : Upload) (id : Nat) (d : Disk) : FilePath :=
  let taken (name : String) := d.contains ⟨id, name⟩
  ⟨id, freeName taken u.wantedName ((d.files? id).getD []).length 0⟩

/-- Writes an upload into the request's directory. -/
def store (u : Upload) (s : Scratch) (d : Disk) : Except DiskError FormFile × Scratch × Disk :=
  match s.ensureDirectory d with
  | .error e => (.error e, s, d)
  | .ok (id, s, d) =>
    let path := placeFor u id d
    match d.write path u.data with
    | .error e => (.error e, s, d)
    | .ok d =>
      (.ok ⟨u.wantedName, u.contentType, path, u.data.length⟩,
        { s with files := s.files ++ [path] }, d)

/-- Removes one stored file; that it is gone already is no failure. -/
def removeFile (st : Option DiskError × Disk) (p : FilePath) : Option DiskError × Disk :=
  match st.2.remove p with
  | .ok d => (st.1, d)
  | .error .notFound => st
  | .error e => (st.1 <|> some e, st.2)

/-- Removes all files and the directory; the first failure is reported. -/
def cleanup (s : Scratch) (d : Disk) : Except DiskError Unit × Scratch × Disk :=
  let (failure, d) := s.files.foldl removeFile (none, d)
  let (failure, d) := match s.directory with
    | none => (failure, d)
    | some id =>
      let (e, d) := d.removeDirectory id
      (failure <|> e, d)
  (match failure with | none => .ok () | some e => .error e, {}, d)

/-- What giving the scratch files up does to the disk; without a directory and files it does
nothing. -/
def drop (s : Scratch) (d : Disk) : Disk :=
  if s.directory.isSome || !s.files.isEmpty then (s.cleanup d).2.2 else d

end Scratch

end ServiceDispatch
