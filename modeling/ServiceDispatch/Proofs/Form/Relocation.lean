import ServiceDispatch.Proofs.Form.Extract

/-!
# The name of the private directory

The directory of a request is named when its first upload is stored, by a number that the disk has
not given out yet. So what a form is read to can tell where the request came among others, but only
by that number: `inDirectory` puts another in its place, and reading the same form on another disk
gives the same, with the number that this disk has for the directory.

`Scratch.Alongside` is what the two runs have in common. As long as nothing is stored they are on
the disks that they began with; from then on each has its directory, and the files in the two
directories are the same. What the disks hold besides is never looked at, and does not show.
-/

namespace ServiceDispatch

/-! ### Files in another directory -/

/-- The file of the same name in another directory. -/
def FilePath.inDirectory (n : Nat) (p : FilePath) : FilePath := { p with directory := n }

def FormFile.inDirectory (n : Nat) (f : FormFile) : FormFile :=
  { f with path := f.path.inDirectory n }

def FormValue.inDirectory (n : Nat) : FormValue → FormValue
  | .text s => .text s
  | .file f => .file (f.inDirectory n)

def FormParams.inDirectory (n : Nat) (p : FormParams) : FormParams :=
  Table.mapValues (List.map (FormValue.inDirectory n)) p

def FormData.inDirectory (n : Nat) (f : FormData) : FormData :=
  { f with params := f.params.inDirectory n }

def Scratch.inDirectory (n : Nat) (s : Scratch) : Scratch :=
  ⟨s.directory.map fun _ => n, s.files.map (FilePath.inDirectory n)⟩

namespace FormParams

variable (n : Nat) (name : String)

theorem get_inDirectory (p : FormParams) :
    get name (p.inDirectory n) = (get name p).map (FormValue.inDirectory n) := by
  rw [get, inDirectory, Table.get?_mapValues, get]
  cases Table.get? name p <;> rfl

theorem push_inDirectory (v : FormValue) (p : FormParams) :
    (p.inDirectory n).push name (v.inDirectory n) = (p.push name v).inDirectory n := by
  rw [push, push, Table.alter, Table.alter, inDirectory, inDirectory, ← Table.insert_mapValues,
    Table.get?_mapValues]
  cases Table.get? name p with
  | none => rfl
  | some vs => rw [Option.map_some, Option.getD_some, Option.getD_some, List.map_append]; rfl

theorem files_inDirectory (p : FormParams) :
    files name (p.inDirectory n) = (files name p).map (FormFile.inDirectory n) := by
  rw [files, files, get_inDirectory, List.filterMap_map, List.map_filterMap]
  congr 1
  funext v
  cases v <;> rfl

theorem texts_inDirectory (p : FormParams) : texts name (p.inDirectory n) = texts name p := by
  rw [texts, texts, get_inDirectory, List.filterMap_map]
  congr 1
  funext v
  cases v <;> rfl

/-- Without files there is nothing to be put elsewhere. -/
theorem inDirectory_of_not_holds {p : FormParams} (h : ∀ f, ¬ p.Holds f) :
    p.inDirectory n = p := by
  refine (List.map_congr_left fun e he => ?_).trans p.map_id
  have hvalues : e.2.map (FormValue.inDirectory n) = e.2 := by
    refine (List.map_congr_left fun v hv => ?_).trans e.2.map_id
    cases v with
    | text s => rfl
    | file f => exact absurd ⟨e, he, hv⟩ (h f)
  rw [hvalues]
  rfl

end FormParams

/-! ### Two disks -/

/-- The directories that two requests have on their disks hold the same files, among them those that
they track. -/
structure Scratch.SameFiles (d d' : Disk) (paths : List FilePath) (e e' : Disk) : Prop where
  inside : ∀ p ∈ paths, p.directory = d.next
  there : ∀ p ∈ paths, e.contains p = true
  files : e'.files? d'.next = e.files? d.next

/-- What a request has stored, which began with `d` or with `d'`: nothing yet, or the same files in
its directory on both disks. -/
inductive Scratch.Alongside (d d' : Disk) : Scratch → Disk → Disk → Prop where
  | unused (rootError : d'.rootError = d.rootError) : Alongside d d' {} d d'
  | used {e e' : Disk} {paths : List FilePath} (same : SameFiles d d' paths e e') :
      Alongside d d' ⟨some d.next, paths⟩ e e'

/-- The same happened on both disks: with the same result, but for the name of the directory, and
with the same files in it. -/
inductive Scratch.Mirrors {ε α : Type} (d d' : Disk) (move : α → α) :
    Except ε α × Scratch × Disk → Except ε α × Scratch × Disk → Prop where
  | error {s : Scratch} {e e' : Disk} (error : ε) (alongside : s.Alongside d d' e e') :
      Mirrors d d' move (.error error, s, e) (.error error, s.inDirectory d'.next, e')
  | ok {s : Scratch} {e e' : Disk} (a : α) (alongside : s.Alongside d d' e e') :
      Mirrors d d' move (.ok a, s, e) (.ok (move a), s.inDirectory d'.next, e')

theorem Scratch.Mirrors.of_eq {ε α : Type} {d d' e e' : Disk} {move : α → α} {s : Scratch} {a : α}
    (ha : move a = a) (h : s.Alongside d d' e e') :
    Mirrors d d' move ((.ok a : Except ε α), s, e) (.ok a, s.inDirectory d'.next, e') := by
  have hok : Mirrors d d' move ((.ok a : Except ε α), s, e)
      (.ok (move a), s.inDirectory d'.next, e') := .ok a h
  rwa [ha] at hok

namespace Disk

theorem exists_createDirectory {d : Disk} (h : d.rootError = none) :
    ∃ e, d.createDirectory = .ok (d.next, e) := by
  rw [createDirectory, h]
  exact ⟨_, rfl⟩

/-- Whether a file can be written depends on whether its directory is there, and on its name. -/
theorem write_of_files? {d : Disk} {p : FilePath} {files : Table Bytes}
    (h : d.files? p.directory = some files) (data : Bytes) :
    d.write p data = if nameLimit < (Utf8.encode p.name).length then .error .nameTooLong
      else .ok (d.setFiles p.directory (Table.insert p.name data files)) := by
  rw [write, h]

theorem write_of_files?_eq_none {d : Disk} {p : FilePath} (h : d.files? p.directory = none)
    (data : Bytes) : d.write p data = .error .notFound := by
  rw [write, h]

end Disk

namespace Scratch

variable {d d' e e' : Disk} {s : Scratch} {paths : List FilePath}

theorem Alongside.there (h : s.Alongside d d' e e') {p : FilePath} (hp : p ∈ s.files) :
    e.contains p = true := by
  cases h with
  | unused => cases hp
  | used same => exact same.there p hp

/-- A file that the request has stored is found in its directory on both disks. -/
theorem Alongside.read? (h : s.Alongside d d' e e') {p : FilePath} (hp : p ∈ s.files) :
    e'.read? (p.inDirectory d'.next) = e.read? p := by
  cases h with
  | unused => cases hp
  | used same =>
      have hfiles : e'.files? (p.inDirectory d'.next).directory = e.files? p.directory := by
        rw [same.inside p hp]
        exact same.files
      rw [Disk.read?, hfiles]
      rfl

theorem inDirectory_append (n : Nat) (s : Scratch) (p : FilePath) :
    ({ s with files := s.files ++ [p] } : Scratch).inDirectory n =
      { s.inDirectory n with files := (s.inDirectory n).files ++ [p.inDirectory n] } := by
  simp [inDirectory]

/-- The directory is there or made on both disks, or cannot be made on either. -/
theorem mirrors_ensureDirectory (h : s.Alongside d d' e e') :
    (∃ error, s.ensureDirectory e = .error error ∧
        (s.inDirectory d'.next).ensureDirectory e' = .error error) ∨
      ∃ paths e₁ e₁', s.ensureDirectory e = .ok (d.next, ⟨some d.next, paths⟩, e₁) ∧
        (s.inDirectory d'.next).ensureDirectory e' =
          .ok (d'.next, inDirectory d'.next ⟨some d.next, paths⟩, e₁') ∧
        SameFiles d d' paths e₁ e₁' := by
  cases h with
  | used same => exact .inr ⟨_, e, e', rfl, rfl, same⟩
  | unused rootError =>
      cases hroot : d.rootError with
      | some error =>
          refine .inl ⟨error, ?_, ?_⟩
          · rw [ensureDirectory, Disk.createDirectory, hroot]
          · rw [inDirectory, ensureDirectory, Disk.createDirectory, rootError, hroot]
            rfl
      | none =>
          obtain ⟨e₁, hmade⟩ := Disk.exists_createDirectory hroot
          obtain ⟨e₁', hmade'⟩ := Disk.exists_createDirectory (rootError.trans hroot)
          refine .inr ⟨[], e₁, e₁', ?_, ?_, by simp, by simp, ?_⟩
          · rw [ensureDirectory, hmade]
          · rw [inDirectory, ensureDirectory, hmade']
            rfl
          · rw [Disk.files?_createDirectory hmade, Disk.files?_createDirectory hmade']

/-- An upload is placed by the files that are in the directory. -/
theorem placeFor_inDirectory (u : Upload) (h : e'.files? d'.next = e.files? d.next) :
    placeFor u d'.next e' = (placeFor u d.next e).inDirectory d'.next := by
  simp only [placeFor, Disk.contains, Disk.read?, h, FilePath.inDirectory]

/-- A file is written into the directory on both disks, or on neither. -/
theorem mirrors_write (h : SameFiles d d' paths e e') {p : FilePath} (hp : p.directory = d.next)
    (data : Bytes) :
    (∃ error, e.write p data = .error error ∧
        e'.write (p.inDirectory d'.next) data = .error error) ∨
      ∃ e₁ e₁', e.write p data = .ok e₁ ∧ e'.write (p.inDirectory d'.next) data = .ok e₁' ∧
        SameFiles d d' (paths ++ [p]) e₁ e₁' := by
  have hsame : e'.files? (p.inDirectory d'.next).directory = e.files? p.directory := by
    rw [hp]
    exact h.files
  cases hfiles : e.files? p.directory with
  | none =>
      exact .inl ⟨_, Disk.write_of_files?_eq_none hfiles data,
        Disk.write_of_files?_eq_none (hsame.trans hfiles) data⟩
  | some files =>
      have hwrite := Disk.write_of_files? hfiles data
      have hwrite' := Disk.write_of_files? (hsame.trans hfiles) data
      by_cases hlong : Disk.nameLimit < (Utf8.encode p.name).length
      · exact .inl ⟨_, hwrite.trans (if_pos hlong), hwrite'.trans (if_pos hlong)⟩
      · rw [if_neg hlong] at hwrite
        refine .inr ⟨_, _, hwrite, hwrite'.trans (if_neg hlong), ?_, fun q hq => ?_, ?_⟩
        · exact List.forall_mem_append.2 ⟨h.inside, List.forall_mem_singleton.2 hp⟩
        · rw [Disk.contains, Disk.read?_write hwrite]
          split
          · rfl
          · next hne =>
            rcases List.mem_append.1 hq with hq | hq
            · exact h.there q hq
            · exact absurd (List.mem_singleton.1 hq) hne
        · have hnext : d.next = p.directory := hp.symm
          have hnext' : d'.next = (p.inDirectory d'.next).directory := rfl
          rw [Disk.files?_setFiles, Disk.files?_setFiles, if_pos hnext, if_pos hnext', hsame,
            hfiles]
          rfl

/-- An upload is stored on both disks, under the same name, or on neither. -/
theorem mirrors_store (h : s.Alongside d d' e e') (u : Upload) :
    Mirrors d d' (FormFile.inDirectory d'.next) (s.store u e)
      ((s.inDirectory d'.next).store u e') := by
  rw [store, store]
  rcases mirrors_ensureDirectory h with ⟨error, heq, heq'⟩ | ⟨paths, e₁, e₁', heq, heq', hsame⟩
  · rw [heq, heq']
    exact .error error h
  · rw [heq, heq']
    dsimp only
    rw [placeFor_inDirectory u hsame.files]
    have hdirectory : (placeFor u d.next e₁).directory = d.next := rfl
    rcases mirrors_write hsame hdirectory u.data with ⟨error, hw, hw'⟩ | ⟨e₂, e₂', hw, hw', hsame'⟩
    · rw [hw, hw']
      exact .error error (.used hsame)
    · rw [hw, hw']
      have hscratch := inDirectory_append d'.next ⟨some d.next, paths⟩ (placeFor u d.next e₁)
      exact hscratch ▸ .ok _ (.used hsame')

end Scratch

namespace FormData

open Scratch (Mirrors)

variable {d d' e e' : Disk} {s : Scratch}

/-! ### Reading a form -/

theorem mirrors_partValue (h : s.Alongside d d' e e') (p : Part) :
    Mirrors d d' (FormValue.inDirectory d'.next) (partValue p s e)
      (partValue p (s.inDirectory d'.next) e') := by
  rw [partValue, partValue]
  split
  · have hstore := Scratch.mirrors_store h p.upload
    generalize s.store p.upload e = r at hstore ⊢
    generalize (s.inDirectory d'.next).store p.upload e' = r' at hstore ⊢
    cases hstore with
    | error error halongside => exact .error _ halongside
    | ok f halongside => exact .ok (FormValue.file f) halongside
  · split
    · next text _ => exact .ok (FormValue.text text) h
    · exact .error _ h

theorem push_noteContentType_inDirectory (n : Nat) (f : FormData) (p : Part) (v : FormValue) :
    ((f.inDirectory n).noteContentType p).push p.name (v.inDirectory n) =
      ((f.noteContentType p).push p.name v).inDirectory n := by
  simp only [push, noteContentType, inDirectory, FormParams.push_inDirectory]

theorem mirrors_collect (h : s.Alongside d d' e e') (f : FormData)
    (results : List (Except FormError Part)) :
    Mirrors d d' (FormData.inDirectory d'.next) (collect f s e results)
      (collect (f.inDirectory d'.next) (s.inDirectory d'.next) e' results) := by
  induction results generalizing f s e e' with
  | nil => exact .ok f h
  | cons r results ih =>
      cases r with
      | error error => exact .error error h
      | ok p =>
          rw [collect, collect]
          have hvalue := mirrors_partValue h p
          generalize partValue p s e = r at hvalue ⊢
          generalize partValue p (s.inDirectory d'.next) e' = r' at hvalue ⊢
          cases hvalue with
          | error error halongside => exact .error error halongside
          | ok v halongside =>
              dsimp only
              rw [push_noteContentType_inDirectory]
              exact ih halongside _

/-- The form of a request is read without a look at the disk, and has no files, or it is that of a
multipart body. -/
theorem extract_cases (r : Request) (limits : FormLimits) :
    (∃ result : Except FormError FormData,
        (∀ form, result = .ok form → ∀ f, ¬ form.params.Holds f) ∧
          ∀ s d, extract r limits s d = (result, s, d)) ∨
      ∃ results, ∀ s d, extract r limits s d = collect {} s d results := by
  have hempty : ∀ form : FormData, (.ok {} : Except FormError FormData) = .ok form →
      ∀ f, ¬ form.params.Holds f := by
    rintro form ⟨⟩ f ⟨e, he, -⟩
    cases he
  have herror (error : FormError) : ∀ form : FormData,
      (.error error : Except FormError FormData) = .ok form → ∀ f, ¬ form.params.Holds f := by
    rintro form ⟨⟩
  cases hct : r.contentType? with
  | none => exact .inl ⟨_, hempty, fun s d => by rw [extract, hct]⟩
  | some contentType =>
      simp only [extract, hct]
      split
      · exact .inl ⟨_, hempty, fun s d => rfl⟩
      · split
        · exact .inl ⟨_, herror _, fun s d => rfl⟩
        · split
          · refine .inl ⟨_, ?_, fun s d => rfl⟩
            rintro form ⟨⟩
            exact FormParams.not_holds_ofUrlEncoded r.body
          · split
            · exact .inl ⟨_, herror _, fun s d => rfl⟩
            · exact .inr ⟨_, fun s d => rfl⟩

/-- A form is read on both disks, or refused for the same reason. -/
theorem mirrors_extract (h : s.Alongside d d' e e') (r : Request) (limits : FormLimits) :
    Mirrors d d' (FormData.inDirectory d'.next) (extract r limits s e)
      (extract r limits (s.inDirectory d'.next) e') := by
  rcases extract_cases r limits with ⟨result, hnone, heq⟩ | ⟨results, heq⟩
  · rw [heq, heq]
    cases result with
    | error error => exact .error error h
    | ok form =>
        have hsame : form.inDirectory d'.next = form := by
          rw [inDirectory, FormParams.inDirectory_of_not_holds _ (hnone form rfl)]
        exact .of_eq hsame h
  · rw [heq, heq]
    exact mirrors_collect h {} results

/-- The files of a form that was read are tracked. -/
theorem tracked_of_extract {r : Request} {limits : FormLimits} {s s' : Scratch} {d d' : Disk}
    {form : FormData} (h : extract r limits s d = (.ok form, s', d')) {f : FormFile}
    (hf : form.params.Holds f) : f.path ∈ s'.files := by
  rcases extract_cases r limits with ⟨result, hnone, heq⟩ | ⟨results, heq⟩
  · rw [heq] at h
    cases h
    exact absurd hf (hnone form rfl f)
  · rw [heq] at h
    obtain ⟨taken, -, rfl, -, -, htracks⟩ := collect_eq_ok h
    obtain ⟨u, hu, rfl⟩ := exists_mem_uploadsOf hf
    rw [htracks.files]
    exact List.mem_append_right _ (List.mem_map_of_mem hu)

end FormData

end ServiceDispatch
