import ServiceDispatch.Form.Scratch
import Mathlib.Data.List.Nodup
import Mathlib.Data.List.Perm.Subperm

/-!
# Uploads on disk

`Owns d₀ s d` says what the scratch files of a request may have made of the disk `d₀`: the disk
`d` has all directories of `d₀` as they were, and besides at most one directory, which is the
request's and holds whatever files it may hold. Every operation of the request keeps this, and
where nothing is locked, giving the files up leaves the directories of `d₀`.

Storing an upload never changes a file that is there. The name that it chooses is free because
the numbered forms of a name are all different, so one of them is free among as many as there are
files, and one more.
-/

namespace ServiceDispatch

namespace Disk

/-! ### Files -/

theorem directories_setFiles (d : Disk) (id : Nat) (files : Table Bytes) :
    (d.setFiles id files).directories =
      d.directories.map fun e => if e.1 == id then (id, files) else e := rfl

theorem find?_map_files {directories : List (Nat × Table Bytes)} {id j : Nat}
    {files : Table Bytes} :
    (directories.map fun e => if e.1 == id then (id, files) else e).find? (fun e => e.1 == j) =
      (directories.find? fun e => e.1 == j).map fun e => if e.1 == id then (id, files) else e := by
  rw [List.find?_map]
  congr 2
  funext e
  rw [Function.comp_apply]
  split
  · next h => rw [beq_iff_eq.1 h]
  · rfl

theorem files?_setFiles (d : Disk) (id j : Nat) (files : Table Bytes) :
    (d.setFiles id files).files? j =
      if j = id then (d.files? id).map fun _ => files else d.files? j := by
  rw [files?, directories_setFiles, find?_map_files, Option.map_map]
  by_cases h : j = id
  · subst h
    rw [if_pos rfl, files?, Option.map_map]
    cases hf : d.directories.find? fun e => e.1 == j with
    | none => rfl
    | some e =>
        have hj := List.find?_some hf
        simp only [Option.map_some, Function.comp_apply, if_pos hj]
  · rw [if_neg h, files?]
    cases hf : d.directories.find? fun e => e.1 == j with
    | none => rfl
    | some e =>
        have hj : e.1 = j := by simpa using List.find?_some hf
        have hid : (e.1 == id) ≠ true := by simpa [hj] using h
        simp only [Option.map_some, Function.comp_apply, if_neg hid]

theorem write_eq_ok {d d' : Disk} {p : FilePath} {data : Bytes} (h : d.write p data = .ok d') :
    ∃ files, d.files? p.directory = some files ∧
      d' = d.setFiles p.directory (Table.insert p.name data files) := by
  rw [write] at h
  split at h
  · cases h
  · next files hfiles =>
    split at h
    · cases h
    · exact ⟨files, hfiles, (Except.ok.inj h).symm⟩

theorem remove_eq_ok {d d' : Disk} {p : FilePath} (h : d.remove p = .ok d') :
    ∃ files, d' = d.setFiles p.directory files := by
  rw [remove] at h
  split at h
  · cases h
  · split at h
    · cases h
    · split at h
      · cases h
      · exact ⟨_, (Except.ok.inj h).symm⟩

/-- Writing a file changes that file only. -/
theorem read?_write {d d' : Disk} {p : FilePath} {data : Bytes} (h : d.write p data = .ok d')
    (q : FilePath) : d'.read? q = if q = p then some data else d.read? q := by
  obtain ⟨files, hfiles, rfl⟩ := write_eq_ok h
  rw [read?, files?_setFiles]
  by_cases hdir : q.directory = p.directory
  · rw [if_pos hdir, hfiles, Option.map_some, Option.bind_some, Table.get?_insert, read?, hdir,
      hfiles, Option.bind_some]
    have hname : p.name = q.name ↔ q = p := by
      cases p
      cases q
      simp_all [eq_comm]
    simp only [hname]
  · have hne : q ≠ p := fun heq => hdir (heq ▸ rfl)
    rw [if_neg hdir, if_neg hne, read?]

theorem files?_eq_none {d : Disk} {id : Nat} (h : ∀ e ∈ d.directories, e.1 ≠ id) :
    d.files? id = none := by
  rw [files?, List.find?_eq_none.2 fun e he => by simpa using h e he]
  rfl

theorem createDirectory_eq_ok {d d' : Disk} {id : Nat} (h : d.createDirectory = .ok (id, d')) :
    id = d.next ∧ d'.directories = d.directories ++ [(id, [])] ∧ d'.locked = d.locked := by
  rw [createDirectory] at h
  split at h
  · cases h
  · cases h
    exact ⟨rfl, rfl, rfl⟩

/-- A new directory is empty, and none of those that were there. -/
theorem read?_createDirectory {d d' : Disk} {id : Nat} (h : d.createDirectory = .ok (id, d'))
    (q : FilePath) : d'.read? q = d.read? q := by
  obtain ⟨rfl, hd, -⟩ := createDirectory_eq_ok h
  have hfresh : d.files? d.next = none :=
    files?_eq_none fun e he => Nat.ne_of_lt (d.lt_next e he)
  rw [read?, read?, files?, hd, List.find?_append, files?]
  cases hf : d.directories.find? fun e => e.1 == q.directory with
  | some e => rfl
  | none =>
      by_cases hq : d.next = q.directory
      · simp [hq]
      · simp [hq]

/-- A new directory holds no files. -/
theorem files?_createDirectory {d d₁ : Disk} {id : Nat} (h : d.createDirectory = .ok (id, d₁)) :
    d₁.files? id = some [] := by
  obtain ⟨rfl, hdirectories, -⟩ := createDirectory_eq_ok h
  have hothers : d.directories.find? (fun e => e.1 == d.next) = none :=
    List.find?_eq_none.2 fun e he => by simpa using Nat.ne_of_lt (d.lt_next e he)
  rw [files?, hdirectories, List.find?_append, hothers]
  simp

end Disk

namespace Scratch

/-! ### Free names -/

theorem toList_numbered {k : Nat} (h : k ≠ 0) (name : String) :
    (numbered name k).toList = Nat.toDigits 10 k ++ '-' :: name.toList := by
  rw [numbered, if_neg h]
  simp
  rfl

theorem numbered_injective (name : String) : Function.Injective (numbered name) := by
  have hlength : ∀ {k}, k ≠ 0 →
      (numbered name k).toList.length ≠ (numbered name 0).toList.length := by
    intro k h
    rw [toList_numbered h, numbered, if_pos rfl, List.length_append, List.length_cons]
    omega
  intro j k h
  have hlist := congrArg String.toList h
  by_cases hj : j = 0
  · by_cases hk : k = 0
    · rw [hj, hk]
    · rw [hj] at hlist
      exact absurd (congrArg List.length hlist.symm) (hlength hk)
  · by_cases hk : k = 0
    · rw [hk] at hlist
      exact absurd (congrArg List.length hlist) (hlength hj)
    · rw [toList_numbered hj, toList_numbered hk] at hlist
      have hdigits := congrArg (fun ds => Nat.ofDigitChars 10 ds 0) (List.append_cancel_right hlist)
      simpa using hdigits

theorem freeName_eq_numbered (taken : String → Bool) (name : String) (tries k : Nat) :
    ∃ j ≤ k + tries, freeName taken name tries k = numbered name j := by
  induction tries generalizing k with
  | zero => exact ⟨k, Nat.le_refl k, rfl⟩
  | succ tries ih =>
      rw [freeName]
      split
      · obtain ⟨j, hj, heq⟩ := ih (k + 1)
        exact ⟨j, by omega, heq⟩
      · exact ⟨k, Nat.le_add_right _ _, rfl⟩

theorem taken_of_taken_freeName {taken : String → Bool} {name : String} {tries k : Nat}
    (h : taken (freeName taken name tries k) = true) :
    ∀ i ≤ tries, taken (numbered name (k + i)) = true := by
  induction tries generalizing k with
  | zero =>
      intro i hi
      obtain rfl := Nat.le_zero.1 hi
      exact h
  | succ tries ih =>
      intro i hi
      rw [freeName] at h
      split at h
      · next htaken =>
        cases i with
        | zero => exact htaken
        | succ i =>
            have hrest := ih h i (Nat.le_of_succ_le_succ hi)
            rwa [Nat.succ_add_eq_add_succ] at hrest
      · next htaken => exact absurd h htaken

/-- With as many tries as there are names, a name is found that is not taken. -/
theorem not_taken_freeName {taken : String → Bool} {names : List String}
    (h : ∀ n, taken n = true → n ∈ names) (name : String) (k : Nat) :
    taken (freeName taken name names.length k) = false := by
  apply Bool.eq_false_iff.2
  intro htaken
  have hall := taken_of_taken_freeName htaken
  -- then one more name than there are would be taken, all of them different
  let forms := (List.range (names.length + 1)).map fun i => numbered name (k + i)
  have hnodup : forms.Nodup := by
    refine List.nodup_range.map fun i j hij => ?_
    exact Nat.add_left_cancel (numbered_injective name hij)
  have hsub : forms ⊆ names := by
    intro n hn
    obtain ⟨i, hi, rfl⟩ := List.mem_map.1 hn
    exact h _ (hall i (Nat.le_of_lt_succ (List.mem_range.1 hi)))
  have hle := (hnodup.subperm hsub).length_le
  rw [List.length_map, List.length_range] at hle
  exact Nat.not_succ_le_self _ hle

/-- An upload is never placed where a file is. -/
theorem read?_placeFor (u : Upload) (id : Nat) (d : Disk) : d.read? (placeFor u id d) = none := by
  let names := Table.keys ((d.files? id).getD [])
  have hnames : ∀ n, d.contains ⟨id, n⟩ = true → n ∈ names := by
    intro n hn
    obtain ⟨data, hdata⟩ := Option.isSome_iff_exists.1 hn
    rw [Disk.read?, Option.bind_eq_some_iff] at hdata
    obtain ⟨files, hfiles, hget⟩ := hdata
    simp only [names, hfiles, Option.getD_some]
    exact List.mem_map_of_mem (Table.mem_of_get? hget)
  have hfree := not_taken_freeName hnames u.wantedName 0
  have hlength : names.length = ((d.files? id).getD []).length := List.length_map _
  rw [hlength] at hfree
  exact Option.not_isSome_iff_eq_none.1 (Bool.eq_false_iff.1 hfree)

end Scratch

/-! ### Storing an upload -/

/-- The file holds the data of the upload, and says of it what the upload says. -/
structure Upload.StoredAs (u : Upload) (f : FormFile) (d : Disk) : Prop where
  content : d.read? f.path = some u.data
  fileName : f.fileName = u.wantedName
  contentType : f.contentType = u.contentType
  size : f.size = u.data.length

/-- Whatever could be read before can be read now. -/
def Disk.Keeps (d d' : Disk) : Prop := ∀ q data, d.read? q = some data → d'.read? q = some data

theorem Disk.Keeps.refl (d : Disk) : d.Keeps d := fun _ _ h => h

theorem Disk.Keeps.trans {d d' d'' : Disk} (h : d.Keeps d') (h' : d'.Keeps d'') : d.Keeps d'' :=
  fun q data hq => h' q data (h q data hq)

theorem Upload.StoredAs.keeps {u : Upload} {f : FormFile} {d d' : Disk} (h : u.StoredAs f d)
    (hk : d.Keeps d') : u.StoredAs f d' :=
  { h with content := hk f.path u.data h.content }

namespace Scratch

theorem ensureDirectory_eq_ok {s s' : Scratch} {d d' : Disk} {id : Nat}
    (h : s.ensureDirectory d = .ok (id, s', d')) :
    s' = { s with directory := some id } ∧ ∀ q, d'.read? q = d.read? q := by
  rw [ensureDirectory] at h
  split at h
  · next hid =>
    cases h
    refine ⟨?_, fun _ => rfl⟩
    rw [← hid]
  · split at h
    · next hcreate =>
      cases h
      exact ⟨rfl, Disk.read?_createDirectory hcreate⟩
    · cases h

/-- A stored upload is a new file, and no file that was there changes. -/
theorem store_eq_ok {u : Upload} {s s' : Scratch} {d d' : Disk} {f : FormFile}
    (h : s.store u d = (.ok f, s', d')) :
    u.StoredAs f d' ∧ s'.files = s.files ++ [f.path] ∧ d.read? f.path = none ∧ d.Keeps d' := by
  rw [store] at h
  split at h
  · cases h
  · next id t e hensure =>
    obtain ⟨rfl, hsame⟩ := ensureDirectory_eq_ok hensure
    dsimp only at h
    split at h
    · cases h
    · next hwrite =>
      cases h
      have hread := Disk.read?_write hwrite
      have hfree := read?_placeFor u id e
      refine ⟨⟨?_, rfl, rfl, rfl⟩, rfl, ?_, ?_⟩
      · rw [hread, if_pos rfl]
      · rw [← hsame, hfree]
      · intro q data hq
        rw [← hsame] at hq
        have hne : q ≠ placeFor u id e := by
          rintro rfl
          rw [hfree] at hq
          cases hq
        rw [hread, if_neg hne, hq]

end Scratch

/-! ### What a request makes of the disk -/

/-- The directories of `d₀` as they were, and behind them the directory `id`. -/
structure Disk.Adds (d₀ : Disk) (id : Nat) (d : Disk) : Prop where
  directories : ∃ files, d.directories = d₀.directories ++ [(id, files)]
  fresh : ∀ e ∈ d₀.directories, e.1 ≠ id
  locked : d.locked = d₀.locked

/-- The disk is as it was, or the request has added its directory, in which all its files are. -/
inductive Scratch.Owns (d₀ : Disk) : Scratch → Disk → Prop where
  | unused {d : Disk} (directories : d.directories = d₀.directories)
      (locked : d.locked = d₀.locked) : Owns d₀ {} d
  | used {d : Disk} {id : Nat} {paths : List FilePath} (adds : d₀.Adds id d)
      (inside : ∀ p ∈ paths, p.directory = id) : Owns d₀ ⟨some id, paths⟩ d

namespace Disk

theorem Adds.files? {d₀ d : Disk} {id : Nat} (h : d₀.Adds id d) :
    ∃ files, d.files? id = some files := by
  obtain ⟨files, hd⟩ := h.directories
  refine ⟨files, ?_⟩
  have hothers : d₀.directories.find? (fun e => e.1 == id) = none :=
    List.find?_eq_none.2 fun e he => by simpa using h.fresh e he
  rw [Disk.files?, hd, List.find?_append, hothers]
  simp

theorem Adds.setFiles {d₀ d : Disk} {id : Nat} (h : d₀.Adds id d) (files : Table Bytes) :
    d₀.Adds id (d.setFiles id files) := by
  obtain ⟨old, hd⟩ := h.directories
  refine ⟨⟨files, ?_⟩, h.fresh, h.locked⟩
  have hothers : (d₀.directories.map fun e => if e.1 == id then (id, files) else e) =
      d₀.directories := by
    refine Eq.trans (List.map_congr_left fun e he => ?_) (List.map_id _)
    exact if_neg (by simpa using h.fresh e he)
  rw [directories_setFiles, hd, List.map_append, hothers]
  simp

theorem Adds.removeDirectory {d₀ d : Disk} {id : Nat} (h : d₀.Adds id d)
    (hlocked : d₀.locked = []) : (d.removeDirectory id).2.directories = d₀.directories := by
  obtain ⟨files, hfiles⟩ := h.files?
  obtain ⟨old, hd⟩ := h.directories
  have hkept : (files.filter fun e => d.locked.contains ⟨id, e.1⟩) = [] := by
    rw [h.locked, hlocked]
    simp
  have hothers : (d₀.directories.filter fun e => e.1 != id) = d₀.directories :=
    List.filter_eq_self.2 fun e he => bne_iff_ne.2 (h.fresh e he)
  rw [Disk.removeDirectory, hfiles]
  simp only [hkept]
  rw [hd, List.filter_append, hothers]
  simp

end Disk

namespace Scratch

theorem Owns.ensureDirectory {d₀ d d' : Disk} {s s' : Scratch} {id : Nat} (h : s.Owns d₀ d)
    (he : s.ensureDirectory d = .ok (id, s', d')) :
    d₀.Adds id d' ∧ ∀ p ∈ s.files, p.directory = id := by
  cases h with
  | unused hd hlocked =>
      rw [Scratch.ensureDirectory] at he
      dsimp only at he
      split at he
      · next hcreate =>
        cases he
        obtain ⟨rfl, hd', hlocked'⟩ := Disk.createDirectory_eq_ok hcreate
        refine ⟨⟨⟨[], hd' ▸ hd ▸ rfl⟩, ?_, hlocked'.trans hlocked⟩, by simp⟩
        intro e hmem
        exact Nat.ne_of_lt (d.lt_next e (hd ▸ hmem))
      · cases he
  | used hadds hinside =>
      cases he
      exact ⟨hadds, hinside⟩

/-- Storing an upload keeps to the request's directory, also if it fails. -/
theorem Owns.store {d₀ d : Disk} {s : Scratch} (h : s.Owns d₀ d) (u : Upload) :
    (s.store u d).2.1.Owns d₀ (s.store u d).2.2 := by
  rw [Scratch.store]
  cases he : s.ensureDirectory d with
  | error e => exact h
  | ok r =>
      obtain ⟨id, s', d'⟩ := r
      obtain ⟨rfl, -⟩ := ensureDirectory_eq_ok he
      obtain ⟨hadds, hinside⟩ := h.ensureDirectory he
      dsimp only
      cases hw : d'.write (placeFor u id d') u.data with
      | error e => exact .used hadds hinside
      | ok d'' =>
          obtain ⟨files, -, rfl⟩ := Disk.write_eq_ok hw
          refine .used (hadds.setFiles _) fun p hp => ?_
          rcases List.mem_append.1 hp with hp | hp
          · exact hinside p hp
          · rw [List.mem_singleton.1 hp]
            rfl

/-! ### Giving the files up -/

/-- Giving the files up does to the disk what cleaning up does. -/
theorem drop_eq (s : Scratch) (d : Disk) : s.drop d = (s.cleanup d).2.2 := by
  rw [drop]
  split
  · rfl
  · next h =>
    obtain ⟨directory, files⟩ := s
    cases directory
    · cases files
      · rfl
      · exact absurd rfl h
    · exact absurd rfl h

theorem adds_removeFile {d₀ : Disk} {id : Nat} {st : Option DiskError × Disk} {p : FilePath}
    (h : d₀.Adds id st.2) (hp : p.directory = id) : d₀.Adds id (removeFile st p).2 := by
  rw [removeFile]
  split
  · next d hremove =>
    obtain ⟨files, rfl⟩ := Disk.remove_eq_ok hremove
    exact hp ▸ (hp ▸ h).setFiles files
  · exact h
  · exact h

theorem adds_foldl_removeFile {d₀ : Disk} {id : Nat} {paths : List FilePath}
    (hpaths : ∀ p ∈ paths, p.directory = id) {st : Option DiskError × Disk}
    (h : d₀.Adds id st.2) : d₀.Adds id (paths.foldl removeFile st).2 := by
  induction paths generalizing st with
  | nil => exact h
  | cons p paths ih =>
      rw [List.foldl_cons]
      exact ih (fun q hq => hpaths q (List.mem_cons_of_mem p hq))
        (adds_removeFile h (hpaths p (by simp)))

/-- Where nothing is locked, what is left behind are the directories that were there before. -/
theorem Owns.drop {d₀ d : Disk} {s : Scratch} (h : s.Owns d₀ d) (hlocked : d₀.locked = []) :
    (s.drop d).directories = d₀.directories := by
  rw [drop_eq]
  cases h with
  | unused hd _ => exact hd
  | @used _ id paths hadds hinside =>
      have hremoved : d₀.Adds id (paths.foldl removeFile (none, d)).2 :=
        adds_foldl_removeFile hinside hadds
      exact hremoved.removeDirectory hlocked

end Scratch

end ServiceDispatch
