import ServiceDispatch.Proofs.Form.Scratch

/-!
# Removing scratch files

Cleaning up removes every file that is tracked and may be removed, and then the directory. What it
does to the disk is said by `Removed`, one file after another; that a file is gone already makes no
difference. If the directory holds nothing but tracked files (`Scratch.Tracks`), then cleaning up
fails exactly if one of them is there and locked, and otherwise the directory goes with its files.
-/

namespace ServiceDispatch

theorem Table.isSome_get?_iff {α : Type} {k : String} {t : Table α} :
    (get? k t).isSome = true ↔ k ∈ keys t := by
  induction t with
  | nil => simp [keys]
  | cons e t ih =>
      rw [get?_cons, keys, List.map_cons, List.mem_cons, ← keys, ← ih]
      by_cases h : e.1 = k
      · simp [h]
      · simp [h, Ne.symm h]

namespace Disk

/-- The numbers of the directories below the root. -/
def ids (d : Disk) : List Nat := d.directories.map Prod.fst

/-- The disk without a file, whoever removed it. -/
def lose (d : Disk) (p : FilePath) : Disk :=
  match d.files? p.directory with
  | none => d
  | some files => d.setFiles p.directory (Table.erase p.name files)

/-- The same directories and the same rules; the files in them may differ. -/
structure Alike (d d' : Disk) : Prop where
  rootError : d'.rootError = d.rootError
  ids : d'.ids = d.ids
  next : d'.next = d.next
  locked : d'.locked = d.locked

theorem Alike.refl (d : Disk) : d.Alike d := ⟨rfl, rfl, rfl, rfl⟩

theorem Alike.trans {d d' d'' : Disk} (h : d.Alike d') (h' : d'.Alike d'') : d.Alike d'' where
  rootError := h'.rootError.trans h.rootError
  ids := h'.ids.trans h.ids
  next := h'.next.trans h.next
  locked := h'.locked.trans h.locked

theorem alike_setFiles (d : Disk) (id : Nat) (files : Table Bytes) :
    d.Alike (d.setFiles id files) := by
  refine ⟨rfl, ?_, rfl, rfl⟩
  rw [ids, directories_setFiles, List.map_map]
  refine List.map_congr_left fun e _ => ?_
  rw [Function.comp_apply]
  split
  · next h => exact (beq_iff_eq.1 h).symm
  · rfl

theorem alike_lose (d : Disk) (p : FilePath) : d.Alike (d.lose p) := by
  rw [lose]
  split
  · exact .refl d
  · exact alike_setFiles d _ _

theorem alike_write {d d' : Disk} {p : FilePath} {data : Bytes} (h : d.write p data = .ok d') :
    d.Alike d' := by
  obtain ⟨files, -, rfl⟩ := write_eq_ok h
  exact alike_setFiles d _ _

theorem lt_next_of_mem_ids {d : Disk} {id : Nat} (h : id ∈ d.ids) : id < d.next := by
  obtain ⟨e, he, rfl⟩ := List.mem_map.1 h
  exact d.lt_next e he

theorem ids_createDirectory {d d₁ : Disk} {id : Nat} (h : d.createDirectory = .ok (id, d₁)) :
    id = d.next ∧ d₁.ids = d.ids ++ [id] ∧ d₁.next = d.next + 1 := by
  rw [createDirectory] at h
  split at h
  · cases h
  · cases h
    exact ⟨rfl, List.map_append, rfl⟩

theorem mem_ids_iff {d : Disk} {id : Nat} : id ∈ d.ids ↔ ∃ files, d.files? id = some files := by
  rw [files?, ← Option.isSome_iff_exists, Option.isSome_map, List.find?_isSome, ids, List.mem_map]
  simp only [beq_iff_eq]

theorem read?_eq_none {d : Disk} {p : FilePath} (h : p.directory ∉ d.ids) : d.read? p = none := by
  have hnone : d.files? p.directory = none :=
    Option.eq_none_iff_forall_ne_some.2 fun files hfiles => h (mem_ids_iff.2 ⟨files, hfiles⟩)
  rw [read?, hnone, Option.bind_none]

theorem contains_iff {d : Disk} {p : FilePath} :
    d.contains p = true ↔
      ∃ files, d.files? p.directory = some files ∧ p.name ∈ Table.keys files := by
  rw [contains, read?]
  cases d.files? p.directory with
  | none => simp
  | some files => simp [Table.isSome_get?_iff]

theorem read?_lose (d : Disk) (p q : FilePath) :
    (d.lose p).read? q = if q = p then none else d.read? q := by
  rw [lose]
  split
  · next hnone =>
    split
    · next h => rw [h, read?, hnone, Option.bind_none]
    · rfl
  · next files hfiles =>
    rw [read?, files?_setFiles, read?]
    by_cases hdir : q.directory = p.directory
    · rw [if_pos hdir, hdir, hfiles, Option.map_some, Option.bind_some, Option.bind_some]
      by_cases hname : p.name = q.name
      · have heq : q = p := by
          cases p
          cases q
          simp_all
        rw [if_pos heq, hname, Table.get?_erase_self]
      · have hne : q ≠ p := fun heq => hname (heq ▸ rfl)
        rw [if_neg hne, Table.get?_erase_of_ne files hname]
    · have hne : q ≠ p := fun heq => hdir (heq ▸ rfl)
      rw [if_neg hdir, if_neg hne]

theorem remove_eq (d : Disk) (p : FilePath) :
    d.remove p =
      if d.contains p = false then .error .notFound
      else if p ∈ d.locked then .error .notPermitted
      else .ok (d.lose p) := by
  rw [remove, contains, read?, lose]
  cases d.files? p.directory with
  | none => rfl
  | some files =>
      dsimp only
      rw [Option.bind_some]
      cases hget : Table.get? p.name files with
      | none => rfl
      | some data => simp

/-- A directory is removed with its files if none of them is locked. -/
theorem removeDirectory_eq_none_iff {d : Disk} {id : Nat} (h : id ∈ d.ids) :
    (d.removeDirectory id).1 = none ↔
      ∀ q, q.directory = id → d.contains q = true → q ∉ d.locked := by
  obtain ⟨files, hfiles⟩ := mem_ids_iff.1 h
  have hkept : (d.removeDirectory id).1 = none ↔
      (files.filter fun e => d.locked.contains ⟨id, e.1⟩) = [] := by
    rw [removeDirectory, hfiles]
    dsimp only
    split
    · next hnil => exact iff_of_true rfl hnil
    · next hne => exact iff_of_false (Option.some_ne_none _) hne
  rw [hkept, List.filter_eq_nil_iff]
  constructor
  · rintro hall ⟨directory, name⟩ rfl hq hlocked
    obtain ⟨files', hfiles', hname⟩ := contains_iff.1 hq
    cases hfiles.symm.trans hfiles'
    obtain ⟨e, he, rfl⟩ := List.mem_map.1 hname
    exact hall e he (List.contains_iff_mem.2 hlocked)
  · intro hall e he hlocked
    refine hall ⟨id, e.1⟩ rfl (contains_iff.2 ⟨files, hfiles, List.mem_map_of_mem he⟩) ?_
    exact List.contains_iff_mem.1 hlocked

theorem next_removeDirectory (d : Disk) (id : Nat) : (d.removeDirectory id).2.next = d.next := by
  rw [removeDirectory]
  split
  · rfl
  · split <;> rfl

theorem find?_filter_ne {directories : List (Nat × Table Bytes)} {id j : Nat} :
    (directories.filter fun e => e.1 ≠ id).find? (fun e => e.1 == j) =
      if j = id then none else directories.find? fun e => e.1 == j := by
  rw [List.find?_filter]
  split
  · next h =>
    subst h
    refine List.find?_eq_none.2 fun e _ => ?_
    simp
  · next h =>
    congr 1
    funext e
    by_cases hj : e.1 = j
    · simp [hj, h]
    · simp [hj]

/-- A directory that is removed is gone, and the others are left. -/
theorem of_removeDirectory_eq_none {d : Disk} {id : Nat} (h : (d.removeDirectory id).1 = none) :
    (d.removeDirectory id).2.ids = d.ids.filter (· ≠ id) ∧
      ∀ q, (d.removeDirectory id).2.read? q = if q.directory = id then none else d.read? q := by
  have hdirectories : (d.removeDirectory id).2.directories =
      d.directories.filter fun e => e.1 ≠ id := by
    rw [removeDirectory] at h ⊢
    split at h
    · cases h
    · split at h
      · exact List.filter_congr fun e _ => by by_cases he : e.1 = id <;> simp [he]
      · cases h
  refine ⟨?_, fun q => ?_⟩
  · rw [ids, hdirectories, ids, List.filter_map]
    rfl
  · rw [read?, files?, hdirectories, find?_filter_ne]
    split
    · rfl
    · rfl

end Disk

namespace Scratch

/-- What removing some files does, one after another, with the first failure so far. -/
structure Removed (paths : List FilePath) (st st' : Option DiskError × Disk) : Prop where
  alike : st.2.Alike st'.2
  read : ∀ q, st'.2.read? q = if q ∈ paths ∧ q ∉ st.2.locked then none else st.2.read? q
  failure : st'.1 = none ↔ st.1 = none ∧ ∀ p ∈ paths, st.2.contains p = true → p ∉ st.2.locked

theorem removeFile_eq (failure : Option DiskError) (d : Disk) (p : FilePath) :
    removeFile (failure, d) p =
      if d.contains p = false then (failure, d)
      else if p ∈ d.locked then (failure <|> some .notPermitted, d)
      else (failure, d.lose p) := by
  rw [removeFile, Disk.remove_eq]
  by_cases hthere : d.contains p = false
  · simp only [if_pos hthere]
  · by_cases hlocked : p ∈ d.locked
    · simp only [if_neg hthere, if_pos hlocked]
    · simp only [if_neg hthere, if_neg hlocked]

theorem removed_removeFile (st : Option DiskError × Disk) (p : FilePath) :
    Removed [p] st (removeFile st p) := by
  obtain ⟨failure, d⟩ := st
  rw [removeFile_eq]
  by_cases hthere : d.contains p = false
  · have hgone : d.read? p = none := by simpa [Disk.contains] using hthere
    rw [if_pos hthere]
    refine ⟨.refl d, fun q => ?_, by simp [hthere]⟩
    by_cases hq : q = p
    · simp [hq, hgone]
    · simp [hq]
  · rw [if_neg hthere]
    rw [Bool.not_eq_false] at hthere
    by_cases hlocked : p ∈ d.locked
    · rw [if_pos hlocked]
      refine ⟨.refl d, fun q => ?_, ?_⟩
      · by_cases hq : q = p
        · simp [hq, hlocked]
        · simp [hq]
      · cases failure <;> simp [hthere, hlocked]
    · rw [if_neg hlocked]
      refine ⟨d.alike_lose p, fun q => ?_, by simp [hlocked]⟩
      rw [Disk.read?_lose]
      by_cases hq : q = p
      · simp [hq, hlocked]
      · simp [hq]

theorem Removed.trans {ps qs : List FilePath} {st st' st'' : Option DiskError × Disk}
    (h : Removed ps st st') (h' : Removed qs st' st'') : Removed (ps ++ qs) st st'' := by
  have hlocked := h.alike.locked
  -- a locked file is never removed on the way
  have hthere : ∀ p, p ∈ st.2.locked → st'.2.contains p = st.2.contains p := by
    intro p hp
    rw [Disk.contains, h.read, if_neg fun hq => hq.2 hp, Disk.contains]
  refine ⟨h.alike.trans h'.alike, fun q => ?_, ?_⟩
  · rw [h'.read, h.read, hlocked]
    by_cases hl : q ∈ st.2.locked
    · simp [hl]
    · by_cases hqs : q ∈ qs <;> simp [hl, hqs]
  · rw [h'.failure, h.failure, and_assoc, List.forall_mem_append, hlocked]
    refine and_congr_right fun _ => and_congr_right fun _ => forall₂_congr fun p _ => ?_
    constructor
    · exact fun hp hcontains hmem => hp ((hthere p hmem).trans hcontains) hmem
    · exact fun hp hcontains hmem => hp ((hthere p hmem).symm.trans hcontains) hmem

theorem removed_foldl (paths : List FilePath) (st : Option DiskError × Disk) :
    Removed paths st (paths.foldl removeFile st) := by
  induction paths generalizing st with
  | nil => exact ⟨.refl _, by simp, by simp⟩
  | cons p paths ih => exact (removed_removeFile st p).trans (ih _)

/-- The scratch files have no directory, or one that is there and holds only files among them. -/
inductive Tracks (d : Disk) : Scratch → Prop where
  | unused : Tracks d {}
  | used {id : Nat} {paths : List FilePath} (there : id ∈ d.ids)
      (inside : ∀ p ∈ paths, p.directory = id)
      (tracked : ∀ q, q.directory = id → d.contains q = true → q ∈ paths) :
      Tracks d ⟨some id, paths⟩

variable {d : Disk} {s : Scratch}

theorem cleanup_used (id : Nat) (paths : List FilePath) (d : Disk) :
    let st := paths.foldl removeFile (none, d)
    ((cleanup ⟨some id, paths⟩ d).1 = .ok () ↔ st.1 = none ∧ (st.2.removeDirectory id).1 = none) ∧
      (cleanup ⟨some id, paths⟩ d).2.2 = (st.2.removeDirectory id).2 := by
  intro st
  refine ⟨?_, rfl⟩
  rw [cleanup]
  simp only [st]
  rcases paths.foldl removeFile (none, d) with ⟨failure, d₁⟩
  rcases d₁.removeDirectory id with ⟨e, d₂⟩
  cases failure <;> cases e <;> simp

/-- Cleaning up succeeds exactly if no file that is there is locked. -/
theorem Tracks.cleanup_eq_ok_iff (h : s.Tracks d) :
    (s.cleanup d).1 = .ok () ↔ ∀ p ∈ s.files, d.contains p = true → p ∉ d.locked := by
  cases h with
  | unused => simp [cleanup]
  | @used id paths there inside tracked =>
      have hremoved := removed_foldl paths (none, d)
      have hthere : id ∈ (paths.foldl removeFile (none, d)).2.ids := hremoved.alike.ids ▸ there
      rw [(cleanup_used id paths d).1, hremoved.failure, Disk.removeDirectory_eq_none_iff hthere,
        hremoved.alike.locked]
      refine ⟨fun hok => hok.1.2, fun hall => ⟨⟨rfl, hall⟩, ?_⟩⟩
      -- what is left was there before, so it is tracked, and would have been removed
      intro q hq hcontains hlocked
      have hbefore : d.contains q = true := by
        rwa [Disk.contains, hremoved.read, if_neg fun hgone => hgone.2 hlocked] at hcontains
      exact hall q (tracked q hq hbefore) hbefore hlocked

/-- Cleaning up that succeeds leaves neither the directory nor a file in it, and nothing else is
touched. -/
theorem Tracks.of_cleanup_eq_ok (h : s.Tracks d) (hok : (s.cleanup d).1 = .ok ()) :
    (s.cleanup d).2.2.ids = d.ids.filter (fun id => s.directory ≠ some id) ∧
      ∀ q, (s.cleanup d).2.2.read? q =
        if s.directory = some q.directory then none else d.read? q := by
  cases h with
  | unused =>
      refine ⟨?_, fun q => ?_⟩
      · simp [cleanup]
      · simp [cleanup]
  | @used id paths there inside tracked =>
      have hremoved := removed_foldl paths (none, d)
      obtain ⟨hresult, hdisk⟩ := cleanup_used id paths d
      obtain ⟨hids, hread⟩ := Disk.of_removeDirectory_eq_none (hresult.1 hok).2
      rw [hdisk, hids, hremoved.alike.ids]
      refine ⟨?_, fun q => ?_⟩
      · exact List.filter_congr fun j _ => by simp [eq_comm]
      · have hiff : some id = some q.directory ↔ q.directory = id := by simp [eq_comm]
        rw [hread, hremoved.read]
        simp only [hiff]
        split
        · rfl
        · next hq => rw [if_neg fun hgone => hq (inside q hgone.1)]

theorem next_cleanup (s : Scratch) (d : Disk) : (s.cleanup d).2.2.next = d.next := by
  have hnext := (removed_foldl s.files (none, d)).alike.next
  obtain ⟨directory, files⟩ := s
  cases directory with
  | none => exact hnext
  | some id => exact (Disk.next_removeDirectory _ id).trans hnext

end Scratch

end ServiceDispatch
