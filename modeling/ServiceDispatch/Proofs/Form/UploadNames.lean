import ServiceDispatch.Proofs.Form.FileName
import ServiceDispatch.Proofs.Form.ScratchHistory

/-!
# Names of stored uploads

What a client calls an upload becomes the name of a file in the directory of the request and nothing
else: it is proper, so it cannot lead out of the directory, and numbers in front of it keep it
apart from the names that are taken. Which number it gets is said by `Search`, the plain search from
zero on, which has no bound of its own; it ends because no more names are taken than there are
files.
-/

namespace ServiceDispatch

/-! ### Proper names -/

namespace FileName

theorem isProper_wantedName (u : Upload) : IsProper u.wantedName := by
  rw [Upload.wantedName]
  split
  · next name hname =>
    obtain ⟨asked, -, hasked⟩ := Option.bind_eq_some_iff.1 hname
    exact isProper_of_sanitize? hasked
  · cases hfield : sanitize? u.field with
    | some name => exact isProper_of_sanitize? hfield
    | none => exact ⟨by decide, by decide, by decide, by simp [Text.isControl]⟩

theorem plain_of_isDigit {c : Char} (h : c.isDigit = true) :
    c ≠ '/' ∧ c ≠ '\\' ∧ Text.isControl c = false := by
  obtain ⟨hlow, hhigh⟩ : 48 ≤ c.toNat ∧ c.toNat ≤ 57 := by
    simpa [Char.isDigit, UInt32.le_iff_toNat_le] using h
  refine ⟨?_, ?_, ?_⟩
  · rintro rfl
    exact absurd h (by decide)
  · rintro rfl
    exact absurd h (by decide)
  · simp [Text.isControl]
    omega

/-- A number in front of a proper name makes no other of it. -/
theorem IsProper.numbered {name : String} (h : IsProper name) (k : Nat) :
    IsProper (Scratch.numbered name k) := by
  by_cases hk : k = 0
  · rw [Scratch.numbered, if_pos hk]
    exact h
  · have hlist := Scratch.toList_numbered hk name
    have hdash : '-' ∈ (Scratch.numbered name k).toList := by simp [hlist]
    have hne (t : String) (ht : '-' ∉ t.toList) : Scratch.numbered name k ≠ t := by
      rintro rfl
      exact ht hdash
    refine ⟨hne _ (by decide), hne _ (by decide), hne _ (by decide), fun c hc => ?_⟩
    rw [hlist, List.mem_append, List.mem_cons] at hc
    rcases hc with hdigit | rfl | hc
    · exact plain_of_isDigit (Nat.isDigit_of_mem_toDigits (by decide) (by decide) hdigit)
    · decide
    · exact h.plain c hc

end FileName

theorem Disk.Keeps.contains {d d' : Disk} (h : d.Keeps d') {p : FilePath}
    (hp : d.contains p = true) : d'.contains p = true := by
  obtain ⟨data, hdata⟩ := Option.isSome_iff_exists.1 hp
  rw [Disk.contains, h p data hdata]
  rfl

namespace Scratch

/-! ### The search for a free name -/

/-- Numbers are tried from `k` on, `n` of them, up to the first whose name is not taken. -/
inductive Search (taken : String → Bool) (name : String) : Nat → Nat → String → Prop where
  | found {k : Nat} (free : taken (numbered name k) = false) :
      Search taken name k 1 (numbered name k)
  | next {k n : Nat} {result : String} (occupied : taken (numbered name k) = true)
      (rest : Search taken name (k + 1) n result) : Search taken name k (n + 1) result

theorem search_freeName {taken : String → Bool} {name : String} {tries k : Nat}
    (h : taken (freeName taken name tries k) = false) :
    ∃ n ≤ tries + 1, Search taken name k n (freeName taken name tries k) := by
  induction tries generalizing k with
  | zero => exact ⟨1, Nat.le_refl _, .found h⟩
  | succ tries ih =>
      rw [freeName] at h ⊢
      split at h
      · next htaken =>
        obtain ⟨n, hn, hsearch⟩ := ih h
        rw [if_pos htaken]
        exact ⟨n + 1, Nat.succ_le_succ hn, .next htaken hsearch⟩
      · next htaken =>
        rw [if_neg htaken]
        exact ⟨1, by omega, .found h⟩

/-- An upload is placed where the search ends, after one more try than there are files at most. -/
theorem search_placeFor (u : Upload) {id : Nat} {d : Disk} {files : Table Bytes}
    (h : d.files? id = some files) :
    ∃ n ≤ files.length + 1,
      Search (fun name => d.contains ⟨id, name⟩) u.wantedName 0 n (placeFor u id d).name := by
  have hplace : placeFor u id d = ⟨id, freeName (fun name => d.contains ⟨id, name⟩) u.wantedName
      files.length 0⟩ := by
    rw [placeFor, h]
    rfl
  have hfree : d.contains (placeFor u id d) = false := by
    rw [Disk.contains, read?_placeFor]
    rfl
  rw [hplace] at hfree ⊢
  exact search_freeName hfree

/-! ### One upload -/

variable {u : Upload} {s s' : Scratch} {d d₁ d' : Disk} {id : Nat}

theorem Readies.keeps (h : s.Readies d id d₁) : d.Keeps d₁ := by
  cases h with
  | there => exact .refl d
  | made _ created =>
      intro q data hq
      rw [Disk.read?_createDirectory created, hq]

theorem Readies.directory_eq (h : s.Readies d id d₁) {j : Nat} (hj : s.directory = some j) :
    some id = some j := by
  cases h with
  | there hdirectory => exact hdirectory.symm.trans hj
  | made hnone => cases hnone.symm.trans hj

theorem directory_store (hid : s.directory = some id) :
    (s.store u d).2.1.directory = some id := by
  have hstores := stores_store u s d
  revert hstores
  rcases s.store u d with ⟨result, s', d'⟩
  rintro (_ | hready | ⟨hready, -⟩)
  · exact hid
  · exact hready.directory_eq hid
  · exact hready.directory_eq hid

/-- A write that fails is not tracked, and changes no file. -/
theorem store_eq_error {e : DiskError} (h : s.store u d = (.error e, s', d')) :
    s'.files = s.files ∧ d.Keeps d' := by
  have hstores := h ▸ stores_store u s d
  cases hstores with
  | homeless => exact ⟨rfl, .refl d⟩
  | refused hready => exact ⟨rfl, hready.keeps⟩

theorem isProper_store {f : FormFile} (h : s.store u d = (.ok f, s', d')) :
    s'.directory = some f.path.directory ∧ FileName.IsProper f.path.name := by
  have hstores := h ▸ stores_store u s d
  cases hstores with
  | @stored id d₁ =>
      obtain ⟨j, -, hj⟩ := freeName_eq_numbered (fun name => d₁.contains ⟨id, name⟩) u.wantedName
        ((d₁.files? id).getD []).length 0
      have hname : (placeFor u id d₁).name = numbered u.wantedName j := hj
      exact ⟨rfl, hname ▸ (FileName.isProper_wantedName u).numbered j⟩

end Scratch

/-! ### Uploads one after another -/

/-- The file that was stored. -/
def ScratchEvent.file? : ScratchEvent → Option FormFile
  | .stored f => some f
  | _ => none

namespace ScratchHistory

/-- The uploads were stored or refused, one after another: each that was stored is a file of its
own, with its own data, in the directory of the request. -/
structure Settles (us : List Upload) (h : ScratchHistory) : Prop where
  results : List.Forall₂ (fun u e => ∀ f, e = .stored f → u.StoredAs f h.disk ∧
    h.scratch.directory = some f.path.directory ∧ FileName.IsProper f.path.name) us h.events
  listed : h.scratch.files = (h.events.filterMap ScratchEvent.file?).map FormFile.path
  nodup : h.scratch.files.Nodup
  there : ∀ p ∈ h.scratch.files, h.disk.contains p = true

variable {us : List Upload} {h : ScratchHistory}

/-- Files of their own stay so while others come. -/
theorem Settles.forall₂_keeps (hs : h.Settles us) {s' : Scratch} {d' : Disk}
    (hkeeps : h.disk.Keeps d')
    (hdirectory : ∀ id, h.scratch.directory = some id → s'.directory = some id) :
    List.Forall₂ (fun u e => ∀ f, e = .stored f → u.StoredAs f d' ∧
      s'.directory = some f.path.directory ∧ FileName.IsProper f.path.name) us h.events := by
  refine hs.results.imp fun u e hresult f hf => ?_
  obtain ⟨hstored, hown, hproper⟩ := hresult f hf
  exact ⟨hstored.keeps hkeeps, hdirectory _ hown, hproper⟩

theorem Settles.next (hs : h.Settles us) (u : Upload) :
    (h.next (.store u)).Settles (us ++ [u]) := by
  have hdirectory (id : Nat) (hid : h.scratch.directory = some id) :=
    Scratch.directory_store (u := u) (d := h.disk) hid
  rw [ScratchHistory.next]
  rcases hstore : h.scratch.store u h.disk with ⟨e | f, s', d'⟩
  · rw [hstore] at hdirectory
    obtain ⟨hfiles, hkeeps⟩ := Scratch.store_eq_error hstore
    refine ⟨List.rel_append (hs.forall₂_keeps hkeeps hdirectory) (.cons (by simp) .nil), ?_,
      hfiles ▸ hs.nodup, fun p hp => hkeeps.contains (hs.there p (hfiles ▸ hp))⟩
    simp [hfiles, hs.listed, ScratchEvent.file?]
  · rw [hstore] at hdirectory
    obtain ⟨hstored, hfiles, hfree, hkeeps⟩ := Scratch.store_eq_ok hstore
    obtain ⟨hown, hproper⟩ := Scratch.isProper_store hstore
    have hlast : ∀ g, ScratchEvent.stored f = .stored g → u.StoredAs g d' ∧
        s'.directory = some g.path.directory ∧ FileName.IsProper g.path.name := by
      rintro g ⟨⟩
      exact ⟨hstored, hown, hproper⟩
    -- the new file is where none was, so it is none of those before
    have hnew : f.path ∉ h.scratch.files := by
      intro hmem
      have hthere := hs.there f.path hmem
      rw [Disk.contains, hfree] at hthere
      cases hthere
    refine ⟨List.rel_append (hs.forall₂_keeps hkeeps hdirectory) (.cons hlast .nil), ?_, ?_,
      fun p hp => ?_⟩
    · simp [hfiles, hs.listed, ScratchEvent.file?]
    · rw [hfiles]
      exact List.nodup_append_comm.1 (List.nodup_cons.2 ⟨hnew, hs.nodup⟩)
    · rw [hfiles] at hp
      rcases List.mem_append.1 hp with hp | hp
      · exact hkeeps.contains (hs.there p hp)
      · rw [List.mem_singleton.1 hp, Disk.contains, hstored.content]
        rfl

theorem settles_after (d₀ : Disk) (us : List Upload) :
    (after d₀ (us.map .store)).Settles us := by
  induction us using List.reverseRecOn with
  | nil => exact ⟨.nil, rfl, .nil, fun p hp => absurd hp List.not_mem_nil⟩
  | append_singleton us u ih =>
      rw [List.map_append, after, List.foldl_append]
      exact ih.next u

/-- Uploads that are stored one after another can neither leave the directory of the request nor
get in each other's way: each is stored under a proper name in the directory, apart from all others,
and holds its own data after whatever follows; what is tracked are those that were stored. The
search for the name of one more ends, after at most one more try than there are files. -/
theorem uploads_apart (d₀ : Disk) (us : List Upload) :
    let h := after d₀ (us.map .store)
    List.Forall₂ (fun u e => ∀ f, e = .stored f → u.StoredAs f h.disk ∧
        h.scratch.directory = some f.path.directory ∧ FileName.IsProper f.path.name) us h.events ∧
      h.scratch.files = (h.events.filterMap ScratchEvent.file?).map FormFile.path ∧
      h.scratch.files.Nodup ∧
      ∀ u id s d, h.scratch.ensureDirectory h.disk = .ok (id, s, d) →
        ∃ files, d.files? id = some files ∧ ∃ n ≤ files.length + 1, ∃ name,
          Scratch.Search (fun name => d.contains ⟨id, name⟩) u.wantedName 0 n name ∧
            ∀ f, (h.scratch.store u h.disk).1 = .ok f → f.path = ⟨id, name⟩ := by
  intro h
  have hs : h.Settles us := settles_after d₀ us
  refine ⟨hs.results, hs.listed, hs.nodup, fun u id s d hensure => ?_⟩
  have htracks := (sound_after d₀ (us.map .store)).tracks.readies
    (Scratch.readies_of_ensureDirectory hensure)
  obtain ⟨files, hfiles⟩ := Disk.mem_ids_iff.1 (htracks.mem_ids rfl)
  obtain ⟨n, hn, hsearch⟩ := Scratch.search_placeFor u hfiles
  refine ⟨files, hfiles, n, hn, _, hsearch, fun f hf => ?_⟩
  rw [Scratch.store, hensure] at hf
  dsimp only at hf
  split at hf
  · cases hf
  · cases hf
    rfl

/-- A client that asks for the numbered form of a name takes it. -/
example :
    let ask (name : String) : ScratchOp := .store ⟨"f", some name, "text/plain", []⟩
    (after {} [ask "a", ask "1-a", ask "../a"]).scratch.files =
      [⟨0, "a"⟩, ⟨0, "1-a"⟩, ⟨0, "2-a"⟩] := by
  decide +kernel

end ScratchHistory

end ServiceDispatch
