import ServiceDispatch.Proofs.Form.Cleanup
import ServiceDispatch.Proofs.Form.Faults
import Mathlib.Data.List.Induction

/-!
# Histories of scratch files

The scratch files of a request are stored, cleaned up and, behind the back of the request, lost, in
any order. A `ScratchHistory` is what came of it, with what the request was told on the way. Two
things are kept by every step: the request tracks what it has stored since it last cleaned up, and
nothing else is in its directory. As a number names a directory only once, a request that stores
again after it has cleaned up does so among no files at all.
-/

namespace ServiceDispatch

namespace Scratch

/-! ### Storing -/

/-- The request has the directory `id`, on a disk where it may have been made just now. -/
inductive Readies (s : Scratch) (d : Disk) (id : Nat) : Disk → Prop where
  | there (directory : s.directory = some id) : Readies s d id d
  | made {d₁ : Disk} (directory : s.directory = none) (created : d.createDirectory = .ok (id, d₁)) :
      Readies s d id d₁

/-- What comes of storing an upload. -/
inductive Stores (u : Upload) (s : Scratch) (d : Disk) :
    Except DiskError FormFile × Scratch × Disk → Prop where
  | homeless {e : DiskError} : Stores u s d (.error e, s, d)
  | refused {e : DiskError} {id : Nat} {d₁ : Disk} (ready : s.Readies d id d₁) :
      Stores u s d (.error e, { s with directory := some id }, d₁)
  | stored {id : Nat} {d₁ d₂ : Disk} (ready : s.Readies d id d₁)
      (written : d₁.write (placeFor u id d₁) u.data = .ok d₂) :
      Stores u s d (.ok ⟨u.wantedName, u.contentType, placeFor u id d₁, u.data.length⟩,
        ⟨some id, s.files ++ [placeFor u id d₁]⟩, d₂)

theorem readies_of_ensureDirectory {s s' : Scratch} {d d₁ : Disk} {id : Nat}
    (h : s.ensureDirectory d = .ok (id, s', d₁)) : s.Readies d id d₁ := by
  rw [ensureDirectory] at h
  split at h
  · next hid =>
    cases h
    exact .there hid
  · next hnone =>
    split at h
    · next hcreate =>
      cases h
      exact .made hnone hcreate
    · cases h

theorem stores_store (u : Upload) (s : Scratch) (d : Disk) : s.Stores u d (s.store u d) := by
  rw [store]
  cases hensure : s.ensureDirectory d with
  | error e => exact .homeless
  | ok r =>
      obtain ⟨id, s₁, d₁⟩ := r
      have hready := readies_of_ensureDirectory hensure
      obtain ⟨rfl, -⟩ := ensureDirectory_eq_ok hensure
      dsimp only
      cases hwrite : d₁.write (placeFor u id d₁) u.data with
      | error e => exact .refused hready
      | ok d₂ => exact .stored hready hwrite

theorem Tracks.readies {s : Scratch} {d d₁ : Disk} {id : Nat} (h : s.Tracks d)
    (hready : s.Readies d id d₁) : Tracks d₁ { s with directory := some id } := by
  cases hready with
  | there hdirectory =>
      rw [← hdirectory]
      exact h
  | made hdirectory hcreate =>
      obtain ⟨rfl, hids, -⟩ := Disk.ids_createDirectory hcreate
      cases h with
      | used => cases hdirectory
      | unused =>
          refine .used (by simp [hids]) (by simp) fun q hq hcontains => ?_
          -- a new directory is empty
          rw [Disk.contains, Disk.read?_createDirectory hcreate, ← Disk.contains,
            Disk.contains_iff] at hcontains
          obtain ⟨files, hfiles, -⟩ := hcontains
          exact absurd (Disk.lt_next_of_mem_ids (Disk.mem_ids_iff.2 ⟨files, hq ▸ hfiles⟩))
            (Nat.lt_irrefl _)

theorem Tracks.mem_ids {s : Scratch} {d : Disk} {id : Nat} (h : s.Tracks d)
    (hid : s.directory = some id) : id ∈ d.ids := by
  cases h with
  | unused => cases hid
  | used there =>
      cases hid
      exact there

theorem Tracks.directory_eq {s : Scratch} {d : Disk} {p : FilePath} (h : s.Tracks d)
    (hp : p ∈ s.files) : s.directory = some p.directory := by
  cases h with
  | unused => cases hp
  | used there inside => rw [inside p hp]

theorem Tracks.write {d d₂ : Disk} {id : Nat} {paths : List FilePath} {p : FilePath} {data : Bytes}
    (h : Tracks d ⟨some id, paths⟩) (hp : p.directory = id) (hwrite : d.write p data = .ok d₂) :
    Tracks d₂ ⟨some id, paths ++ [p]⟩ := by
  cases h with
  | used there inside tracked =>
      have hread := Disk.read?_write hwrite
      refine .used ((Disk.alike_write hwrite).ids ▸ there) ?_ fun q hq hcontains => ?_
      · intro q hq
        rcases List.mem_append.1 hq with hq | hq
        · exact inside q hq
        · exact List.mem_singleton.1 hq ▸ hp
      · rw [List.mem_append, List.mem_singleton]
        by_cases hqp : q = p
        · exact .inr hqp
        · rw [Disk.contains, hread, if_neg hqp] at hcontains
          exact .inl (tracked q hq hcontains)

theorem Tracks.lose {s : Scratch} {d : Disk} (h : s.Tracks d) (p : FilePath) :
    s.Tracks (d.lose p) := by
  cases h with
  | unused => exact .unused
  | used there inside tracked =>
      refine .used ((d.alike_lose p).ids ▸ there) inside fun q hq hcontains => ?_
      rw [Disk.contains, Disk.read?_lose] at hcontains
      split at hcontains
      · cases hcontains
      · exact tracked q hq hcontains

/-- A request without a directory stores in a new one, under the name that the upload asks for. -/
theorem store_unused {u : Upload} {d : Disk} (hroot : d.rootError = none)
    (hname : (Utf8.encode u.wantedName).length ≤ Disk.nameLimit) :
    ∃ f d', store u {} d = (.ok f, ⟨some d.next, [f.path]⟩, d') ∧
      f.path = ⟨d.next, u.wantedName⟩ := by
  obtain ⟨d₁, hcreate⟩ : ∃ d₁, d.createDirectory = .ok (d.next, d₁) := by
    rw [Disk.createDirectory, hroot]
    exact ⟨_, rfl⟩
  have hempty := Disk.files?_createDirectory hcreate
  have hplace : placeFor u d.next d₁ = ⟨d.next, u.wantedName⟩ := by
    rw [placeFor, hempty]
    rfl
  obtain ⟨d₂, hwrite⟩ : ∃ d₂, d₁.write ⟨d.next, u.wantedName⟩ u.data = .ok d₂ := by
    rw [Disk.write, hempty]
    exact ⟨_, if_neg (Nat.not_lt.2 hname)⟩
  refine ⟨⟨u.wantedName, u.contentType, placeFor u d.next d₁, u.data.length⟩, d₂, ?_, hplace⟩
  rw [store, ensureDirectory]
  dsimp only
  rw [hcreate]
  dsimp only
  rw [hplace, hwrite]
  rfl

end Scratch

/-! ### Histories -/

/-- What is done to the scratch files of a request. -/
inductive ScratchOp where
  | store (u : Upload)
  | cleanup
  /-- Someone else removes a file. -/
  | lose (p : FilePath)

/-- What a request is told of its scratch files. -/
inductive ScratchEvent where
  | stored (f : FormFile)
  | refused (e : DiskError)
  | cleaned (result : Except DiskError Unit)

/-- The files stored since the last time that the request cleaned up. -/
def ScratchEvent.current (es : List ScratchEvent) : List FilePath :=
  es.foldl (fun paths e => match e with
    | .stored f => paths ++ [f.path]
    | .refused _ => paths
    | .cleaned _ => []) []

/-- The scratch files of a request, the disk, and what the request was told. -/
structure ScratchHistory where
  scratch : Scratch := {}
  disk : Disk
  events : List ScratchEvent := []

namespace ScratchHistory

/-- One more thing is done. -/
def next (h : ScratchHistory) : ScratchOp → ScratchHistory
  | .store u =>
    let (result, scratch, disk) := h.scratch.store u h.disk
    let event := match result with
      | .ok f => .stored f
      | .error e => .refused e
    ⟨scratch, disk, h.events ++ [event]⟩
  | .cleanup =>
    let (result, scratch, disk) := h.scratch.cleanup h.disk
    ⟨scratch, disk, h.events ++ [.cleaned result]⟩
  | .lose p => { h with disk := h.disk.lose p }

theorem scratch_next_cleanup (h : ScratchHistory) : (h.next .cleanup).scratch = {} := rfl

/-- What comes of a request that begins on a disk. -/
def after (disk : Disk) (ops : List ScratchOp) : ScratchHistory := ops.foldl next { disk }

/-- What a request has made of its disk if it never failed to clean up: the directories are those
that there were, and its own if it has one, where all its files are that are left. -/
structure Tidy (d₀ : Disk) (h : ScratchHistory) : Prop where
  ids : h.disk.ids = d₀.ids ++ h.scratch.directory.toList
  own : ∀ id, h.scratch.directory = some id → id ∉ d₀.ids
  left : ∀ f, .stored f ∈ h.events →
    h.scratch.directory = some f.path.directory ∨ f.path.directory ∉ h.disk.ids

/-- What holds after every history. -/
structure Sound (d₀ : Disk) (h : ScratchHistory) : Prop where
  listed : h.scratch.files = ScratchEvent.current h.events
  tracks : h.scratch.Tracks h.disk
  old : ∀ f, .stored f ∈ h.events → f.path.directory < h.disk.next
  tidy : (∀ result, .cleaned result ∈ h.events → result = .ok ()) → h.Tidy d₀

variable {d₀ : Disk} {h : ScratchHistory}

theorem Sound.refused (hs : h.Sound d₀) (e : DiskError) :
    Sound d₀ { h with events := h.events ++ [.refused e] } := by
  have hmem {e' : ScratchEvent} (he' : ∀ e, e' ≠ .refused e) :
      e' ∈ h.events ++ [.refused e] ↔ e' ∈ h.events := by simp [he' e]
  refine ⟨?_, hs.tracks, fun f hf => hs.old f ((hmem (by simp)).1 hf), fun hall => ?_⟩
  · rw [ScratchEvent.current, List.foldl_append]
    exact hs.listed
  · obtain ⟨hids, hown, hleft⟩ := hs.tidy fun result hr => hall result ((hmem (by simp)).2 hr)
    exact ⟨hids, hown, fun f hf => hleft f ((hmem (by simp)).1 hf)⟩

theorem Sound.readies (hs : h.Sound d₀) {id : Nat} {d₁ : Disk}
    (hready : h.scratch.Readies h.disk id d₁) :
    Sound d₀ { h with scratch := { h.scratch with directory := some id }, disk := d₁ } := by
  have htracks := hs.tracks.readies hready
  cases hready with
  | there hdirectory =>
      rw [← hdirectory]
      exact hs
  | made hdirectory hcreate =>
      obtain ⟨rfl, hids, hnext⟩ := Disk.ids_createDirectory hcreate
      refine ⟨hs.listed, htracks, fun f hf => ?_, fun hall => ?_⟩
      · exact Nat.lt_of_lt_of_le (hs.old f hf) (hnext ▸ Nat.le_succ _)
      · have htidy := hs.tidy hall
        -- there was no directory of its own, so the new number is the only one that is added
        have hbefore : h.disk.ids = d₀.ids := by simpa [hdirectory] using htidy.ids
        refine ⟨by simp [hids, hbefore], ?_, fun f hf => .inr ?_⟩
        · rintro _ ⟨⟩ hmem
          exact Nat.lt_irrefl _ (Disk.lt_next_of_mem_ids (hbefore ▸ hmem))
        · have hgone : f.path.directory ∉ h.disk.ids := by
            simpa [hdirectory] using htidy.left f hf
          simpa [hids, hgone] using Nat.ne_of_lt (hs.old f hf)

theorem Sound.stored (hs : h.Sound d₀) {f : FormFile} {d₂ : Disk} {data : Bytes}
    (hdirectory : h.scratch.directory = some f.path.directory)
    (hwrite : h.disk.write f.path data = .ok d₂) :
    Sound d₀ ⟨⟨some f.path.directory, h.scratch.files ++ [f.path]⟩, d₂,
      h.events ++ [.stored f]⟩ := by
  obtain ⟨⟨directory, files⟩, d, events⟩ := h
  obtain rfl : directory = some f.path.directory := hdirectory
  have hmem {g : FormFile} : .stored g ∈ events ++ [.stored f] ↔ .stored g ∈ events ∨ g = f := by
    simp
  have htracks := hs.tracks.write rfl hwrite
  have halike := Disk.alike_write hwrite
  refine ⟨?_, htracks, fun g hg => ?_, fun hall => ?_⟩
  · rw [ScratchEvent.current, List.foldl_append]
    exact congrArg (· ++ [f.path]) hs.listed
  · rcases hmem.1 hg with hg | rfl
    · exact halike.next ▸ hs.old g hg
    · exact Disk.lt_next_of_mem_ids (htracks.mem_ids rfl)
  · obtain ⟨hids, hown, hleft⟩ := hs.tidy fun result hr => hall result (List.mem_append_left _ hr)
    refine ⟨halike.ids.trans hids, hown, fun g hg => ?_⟩
    rcases hmem.1 hg with hg | rfl
    · exact halike.ids ▸ hleft g hg
    · exact .inl rfl

theorem Sound.cleaned (hs : h.Sound d₀) : (h.next .cleanup).Sound d₀ := by
  have hmem (f : FormFile) {result : Except DiskError Unit} :
      .stored f ∈ h.events ++ [.cleaned result] ↔ .stored f ∈ h.events := by simp
  refine ⟨?_, .unused, fun f hf => ?_, fun hall => ?_⟩
  · rw [ScratchHistory.next, ScratchEvent.current, List.foldl_append]
    rfl
  · exact h.scratch.next_cleanup h.disk ▸ hs.old f ((hmem f).1 hf)
  · have hok := hall _ (List.mem_append_right _ (List.mem_singleton_self _))
    obtain ⟨hids, hown, hleft⟩ := hs.tidy fun result hr => hall result (List.mem_append_left _ hr)
    obtain ⟨hids', -⟩ := hs.tracks.of_cleanup_eq_ok hok
    have hgone (id : Nat) : id ∈ (h.next .cleanup).disk.ids ↔
        id ∈ h.disk.ids ∧ h.scratch.directory ≠ some id := by
      rw [show (h.next .cleanup).disk.ids = _ from hids', List.mem_filter, decide_eq_true_iff]
    refine ⟨?_, nofun, fun f hf => .inr fun hid => ?_⟩
    -- its own directory is none of those before, so taking it away leaves them all
    · have hothers : d₀.ids.filter (fun id => h.scratch.directory ≠ some id) = d₀.ids :=
        List.filter_eq_self.2 fun id hid => decide_eq_true fun heq => hown id heq hid
      rw [show (h.next .cleanup).disk.ids = _ from hids', hids, List.filter_append, hothers]
      cases hdirectory : h.scratch.directory with
      | none => rfl
      | some id => simp [ScratchHistory.next, Scratch.cleanup]
    · obtain ⟨hid, hdirectory⟩ := (hgone _).1 hid
      rcases hleft f ((hmem f).1 hf) with h | h
      · exact hdirectory h
      · exact h hid

theorem Sound.lost (hs : h.Sound d₀) (p : FilePath) : (h.next (.lose p)).Sound d₀ := by
  have halike := h.disk.alike_lose p
  refine ⟨hs.listed, hs.tracks.lose p, halike.next ▸ hs.old, fun hall => ?_⟩
  obtain ⟨hids, hown, hleft⟩ := hs.tidy hall
  exact ⟨halike.ids.trans hids, hown, halike.ids ▸ hleft⟩

/-- One more thing done keeps the files in order. -/
theorem Sound.next (hs : h.Sound d₀) (op : ScratchOp) : (h.next op).Sound d₀ := by
  cases op with
  | store u =>
      have hstores := h.scratch.stores_store u h.disk
      rw [ScratchHistory.next]
      revert hstores
      rcases h.scratch.store u h.disk with ⟨result, s', d'⟩
      rintro (_ | hready | ⟨hready, hwrite⟩)
      · exact hs.refused _
      · exact (hs.readies hready).refused _
      · exact (hs.readies hready).stored
          (f := ⟨u.wantedName, u.contentType, Scratch.placeFor u _ _, u.data.length⟩) rfl hwrite
  | cleanup => exact hs.cleaned
  | lose p => exact hs.lost p

theorem sound_after (d₀ : Disk) (ops : List ScratchOp) : (after d₀ ops).Sound d₀ := by
  induction ops using List.reverseRecOn with
  | nil =>
      refine ⟨rfl, .unused, fun f hf => absurd hf List.not_mem_nil, fun _ => ?_⟩
      exact ⟨(List.append_nil _).symm, nofun, fun f hf => absurd hf List.not_mem_nil⟩
  | append_singleton ops op ih =>
      rw [after, List.foldl_append]
      exact ih.next op

/-- The files that a request tracks are those that it has stored since it last cleaned up, in its
directory. Cleaning up forgets them and the directory, also if it fails, and may be repeated. It
fails only if one of the files is there and locked; otherwise they are gone with the directory, and
if that was so every time, then nothing is left of the request. It may go on to store files, in a
directory that there never was. Giving everything up does to the disk what cleaning up does. -/
theorem tracked_until_cleanup (d₀ : Disk) (ops : List ScratchOp) :
    let h := after d₀ ops
    let result := (h.scratch.cleanup h.disk).1
    let h' := h.next .cleanup
    (h.scratch.files = ScratchEvent.current h.events ∧
        ∀ p ∈ h.scratch.files, h.scratch.directory = some p.directory ∧ p.directory ∈ h.disk.ids) ∧
      h'.scratch = {} ∧
      h'.next .cleanup = { h' with events := h'.events ++ [.cleaned (.ok ())] } ∧
      (result = .ok () ↔ ∀ p ∈ h.scratch.files, h.disk.contains p = true → p ∉ h.disk.locked) ∧
      (result = .ok () →
        (∀ id, h.scratch.directory = some id → id ∉ h'.disk.ids) ∧
        (∀ p ∈ h.scratch.files, h'.disk.read? p = none) ∧
        ((∀ earlier, .cleaned earlier ∈ h.events → earlier = .ok ()) → h'.disk.ids = d₀.ids ∧
          ∀ f, .stored f ∈ h.events → h'.disk.read? f.path = none)) ∧
      (∀ u, h'.disk.rootError = none → (Utf8.encode u.wantedName).length ≤ Disk.nameLimit →
        ∃ f, (h'.next (.store u)).events = h'.events ++ [.stored f] ∧
          (h'.next (.store u)).scratch = ⟨some f.path.directory, [f.path]⟩ ∧
          u.StoredAs f (h'.next (.store u)).disk ∧ f.path.name = u.wantedName ∧
          f.path.directory ∉ h'.disk.ids ∧
          ∀ g, .stored g ∈ h.events → g.path.directory ≠ f.path.directory) ∧
      h.scratch.drop h.disk = h'.disk := by
  intro h result h'
  have hs : h.Sound d₀ := sound_after d₀ ops
  have hs' : h'.Sound d₀ := hs.next .cleanup
  refine ⟨⟨hs.listed, fun p hp => ?_⟩, rfl, rfl, hs.tracks.cleanup_eq_ok_iff, fun hok => ?_,
    fun u hroot hname => ?_, h.scratch.drop_eq h.disk⟩
  · have hdirectory := hs.tracks.directory_eq hp
    exact ⟨hdirectory, hs.tracks.mem_ids hdirectory⟩
  · obtain ⟨hids, hread⟩ := hs.tracks.of_cleanup_eq_ok hok
    refine ⟨fun id hid hmem => ?_, fun p hp => ?_, fun hall => ?_⟩
    · rw [show h'.disk.ids = _ from hids, List.mem_filter, decide_eq_true_iff] at hmem
      exact hmem.2 hid
    · rw [show h'.disk.read? p = _ from hread p, if_pos (hs.tracks.directory_eq hp)]
    · have htidy : h'.Tidy d₀ := by
        refine hs'.tidy fun earlier hearlier => ?_
        rcases List.mem_append.1 hearlier with hearlier | hlast
        · exact hall earlier hearlier
        · cases List.mem_singleton.1 hlast
          exact hok
      refine ⟨htidy.ids.trans (List.append_nil _), fun f hf => ?_⟩
      rcases htidy.left f (List.mem_append_left _ hf) with hnone | hgone
      · cases hnone
      · exact Disk.read?_eq_none hgone
  · obtain ⟨f, d', hstore, hpath⟩ := Scratch.store_unused hroot hname
    have hnext : h'.next (.store u) =
        ⟨⟨some h'.disk.next, [f.path]⟩, d', h'.events ++ [.stored f]⟩ := by
      rw [ScratchHistory.next, scratch_next_cleanup, hstore]
    obtain ⟨hstored, -⟩ := Scratch.store_eq_ok hstore
    rw [hnext]
    refine ⟨f, rfl, by rw [hpath], hstored, by rw [hpath], fun hmem => ?_, fun g hg heq => ?_⟩
    · rw [hpath] at hmem
      exact Nat.lt_irrefl _ (Disk.lt_next_of_mem_ids hmem)
    -- a directory that was given up may still be there, but its number is below the next
    · have hold := hs'.old g (List.mem_append_left _ hg)
      rw [heq, hpath] at hold
      exact Nat.lt_irrefl _ hold

/-- A file that was locked is forgotten by the cleanup that fails on it. The next cleanup finds
nothing to do and succeeds, and the file is still there with its directory. Behind that, a file
whose name is too long is not stored. -/
theorem left_by_failed_cleanup :
    let locked : FilePath := ⟨0, "a"⟩
    let u : Upload := ⟨"f", some "a", "text/plain", []⟩
    let long : Upload := ⟨"f", some (String.ofList (List.replicate 256 'x')), "text/plain", []⟩
    let h := after { locked := [locked] } [.store u, .cleanup]
    let h' := h.next .cleanup
    (after { locked := [locked] } [.store u]).scratch.files = [locked] ∧
      (h.scratch.cleanup h.disk).1 = .ok () ∧ h'.disk.contains locked = true ∧
      locked.directory ∈ h'.disk.ids ∧
      h'.disk.rootError = none ∧ (h'.scratch.store long h'.disk).1 = .error .nameTooLong := by
  intro locked u long h h'
  have hroot : h'.disk.rootError = none := by decide +kernel
  refine ⟨by decide +kernel, by decide +kernel, by decide +kernel, by decide +kernel, hroot, ?_⟩
  have hplain : FileName.IsPlain (String.ofList (List.replicate 256 'x')) := by
    intro c hc
    rw [String.toList_ofList] at hc
    rw [List.eq_of_mem_replicate hc]
    decide
  have hlength : (String.ofList (List.replicate 256 'x')).length = 256 := by
    rw [String.length_ofList, List.length_replicate]
  have hlong : Disk.nameLimit < (Utf8.encode long.wantedName).length := by
    rw [Upload.wantedName_of_isPlain rfl hplain (by omega), hplain.length_encode, hlength]
    decide
  obtain ⟨s', d', hstore⟩ := Scratch.store_of_long hroot hlong
  rw [scratch_next_cleanup h, hstore]

end ScratchHistory

end ServiceDispatch
