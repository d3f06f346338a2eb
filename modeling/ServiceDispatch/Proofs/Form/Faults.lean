import ServiceDispatch.Proofs.Data.Table
import ServiceDispatch.Proofs.Form.Extract
import ServiceDispatch.Proofs.Form.FileName
import ServiceDispatch.Proofs.Form.WrittenForm

/-!
# Faults of forms

A form that cannot be read is the client's fault unless the disk fails. Where the root of the
scratch area can be made, only the length of a name can keep an upload from being stored. The name
is the client's, too, with a number before it if it is taken. A request has one directory, in which
there are no other files than its own, so the numbers stay below the number of its uploads.
-/

namespace ServiceDispatch

/-! ### Faults of the body -/

/-- If it fails, the request is at fault. -/
abbrev FormError.OnlyClient {α : Type} (x : Except FormError α) : Prop :=
  FailsWith (fun e => e.isClientError = true) x

namespace Multipart

open FormError

theorem onlyClient_afterOpening (boundary body : Bytes) :
    OnlyClient (afterOpening boundary body) := by
  rw [afterOpening]
  split
  · exact failsWith_ok _
  · exact failsWith_error rfl

theorem onlyClient_afterBoundaryLine (rest : Bytes) : OnlyClient (afterBoundaryLine rest) := by
  rw [afterBoundaryLine]
  split
  · exact failsWith_error rfl
  · split
    · exact failsWith_ok _
    · exact failsWith_error rfl

theorem onlyClient_splitHeaders (rest : Bytes) : OnlyClient (splitHeaders rest) := by
  rw [splitHeaders]
  split
  · exact failsWith_ok _
  · split
    · exact failsWith_ok _
    · exact failsWith_error rfl

theorem onlyClient_headerLine (line : List Char) : OnlyClient (headerLine line) := by
  rw [headerLine]
  split
  · exact failsWith_ok _
  · exact failsWith_error rfl

theorem onlyClient_headers (block : Bytes) : OnlyClient (headers block) := by
  rw [headers]
  split
  · exact failsWith_error rfl
  · exact failsWith_mapM fun line _ => onlyClient_headerLine line

theorem onlyClient_splitData (boundary content : Bytes) :
    OnlyClient (splitData boundary content) := by
  rw [splitData]
  split
  · exact failsWith_ok _
  · exact failsWith_error rfl

theorem onlyClient_part (hs : List (String × String)) (data : Bytes) :
    OnlyClient (part hs data) := by
  rw [part]
  split
  · exact failsWith_error rfl
  · exact failsWith_ok _

theorem onlyClient_nextPart (boundary : Bytes) (limit parsed : Nat) (rest : Bytes) :
    OnlyClient (nextPart boundary limit parsed rest) := by
  rw [nextPart]
  split
  · exact failsWith_ok none
  · refine (onlyClient_afterBoundaryLine rest).bind fun more => ?_
    split
    · exact failsWith_error rfl
    · refine (onlyClient_splitHeaders more).bind fun split => ?_
      refine (onlyClient_headers split.1).bind fun hs => ?_
      refine (onlyClient_splitData boundary split.2).bind fun cut => ?_
      exact (onlyClient_part hs cut.1).bind fun p => failsWith_ok _

end Multipart

theorem PartReader.isClientError_of_mem_after {boundary rest : Bytes} {limit parsed : Nat}
    {e : FormError} (h : .error e ∈ results ⟨boundary, limit, .after rest, parsed⟩) :
    e.isClientError = true := by
  -- each part leaves less of the body to be read
  induction hn : rest.length using Nat.strong_induction_on generalizing rest parsed with
  | _ n ih =>
    rw [results_after] at h
    split at h
    · next p rest' hnext =>
      have hlt := hn ▸ length_of_nextPart hnext
      rcases List.mem_cons.1 h with heq | h
      · cases heq
      · exact ih _ hlt h rfl
    · cases h
    · next heq =>
      cases List.mem_singleton.1 h
      exact Multipart.onlyClient_nextPart _ _ _ _ _ heq

/-- A mistake in a multipart body is the client's. -/
theorem MultipartForm.isClientError_of_mem {f : MultipartForm} {e : FormError}
    (h : .error e ∈ f.results) : e.isClientError = true := by
  rw [results, reader, PartReader.results_start] at h
  split at h
  · exact PartReader.isClientError_of_mem_after h
  · next heq =>
    cases List.mem_singleton.1 h
    exact Multipart.onlyClient_afterOpening _ _ _ heq

theorem MultipartForm.onlyClient_boundaryOf (contentType : String) :
    FormError.OnlyClient (boundaryOf contentType) := by
  intro e he
  rw [boundaryOf_error e he]
  rfl

theorem MultipartForm.onlyClient_ofRequest (r : Request) (limit : Nat) :
    FormError.OnlyClient (ofRequest r limit) := by
  rw [ofRequest]
  split
  · exact failsWith_error rfl
  · exact (onlyClient_boundaryOf _).map _

/-! ### Plain names -/

namespace FileName

/-- A name of visible ASCII characters with no separator among them. -/
def IsPlain (name : String) : Prop :=
  ∀ c ∈ name.toList, 0x21 ≤ c.toNat ∧ c.toNat < 0x7f ∧ isSeparator c = false

theorem IsPlain.not_blank {name : String} (h : IsPlain name) :
    ∀ c ∈ name.toList, Text.isBlank c = false := by
  intro c hc
  obtain ⟨hlow, hhigh, -⟩ := h c hc
  exact Text.isBlank_eq_false_of_le hlow hhigh.le

theorem IsPlain.isHeaderText {name : String} (h : IsPlain name) : IsHeaderText name := by
  constructor
  · intro c hc
    have hlow := (h c hc).1
    constructor
    · rintro rfl
      exact absurd hlow (by decide)
    · rintro rfl
      exact absurd hlow (by decide)
  · rw [Text.trim, (Text.Trimmed.of_forall h.not_blank).trimChars_eq, String.ofList_toList]

theorem IsPlain.length_encode {name : String} (h : IsPlain name) :
    (Utf8.encode name).length = name.length := by
  have hone : ∀ c ∈ name.toList, (String.utf8EncodeChar c).length = 1 := by
    intro c hc
    rw [Utf8.encodeChar_one (h c hc).2.1.le]
    rfl
  rw [Utf8.encode, List.length_flatMap, List.map_congr_left hone, ← String.length_toList]
  simp

theorem IsPlain.sanitize?_eq {name : String} (h : IsPlain name) (hlength : 2 < name.length) :
    sanitize? name = some name := by
  have hplain : ∀ c ∈ name.toList, c ≠ '/' ∧ c ≠ '\\' ∧ Text.isControl c = false := by
    intro c hc
    obtain ⟨hlow, hhigh, hseparator⟩ := h c hc
    obtain ⟨hslash, hbackslash⟩ := isSeparator_eq_false_iff.1 hseparator
    refine ⟨hslash, hbackslash, ?_⟩
    simp [Text.isControl]
    omega
  have hreserved : isReserved name.toList = false := by
    rw [← String.length_toList] at hlength
    match hname : name.toList, hlength with
    | _ :: _ :: _ :: _, _ => simp [isReserved]
  exact sanitize?_eq_self_iff.2 ⟨isProper_iff.2 ⟨hreserved, hplain⟩, .of_forall h.not_blank⟩

end FileName

theorem Upload.wantedName_of_isPlain {u : Upload} {name : String} (hname : u.fileName = some name)
    (hplain : FileName.IsPlain name) (hlength : 2 < name.length) : u.wantedName = name := by
  rw [Upload.wantedName, hname, Option.bind_some, hplain.sanitize?_eq hlength]

/-! ### Names too long for the disk -/

/-- The parts that can be read from a multipart body before the first mistake in it. -/
def Request.readableParts (r : Request) (limit : Nat) : List Part :=
  match MultipartForm.ofRequest r limit with
  | .ok form => form.results.filterMap Except.toOption
  | .error _ => []

/-- Under some number below the bound the name that an upload asks for is too long for a file. -/
def Upload.Overlong (u : Upload) (bound : Nat) : Prop :=
  ∃ k < bound, Disk.nameLimit < (Utf8.encode (Scratch.numbered u.wantedName k)).length

theorem Upload.Overlong.mono {u : Upload} {m n : Nat} (h : u.Overlong m) (hle : m ≤ n) :
    u.Overlong n := by
  obtain ⟨k, hk, hlong⟩ := h
  exact ⟨k, Nat.lt_of_lt_of_le hk hle, hlong⟩

/-- The uploads among parts. -/
def Part.uploads (parts : List Part) : List Upload := (parts.filter Part.isFile).map Part.upload

namespace Scratch

/-- The root can be made, and the request's directory, if there is one, holds only so many files. -/
structure Fits (s : Scratch) (d : Disk) (count : Nat) : Prop where
  root : d.rootError = none
  directory : ∀ id, s.directory = some id → ∃ files, d.files? id = some files ∧
    files.length ≤ count

variable {s s' : Scratch} {d d' : Disk} {count : Nat}

theorem fits_empty (h : d.rootError = none) : ({} : Scratch).Fits d 0 := ⟨h, by rintro id ⟨⟩⟩

theorem Fits.ensureDirectory (h : s.Fits d count) : ∃ id s' d',
    s.ensureDirectory d = .ok (id, s', d') ∧ s'.Fits d' count ∧ s'.directory = some id := by
  rw [Scratch.ensureDirectory]
  split
  · next id hid => exact ⟨id, s, d, rfl, h, hid⟩
  · obtain ⟨id, d', hcreate, hroot⟩ : ∃ id d', d.createDirectory = .ok (id, d') ∧
        d'.rootError = none := by
      rw [Disk.createDirectory, h.root]
      exact ⟨_, _, rfl, rfl⟩
    rw [hcreate]
    refine ⟨id, _, d', rfl, ⟨hroot, fun id' hid => ⟨[], ?_, Nat.zero_le _⟩⟩, rfl⟩
    obtain rfl := Option.some.inj hid
    exact Disk.files?_createDirectory hcreate

theorem Fits.write (h : s.Fits d count) {id : Nat} (hid : s.directory = some id) (u : Upload) :
    (∃ d', d.write (placeFor u id d) u.data = .ok d' ∧ s.Fits d' (count + 1)) ∨
      d.write (placeFor u id d) u.data = .error .nameTooLong ∧ u.Overlong (count + 1) := by
  obtain ⟨files, hfiles, hlength⟩ := h.directory id hid
  have hdirectory : (placeFor u id d).directory = id := rfl
  rw [Disk.write, hdirectory, hfiles]
  dsimp only
  split
  · next hlong =>
    obtain ⟨k, hk, hname⟩ := freeName_eq_numbered (fun name => d.contains ⟨id, name⟩)
      u.wantedName ((d.files? id).getD []).length 0
    have hplace : (placeFor u id d).name = numbered u.wantedName k := hname
    rw [hfiles, Option.getD_some, Nat.zero_add] at hk
    exact .inr ⟨rfl, k, Nat.lt_succ_of_le (hk.trans hlength), hplace ▸ hlong⟩
  · refine .inl ⟨_, rfl, h.root, fun id' hid' => ?_⟩
    obtain rfl := Option.some.inj (hid'.symm.trans hid)
    refine ⟨Table.insert (placeFor u id' d).name u.data files, ?_,
      (Table.length_insert_le _ _ files).trans (Nat.succ_le_succ hlength)⟩
    rw [Disk.files?_setFiles, if_pos rfl, hfiles]
    rfl

/-- An upload is stored unless its name is too long. -/
theorem Fits.store (h : s.Fits d count) (u : Upload) :
    (∃ f s' d', s.store u d = (.ok f, s', d') ∧ s'.Fits d' (count + 1)) ∨
      ∃ s' d', s.store u d = (.error .nameTooLong, s', d') ∧ u.Overlong (count + 1) := by
  obtain ⟨id, s', d', hensure, hfits, hid⟩ := h.ensureDirectory
  rw [Scratch.store, hensure]
  rcases hfits.write hid u with ⟨d'', hwrite, hfits'⟩ | ⟨hwrite, hlong⟩
  · simp only [hwrite]
    exact .inl ⟨_, _, _, rfl, hfits'.root, hfits'.directory⟩
  · simp only [hwrite]
    exact .inr ⟨_, _, rfl, hlong⟩

theorem store_of_long {u : Upload} (hroot : d.rootError = none)
    (hlong : Disk.nameLimit < (Utf8.encode u.wantedName).length) :
    ∃ s' d', ({} : Scratch).store u d = (.error .nameTooLong, s', d') := by
  obtain ⟨id, s', d', hensure, hfits, hid⟩ := (fits_empty hroot).ensureDirectory
  obtain ⟨files, hfiles, hlength⟩ := hfits.directory id hid
  -- no file is there yet, so none has the name that is asked for
  have hplace : placeFor u id d' = ⟨id, u.wantedName⟩ := by
    rw [placeFor, hfiles, Option.getD_some, List.eq_nil_of_length_eq_zero (Nat.le_zero.1 hlength)]
    rfl
  have hwrite : d'.write (placeFor u id d') u.data = .error .nameTooLong := by
    rw [hplace, Disk.write]
    dsimp only
    rw [hfiles]
    exact if_pos hlong
  rw [Scratch.store, hensure]
  dsimp only
  rw [hwrite]
  exact ⟨s', d', rfl⟩

end Scratch

namespace FormData

theorem partValue_cases {p : Part} {s : Scratch} {d : Disk} {count : Nat} (h : s.Fits d count) :
    (∃ v s' d', partValue p s d = (.ok v, s', d') ∧
      s'.Fits d' (count + (Part.uploads [p]).length)) ∨
    (∃ e s' d', partValue p s d = (.error e, s', d') ∧ e.isClientError = true) ∨
    ∃ s' d', partValue p s d = (.error (.disk .nameTooLong), s', d') ∧
      ∃ u ∈ Part.uploads [p], u.Overlong (count + 1) := by
  rw [partValue]
  split
  · next hfile =>
    have huploads : Part.uploads [p] = [p.upload] := by simp [Part.uploads, hfile]
    rw [huploads]
    rcases h.store p.upload with ⟨f, s', d', hstore, hfits⟩ | ⟨s', d', hstore, hlong⟩
    · rw [hstore]
      exact .inl ⟨_, _, _, rfl, hfits⟩
    · rw [hstore]
      exact .inr (.inr ⟨_, _, rfl, _, List.mem_cons_self, hlong⟩)
  · next hfield =>
    have huploads : Part.uploads [p] = [] := by simp [Part.uploads, hfield]
    rw [huploads]
    split
    · exact .inl ⟨_, _, _, rfl, h⟩
    · exact .inr (.inl ⟨_, _, _, rfl, rfl⟩)

/-- Parts are taken over unless there is a mistake or a name that is too long among them. -/
theorem collect_error {results : List (Except FormError Part)}
    (hresults : ∀ e, .error e ∈ results → e.isClientError = true) {f : FormData} {s s' : Scratch}
    {d d' : Disk} {count : Nat} (hfits : s.Fits d count) {e : FormError}
    (h : collect f s d results = (.error e, s', d')) :
    e.isClientError = true ∨ e = .disk .nameTooLong ∧
      ∃ u ∈ Part.uploads (results.filterMap Except.toOption),
        u.Overlong (count + (Part.uploads (results.filterMap Except.toOption)).length) := by
  induction results generalizing f s d count with
  | nil => cases h
  | cons r results ih =>
      cases r with
      | error e' =>
          cases h
          exact .inl (hresults _ List.mem_cons_self)
      | ok p =>
          have hcons : Part.uploads ((.ok p :: results).filterMap Except.toOption) =
              Part.uploads [p] ++ Part.uploads (results.filterMap Except.toOption) := by
            rw [Part.uploads, Part.uploads, Part.uploads, ← List.map_append, ← List.filter_append]
            rfl
          rw [hcons, List.length_append, ← Nat.add_assoc]
          rw [collect] at h
          rcases partValue_cases (p := p) hfits with ⟨v, s'', d'', hvalue, hfits'⟩ |
            ⟨e', s'', d'', hvalue, hclient⟩ | ⟨s'', d'', hvalue, u, hu, hlong⟩
          · rw [hvalue] at h
            rcases ih (fun e he => hresults e (List.mem_cons_of_mem _ he)) hfits' h with
              hclient | ⟨rfl, u, hu, hlong⟩
            · exact .inl hclient
            · exact .inr ⟨rfl, u, List.mem_append_right _ hu, hlong⟩
          · rw [hvalue] at h
            cases h
            exact .inl hclient
          · rw [hvalue] at h
            cases h
            refine .inr ⟨rfl, u, List.mem_append_left _ hu, hlong.mono ?_⟩
            have hpos := List.length_pos_of_mem hu
            omega

theorem readableParts_of_boundaryOf {r : Request} {limit : Nat} {contentType boundary : String}
    (hct : r.contentType? = some contentType)
    (htype : MediaType.essence contentType = MediaType.multipartForm)
    (hboundary : MultipartForm.boundaryOf contentType = .ok boundary) :
    r.readableParts limit =
      (MultipartForm.results ⟨boundary, limit, r.body⟩).filterMap Except.toOption := by
  rw [Request.readableParts, MultipartForm.ofRequest_of_multipart hct htype, hboundary]
  rfl

/-- A first upload whose name is too long is refused. -/
theorem collect_of_long {p : Part} {rest : List (Except FormError Part)} {f : FormData} {d : Disk}
    (hroot : d.rootError = none) (hfile : p.isFile = true)
    (hlong : Disk.nameLimit < (Utf8.encode p.upload.wantedName).length) :
    ∃ s' d', collect f {} d (.ok p :: rest) = (.error (.disk .nameTooLong), s', d') := by
  obtain ⟨s', d', hstore⟩ := Scratch.store_of_long hroot hlong
  rw [collect, partValue, if_pos hfile, hstore]
  exact ⟨s', d', rfl⟩

/-- A form is read unless the request is at fault or asks for a name that is too long. -/
theorem extract_error {r : Request} {limits : FormLimits} {d d' : Disk} {s' : Scratch}
    {e : FormError} (hroot : d.rootError = none)
    (h : extract r limits {} d = (.error e, s', d')) :
    e.isClientError = true ∨ e = .disk .nameTooLong ∧
      ∃ u ∈ Part.uploads (r.readableParts limits.maxParts),
        u.Overlong (Part.uploads (r.readableParts limits.maxParts)).length := by
  rw [extract] at h
  split at h
  · cases h
  · next contentType hct =>
    dsimp only at h
    split at h
    · cases h
    · next hform =>
      split at h
      · next hexcess =>
        cases h
        rw [excess?] at hexcess
        split at hexcess
        · split at hexcess
          · cases hexcess
            exact .inl rfl
          · cases hexcess
        · cases hexcess
      · split at h
        · cases h
        · next hurl =>
          split at h
          · next hboundary =>
            cases h
            exact .inl (MultipartForm.onlyClient_boundaryOf _ _ hboundary)
          · next boundary hboundary =>
            have htype : MediaType.essence contentType = MediaType.multipartForm := by
              by_contra hne
              exact hform ⟨hne, hurl⟩
            rw [readableParts_of_boundaryOf hct htype hboundary]
            have hcollect := collect_error (fun e => MultipartForm.isClientError_of_mem)
              (Scratch.fits_empty hroot) h
            rwa [Nat.zero_add] at hcollect

end FormData

end ServiceDispatch
