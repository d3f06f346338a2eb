import ServiceDispatch.Proofs.Form.Faults
import ServiceDispatch.Proofs.Form.Limits

/-!
# The fields of a form

A multipart body that is read to the end becomes a form if its texts are UTF-8 and its uploads can
be stored, one after the other (`Scratch.storeAll`). The values of a field are then those of the
parts with its name, in order: the texts are the data of those that are no uploads, and the content
type is that of the first.
-/

namespace ServiceDispatch

namespace Scratch

/-- Stores uploads in order, up to the first failure. -/
def storeAll : List Upload → Scratch → Disk → Except DiskError (List FormFile) × Scratch × Disk
  | [], s, d => (.ok [], s, d)
  | u :: us, s, d => match s.store u d with
    | (.error e, s, d) => (.error e, s, d)
    | (.ok f, s, d) => match storeAll us s d with
      | (.error e, s, d) => (.error e, s, d)
      | (.ok fs, s, d) => (.ok (f :: fs), s, d)

theorem storeAll_cons_eq_ok {u : Upload} {us : List Upload} {s s' : Scratch} {d d' : Disk}
    {files : List FormFile} (h : storeAll (u :: us) s d = (.ok files, s', d')) :
    ∃ f fs s₁ d₁, s.store u d = (.ok f, s₁, d₁) ∧ storeAll us s₁ d₁ = (.ok fs, s', d') ∧
      files = f :: fs := by
  rw [storeAll] at h
  split at h
  · cases h
  · next f s₁ d₁ hstore =>
    split at h
    · cases h
    · next fs s₂ d₂ hrest =>
      cases h
      exact ⟨f, fs, s₁, d₁, hstore, hrest, rfl⟩

end Scratch

namespace FormData

theorem partValue_of_text {p : Part} {text : String} (hfield : p.isFile = false)
    (htext : Utf8.encode text = p.data) (s : Scratch) (d : Disk) :
    partValue p s d = (.ok (.text text), s, d) := by
  rw [partValue, if_neg (Bool.eq_false_iff.1 hfield), Utf8.decode?_eq_some_iff.2 htext]

theorem partValue_of_store {p : Part} {f : FormFile} {s s' : Scratch} {d d' : Disk}
    (hfile : p.isFile = true) (hstore : s.store p.upload d = (.ok f, s', d')) :
    partValue p s d = (.ok (.file f), s', d') := by
  rw [partValue, if_pos hfile, hstore]

/-- Parts are collected if their texts are UTF-8 and their uploads can be stored. -/
theorem collect_of_storeAll {parts : List Part} {f : FormData} {s s' : Scratch} {d d' : Disk}
    {files : List FormFile}
    (htexts : ∀ p ∈ parts, p.isFile = false → ∃ text, Utf8.encode text = p.data)
    (hstored : Scratch.storeAll (Part.uploads parts) s d = (.ok files, s', d')) :
    ∃ form, collect f s d (parts.map .ok) = (.ok form, s', d') := by
  induction parts generalizing f s d files with
  | nil =>
      cases hstored
      exact ⟨f, rfl⟩
  | cons p parts ih =>
      obtain ⟨htext, htexts⟩ := List.forall_mem_cons.1 htexts
      rw [List.map_cons, collect]
      cases hfile : p.isFile with
      | true =>
          have huploads : Part.uploads (p :: parts) = p.upload :: Part.uploads parts := by
            rw [Part.uploads, List.filter_cons_of_pos hfile, List.map_cons, Part.uploads]
          rw [huploads] at hstored
          obtain ⟨g, gs, s₁, d₁, hstore, hrest, -⟩ := Scratch.storeAll_cons_eq_ok hstored
          rw [partValue_of_store hfile hstore]
          exact ih htexts hrest
      | false =>
          have huploads : Part.uploads (p :: parts) = Part.uploads parts := by
            rw [Part.uploads, List.filter_cons_of_neg (Bool.eq_false_iff.1 hfile), Part.uploads]
          rw [huploads] at hstored
          obtain ⟨text, htext⟩ := htext hfile
          rw [partValue_of_text hfile htext]
          exact ih htexts hstored

/-! ### What is found under a name -/

variable {taken : List (Part × FormValue)}

/-- The files under a name are those of the uploads with the name. -/
theorem map_fst_uploadsOf_filter {d : Disk} (h : ∀ t ∈ taken, t.2.Represents d t.1) (key : String) :
    ((uploadsOf taken).filter fun u => u.1.name = key).map Prod.fst =
      (taken.map Prod.fst).filter fun p => p.name = key ∧ p.isFile = true := by
  have hmap : ((uploadsOf taken).filter fun u => u.1.name = key).map Prod.fst =
      ((uploadsOf taken).map Prod.fst).filter fun p => p.name = key := by
    rw [List.filter_map]
    rfl
  rw [hmap, map_fst_uploadsOf h, List.filter_filter]
  simp only [Bool.decide_and, Bool.decide_eq_true]

/-- The content type that is noted for a name is that of the first part with the name. -/
theorem contentTypes_takeOver (key : String) (f : FormData) :
    Table.get? key (f.takeOver taken).contentTypes = (Table.get? key f.contentTypes <|>
      ((taken.map Prod.fst).filter fun p => p.name = key).head?.map Part.contentType) := by
  induction taken generalizing f with
  | nil => simp [takeOver]
  | cons t taken ih =>
      have hstep : f.takeOver (t :: taken) =
          ((f.noteContentType t.1).push t.1.name t.2).takeOver taken := rfl
      rw [hstep, ih, push, noteContentType, Table.alter, Table.get?_insert]
      by_cases h : t.1.name = key
      · subst h
        cases Table.get? t.1.name f.contentTypes <;> simp
      · simp [h]

/-- The texts under a name are the data of the parts with the name that are no uploads. -/
theorem texts_takeOver {d : Disk} (h : ∀ t ∈ taken, t.2.Represents d t.1) (key : String) :
    ((takeOver {} taken).params.texts key).map Utf8.encode =
      ((taken.map Prod.fst).filter fun p => p.name = key ∧ p.isFile = false).map Part.data := by
  have hnil : FormParams.get key [] = [] := rfl
  rw [FormParams.texts, params_takeOver, FormParams.get_foldl_push, hnil, List.nil_append]
  clear hnil
  induction taken with
  | nil => rfl
  | cons t taken ih =>
      obtain ⟨p, v⟩ := t
      obtain ⟨hv, htaken⟩ := List.forall_mem_cons.1 h
      have hrest := ih htaken
      by_cases hp : p.name = key
      · cases hv with
        | text field data =>
            simpa [List.filterMap_cons, FormValue.text?, hp, field, data] using hrest
        | file isFile stored =>
            simpa [List.filterMap_cons, FormValue.text?, hp, isFile] using hrest
      · simpa [hp] using hrest

end FormData

/-! ### Forms that can be read -/

/-- The body is a multipart form of the parts within the limits, and its texts are UTF-8. -/
structure Request.SendsForm (r : Request) (limits : FormLimits) (parts : List Part) : Prop where
  multipart : r.mediaType? = some MediaType.multipartForm
  bytes : ∀ limit, limits.maxBytes = some limit → r.body.length ≤ limit
  parsed : (MultipartForm.ofRequest r limits.maxParts).bind MultipartForm.parse = .ok parts
  texts : ∀ p ∈ parts, p.isFile = false → ∃ text, Utf8.encode text = p.data

/-- What is known of the upload of a part. Its file name is the client's, else the field's, else a
word. -/
def Part.fileInfo (p : Part) : FileInfo where
  fileName := ((p.fileName.bind FileName.sanitize?) <|> FileName.sanitize? p.name).getD "upload"
  contentType := p.contentType
  size := p.data.length

theorem Upload.StoredAs.info_eq {p : Part} {f : FormFile} {d : Disk} (h : p.upload.StoredAs f d) :
    f.info = p.fileInfo := by
  have hname : p.upload.wantedName = p.fileInfo.fileName := by
    rw [Upload.wantedName, Part.fileInfo, Part.upload]
    dsimp only
    cases p.fileName.bind FileName.sanitize? <;> rfl
  rw [FormFile.info, h.fileName, h.contentType, h.size, hname]
  rfl

namespace FormData

/-- The form that such a body is read as. -/
theorem extract_of_sendsForm {r : Request} {limits : FormLimits} {parts : List Part}
    {files : List FormFile} {s : Scratch} {d d' : Disk} (h : r.SendsForm limits parts)
    (hstored : Scratch.storeAll (Part.uploads parts) {} d = (.ok files, s, d')) :
    ∃ taken : List (Part × FormValue), taken.map Prod.fst = parts ∧
      extract r limits {} d = (.ok (takeOver {} taken), s, d') ∧
      ∀ t ∈ taken, t.2.Represents d' t.1 := by
  obtain ⟨form, hform, hparse⟩ := bind_eq_ok_iff.1 h.parsed
  obtain ⟨data, hcollect⟩ := collect_of_storeAll (f := {}) h.texts hstored
  obtain ⟨taken, hresults, rfl, htaken, -⟩ := collect_eq_ok hcollect
  refine ⟨taken, ?_, ?_, htaken⟩
  · have hparts : parts.map (Except.ok (ε := FormError)) = (taken.map Prod.fst).map .ok := by
      rw [hresults, List.map_map]
      rfl
    exact (List.map_injective_iff.2 (fun _ _ => Except.ok.inj) hparts).symm
  · rw [extract_of_multipart h.multipart, excess?_eq_none_iff.2 h.bytes, hform]
    dsimp only
    rw [MultipartForm.parse_eq_ok_iff_results.1 hparse, hcollect]

end FormData

end ServiceDispatch
