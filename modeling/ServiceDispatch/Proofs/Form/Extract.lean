import ServiceDispatch.Form.Extract
import ServiceDispatch.Proofs.Data.Except
import ServiceDispatch.Proofs.Data.Table
import ServiceDispatch.Proofs.Form.Scratch
import ServiceDispatch.Proofs.Text.Utf8

/-!
# What the form of a request holds

Reading a form takes the parts of the body over one by one. `takeOver` is that without the disk:
it adds a list of parts, each with the value that stands for it, to a form. A form that was read
is `takeOver` of all parts of the body, and the values that stand for uploads are files that hold
the data of these very parts, still after the last of them was stored.

`IsFormOf` states it for the parameters of the form. The files of each field correspond one by
one, in order, to the file parts of the body that have the name of the field.
-/

namespace ServiceDispatch

namespace FormParams

/-! ### Form parameters -/

/-- A file among the values of some field. -/
def Holds (f : FormFile) (p : FormParams) : Prop := ∃ e ∈ p, FormValue.file f ∈ e.2

theorem get_push (name key : String) (v : FormValue) (p : FormParams) :
    (p.push key v).get name = if key = name then p.get name ++ [v] else p.get name := by
  rw [get, push, Table.alter, Table.get?_insert]
  split
  · next h =>
    subst h
    rfl
  · rfl

theorem mem_files_iff {p : FormParams} {name : String} {f : FormFile} :
    f ∈ p.files name ↔ FormValue.file f ∈ p.get name := by
  rw [files, List.mem_filterMap]
  constructor
  · rintro ⟨v, hv, hf⟩
    cases v with
    | text s => cases hf
    | file g =>
        cases hf
        exact hv
  · intro h
    exact ⟨.file f, h, rfl⟩

theorem holds_of_mem_files {p : FormParams} {name : String} {f : FormFile}
    (h : f ∈ p.files name) : Holds f p := by
  rw [mem_files_iff, get] at h
  cases hget : Table.get? name p with
  | none =>
      rw [hget] at h
      cases h
  | some vs =>
      rw [hget] at h
      exact ⟨(name, vs), Table.mem_of_get? hget, h⟩

/-- A file that is held is a file of some field. -/
theorem Holds.exists_mem_files {p : FormParams} (h : Table.Ordered p) {f : FormFile}
    (hf : Holds f p) : ∃ name, f ∈ p.files name := by
  obtain ⟨e, he, hv⟩ := hf
  refine ⟨e.1, mem_files_iff.2 ?_⟩
  rw [get, Table.get?_of_mem h he]
  exact hv

theorem get_foldl_push (name : String) (vs : List (String × FormValue)) (p : FormParams) :
    (vs.foldl (fun p v => push v.1 v.2 p) p).get name =
      p.get name ++ (vs.filter fun v => v.1 = name).map Prod.snd := by
  induction vs generalizing p with
  | nil => simp
  | cons v vs ih =>
      rw [List.foldl_cons, ih, get_push]
      by_cases h : v.1 = name
      · simp [h]
      · simp [h]

theorem ordered_foldl_push (vs : List (String × FormValue)) {p : FormParams}
    (h : Table.Ordered p) : Table.Ordered (vs.foldl (fun p v => push v.1 v.2 p) p) :=
  Table.ordered_foldl_alter Prod.fst (fun v stored => stored.getD [] ++ [v.2]) vs h

theorem ofUrlEncoded_eq (body : Bytes) :
    ofUrlEncoded body = ((UrlEncoded.parse body).map fun e => (e.1, FormValue.text e.2)).foldl
      (fun p v => push v.1 v.2 p) [] := by
  rw [ofUrlEncoded, ofPairs, List.foldl_map]

theorem ordered_ofUrlEncoded (body : Bytes) : Table.Ordered (ofUrlEncoded body) := by
  rw [ofUrlEncoded_eq]
  exact ordered_foldl_push _ Table.ordered_nil

theorem get_ofUrlEncoded (name : String) (body : Bytes) :
    get name (ofUrlEncoded body) =
      (((UrlEncoded.parse body).filter fun e => e.1 = name).map Prod.snd).map .text := by
  rw [ofUrlEncoded_eq, get_foldl_push, List.filter_map, List.map_map, List.map_map]
  rfl

theorem texts_ofUrlEncoded (name : String) (body : Bytes) :
    texts name (ofUrlEncoded body) =
      ((UrlEncoded.parse body).filter fun e => e.1 = name).map Prod.snd := by
  rw [texts, get_ofUrlEncoded, List.filterMap_map]
  exact List.filterMap_some

/-- The parameters of a url-encoded body hold no file. -/
theorem not_holds_ofUrlEncoded (body : Bytes) (f : FormFile) : ¬ Holds f (ofUrlEncoded body) := by
  intro h
  obtain ⟨name, hname⟩ := h.exists_mem_files (ordered_ofUrlEncoded body)
  rw [ofUrlEncoded_eq, mem_files_iff, get_foldl_push, List.mem_append, List.mem_map] at hname
  rcases hname with hname | ⟨v, hv, hf⟩
  · cases hname
  · obtain ⟨e, -, rfl⟩ := List.mem_map.1 (List.mem_filter.1 hv).1
    cases hf

end FormParams

/-! ### Taking parts over -/

/-- The value stands for the part: the text of a field, or the file of an upload. -/
inductive FormValue.Represents (d : Disk) (p : Part) : FormValue → Prop where
  | text {s : String} (field : p.isFile = false) (data : Utf8.encode s = p.data) :
      Represents d p (.text s)
  | file {f : FormFile} (isFile : p.isFile = true) (stored : p.upload.StoredAs f d) :
      Represents d p (.file f)

theorem FormValue.Represents.keeps {d d' : Disk} {p : Part} {v : FormValue}
    (h : v.Represents d p) (hk : d.Keeps d') : v.Represents d' p := by
  cases h with
  | text field data => exact .text field data
  | file isFile stored => exact .file isFile (stored.keeps hk)

namespace FormData

@[simp] theorem file?_text (s : String) : (FormValue.text s).file? = none := rfl

@[simp] theorem file?_file (f : FormFile) : (FormValue.file f).file? = some f := rfl

/-- The form with further parts, each with the value that stands for it. -/
def takeOver (f : FormData) (taken : List (Part × FormValue)) : FormData :=
  taken.foldl (fun f t => (f.noteContentType t.1).push t.1.name t.2) f

theorem params_takeOver (f : FormData) (taken : List (Part × FormValue)) :
    (f.takeOver taken).params =
      (taken.map fun t => (t.1.name, t.2)).foldl (fun p v => FormParams.push v.1 v.2 p)
        f.params := by
  induction taken generalizing f with
  | nil => rfl
  | cons t taken ih => exact ih _

/-- The parts that were stored, with their files. -/
def uploadsOf (taken : List (Part × FormValue)) : List (Part × FormFile) :=
  taken.filterMap fun t => t.2.file?.map fun f => (t.1, f)

/-- The files of the parts are tracked behind those that were, each where no file was. -/
structure Tracks (taken : List (Part × FormValue)) (s s' : Scratch) (d : Disk) : Prop where
  files : s'.files = s.files ++ (uploadsOf taken).map fun u => u.2.path
  free : ∀ u ∈ uploadsOf taken, d.read? u.2.path = none
  nodup : ((uploadsOf taken).map fun u => u.2.path).Nodup

theorem Tracks.of_uploadsOf_nil {taken : List (Part × FormValue)} {s : Scratch} {d : Disk}
    (h : uploadsOf taken = []) : Tracks taken s s d := by
  constructor
  · rw [h, List.map_nil, List.append_nil]
  · simp [h]
  · simp [h]

/-- A part that is taken over first keeps the others from the place of its file. -/
theorem Tracks.cons {p : Part} {v : FormValue} {taken : List (Part × FormValue)}
    {s s₁ s' : Scratch} {d d₁ : Disk} (hfirst : Tracks [(p, v)] s s₁ d) (hv : v.Represents d₁ p)
    (hkeeps : d.Keeps d₁) (h : Tracks taken s₁ s' d₁) : Tracks ((p, v) :: taken) s s' d := by
  have hall : uploadsOf ((p, v) :: taken) = uploadsOf [(p, v)] ++ uploadsOf taken := by
    rw [uploadsOf, uploadsOf, uploadsOf, ← List.filterMap_append]
    rfl
  have hfree : ∀ u ∈ uploadsOf taken, d.read? u.2.path = none := by
    intro u hu
    rw [Option.eq_none_iff_forall_ne_some]
    intro data hdata
    cases (h.free u hu).symm.trans (hkeeps _ data hdata)
  refine ⟨?_, ?_, ?_⟩
  · rw [h.files, hfirst.files, hall, List.map_append, List.append_assoc]
  · rw [hall]
    exact fun u hu => (List.mem_append.1 hu).elim (hfirst.free u) (hfree u)
  · rw [hall, List.map_append]
    refine hfirst.nodup.append h.nodup (List.disjoint_left.2 fun path hpath hmem => ?_)
    cases hv with
    | text => cases hpath
    | file isFile stored =>
        obtain ⟨u, hu, rfl⟩ := List.mem_map.1 hmem
        have hread := stored.content
        cases (List.mem_singleton.1 hpath ▸ h.free u hu).symm.trans hread

theorem partValue_eq_ok {p : Part} {s s' : Scratch} {d d' : Disk} {v : FormValue}
    (h : partValue p s d = (.ok v, s', d')) :
    v.Represents d' p ∧ d.Keeps d' ∧ Tracks [(p, v)] s s' d := by
  rw [partValue] at h
  split at h
  · next hfile =>
    split at h
    · next f s₁ d₁ hstore =>
      cases h
      obtain ⟨hstored, hfiles, hfree, hkeeps⟩ := Scratch.store_eq_ok hstore
      have hone : uploadsOf [(p, .file f)] = [(p, f)] := rfl
      refine ⟨.file hfile hstored, hkeeps, hfiles, ?_, List.nodup_singleton _⟩
      simpa [hone] using hfree
    · cases h
  · next hfile =>
    split at h
    · next text htext =>
      cases h
      exact ⟨.text (Bool.eq_false_iff.2 hfile) (Utf8.decode?_eq_some_iff.1 htext), .refl _,
        .of_uploadsOf_nil rfl⟩
    · cases h

/-- Collecting succeeds only without a mistake among the parts, and then has taken all over. -/
theorem collect_eq_ok {results : List (Except FormError Part)} {f form : FormData}
    {s s' : Scratch} {d d' : Disk} (h : collect f s d results = (.ok form, s', d')) :
    ∃ taken : List (Part × FormValue), results = taken.map (fun t => .ok t.1) ∧
      form = f.takeOver taken ∧ (∀ t ∈ taken, t.2.Represents d' t.1) ∧ d.Keeps d' ∧
      Tracks taken s s' d := by
  induction results generalizing f s d with
  | nil =>
      cases h
      exact ⟨[], rfl, rfl, by simp, .refl _, .of_uploadsOf_nil rfl⟩
  | cons r results ih =>
      cases r with
      | error e => cases h
      | ok p =>
          rw [collect] at h
          split at h
          · cases h
          · next v s'' d'' hvalue =>
            obtain ⟨hv, hkeeps, hfirst⟩ := partValue_eq_ok hvalue
            obtain ⟨taken, rfl, rfl, htaken, hkeeps', hrest⟩ := ih h
            refine ⟨(p, v) :: taken, rfl, rfl, ?_, hkeeps.trans hkeeps',
              hfirst.cons hv hkeeps hrest⟩
            rintro t (_ | ⟨_, ht⟩)
            · exact hv.keeps hkeeps'
            · exact htaken t ht

theorem Owns.partValue {d₀ d : Disk} {s : Scratch} (h : s.Owns d₀ d) (p : Part) :
    (partValue p s d).2.1.Owns d₀ (partValue p s d).2.2 := by
  have hstore := h.store p.upload
  rw [FormData.partValue]
  split
  · split
    · next heq =>
      rw [heq] at hstore
      exact hstore
    · next heq =>
      rw [heq] at hstore
      exact hstore
  · split
    · exact h
    · exact h

theorem Owns.collect {d₀ : Disk} {results : List (Except FormError Part)} {f : FormData}
    {d : Disk} {s : Scratch} (h : s.Owns d₀ d) :
    (collect f s d results).2.1.Owns d₀ (collect f s d results).2.2 := by
  induction results generalizing f s d with
  | nil => exact h
  | cons r results ih =>
      cases r with
      | error e => exact h
      | ok p =>
          have hvalue := Owns.partValue h p
          rw [FormData.collect]
          split
          · next heq =>
            rw [heq] at hvalue
            exact hvalue
          · next heq =>
            rw [heq] at hvalue
            exact ih hvalue

/-- Reading a form keeps to the request's directory, also if it fails in the middle. -/
theorem Owns.extract {d₀ d : Disk} {s : Scratch} (h : s.Owns d₀ d) (r : Request)
    (limits : FormLimits) :
    (extract r limits s d).2.1.Owns d₀ (extract r limits s d).2.2 := by
  rw [FormData.extract]
  split
  · exact h
  · dsimp only
    split
    · exact h
    · split
      · exact h
      · split
        · exact h
        · split
          · exact h
          · exact Owns.collect h

end FormData

/-! ### Multipart bodies -/

namespace MultipartForm

theorem ofRequest_of_multipart {r : Request} {limit : Nat} {contentType : String}
    (hct : r.contentType? = some contentType)
    (htype : MediaType.essence contentType = MediaType.multipartForm) :
    ofRequest r limit =
      (boundaryOf contentType).map fun boundary => { boundary, limit, body := r.body } := by
  rw [ofRequest, hct, Option.getD_some]
  exact if_neg (not_not_intro htype)

theorem boundaryOf_error {contentType : String} :
    FailsWith (fun e => e = .missingBoundary) (boundaryOf contentType) := by
  rw [boundaryOf]
  split
  · split
    · exact failsWith_error rfl
    · exact failsWith_ok _
  · exact failsWith_error rfl

/-- A body can be read as a whole if its parts come one by one without a mistake. -/
theorem parse_eq_ok_iff_results {f : MultipartForm} {parts : List Part} :
    f.parse = .ok parts ↔ f.results = parts.map .ok := by
  rw [parse, mapM_eq_ok_iff]
  constructor
  · intro h
    generalize f.results = results at h
    induction h with
    | nil => rfl
    | cons hresult _ ih => rw [List.map_cons, ← ih, ← hresult, id_eq]
  · intro h
    rw [h, List.forall₂_map_left_iff, List.forall₂_same]
    exact fun _ _ => rfl

end MultipartForm

/-! ### Files and the parts that they hold -/

/-- The parts of a multipart body; there are none if the body is something else. -/
def Request.formParts (r : Request) (limit : Nat) : List Part :=
  match (MultipartForm.ofRequest r limit).bind MultipartForm.parse with
  | .ok parts => parts
  | .error _ => []

/-- The files of the parameters are those in which the file parts are stored, in the order of the
parts and under their names. -/
structure FormParams.IsFormOf (parts : List Part) (d : Disk) (p : FormParams) : Prop where
  ordered : Table.Ordered p
  uploads : ∃ uploads : List (Part × FormFile),
    uploads.map Prod.fst = parts.filter Part.isFile ∧
      (∀ name, p.files name = (uploads.filter fun u => u.1.name = name).map Prod.snd) ∧
      ∀ u ∈ uploads, u.1.upload.StoredAs u.2 d

/-- A file of the form holds the data of a file part of the body. -/
theorem FormParams.IsFormOf.exists_part {parts : List Part} {d : Disk} {p : FormParams}
    (h : p.IsFormOf parts d) {f : FormFile} (hf : p.Holds f) :
    ∃ part ∈ parts, part.isFile = true ∧ part.upload.StoredAs f d := by
  obtain ⟨uploads, hparts, hfiles, hstored⟩ := h.uploads
  obtain ⟨name, hname⟩ := hf.exists_mem_files h.ordered
  rw [hfiles, List.mem_map] at hname
  obtain ⟨u, hu, rfl⟩ := hname
  have humem := (List.mem_filter.1 hu).1
  have hpart : u.1 ∈ parts.filter Part.isFile := hparts ▸ List.mem_map_of_mem humem
  rw [List.mem_filter] at hpart
  exact ⟨u.1, hpart.1, hpart.2, hstored u humem⟩

namespace FormData

theorem map_fst_uploadsOf {d : Disk} {taken : List (Part × FormValue)}
    (h : ∀ t ∈ taken, t.2.Represents d t.1) :
    (uploadsOf taken).map Prod.fst = (taken.map Prod.fst).filter Part.isFile := by
  induction taken with
  | nil => rfl
  | cons t taken ih =>
      obtain ⟨p, v⟩ := t
      have hrest := ih fun u hu => h u (List.mem_cons_of_mem _ hu)
      rw [uploadsOf] at hrest
      rw [uploadsOf, List.map_cons, List.filterMap_cons]
      cases h (p, v) (by simp) with
      | text field data => simpa [List.filter_cons, field] using hrest
      | file isFile stored => simpa [List.filter_cons, isFile] using hrest

theorem filterMap_file? (taken : List (Part × FormValue)) (name : String) :
    (((taken.map fun t => (t.1.name, t.2)).filter fun v => v.1 = name).map Prod.snd).filterMap
        FormValue.file? =
      ((uploadsOf taken).filter fun u => u.1.name = name).map Prod.snd := by
  induction taken with
  | nil => rfl
  | cons t taken ih =>
      obtain ⟨p, v⟩ := t
      rw [uploadsOf] at ih ⊢
      by_cases hp : p.name = name
      · cases v with
        | text s => simpa [List.filterMap_cons, hp] using ih
        | file f => simpa [List.filterMap_cons, hp] using ih
      · cases v with
        | text s => simpa [List.filterMap_cons, hp] using ih
        | file f => simpa [List.filterMap_cons, hp] using ih

theorem files_takeOver (taken : List (Part × FormValue)) (name : String) :
    (takeOver {} taken).params.files name =
      ((uploadsOf taken).filter fun u => u.1.name = name).map Prod.snd := by
  have hnil : FormParams.get name [] = [] := rfl
  rw [FormParams.files, params_takeOver, FormParams.get_foldl_push, hnil, List.nil_append,
    filterMap_file?]

/-- A file of a form is that of a part that was stored. -/
theorem exists_mem_uploadsOf {taken : List (Part × FormValue)} {f : FormFile}
    (h : FormParams.Holds f (takeOver {} taken).params) : ∃ u ∈ uploadsOf taken, u.2 = f := by
  have hordered : Table.Ordered (takeOver {} taken).params := by
    rw [params_takeOver]
    exact FormParams.ordered_foldl_push _ Table.ordered_nil
  obtain ⟨name, hname⟩ := h.exists_mem_files hordered
  rw [files_takeOver, List.mem_map] at hname
  obtain ⟨u, hu, hf⟩ := hname
  exact ⟨u, (List.mem_filter.1 hu).1, hf⟩

theorem storedAs_of_mem_uploadsOf {d : Disk} {taken : List (Part × FormValue)}
    (h : ∀ t ∈ taken, t.2.Represents d t.1) : ∀ u ∈ uploadsOf taken, u.1.upload.StoredAs u.2 d := by
  intro u hu
  obtain ⟨⟨p, v⟩, ht, hu⟩ := List.mem_filterMap.1 hu
  cases h (p, v) ht with
  | text field data => cases hu
  | file isFile stored =>
      cases hu
      exact stored

theorem isFormOf_takeOver {d : Disk} {taken : List (Part × FormValue)}
    (h : ∀ t ∈ taken, t.2.Represents d t.1) :
    (takeOver {} taken).params.IsFormOf (taken.map Prod.fst) d := by
  constructor
  · rw [params_takeOver]
    exact FormParams.ordered_foldl_push _ Table.ordered_nil
  · exact ⟨uploadsOf taken, map_fst_uploadsOf h, files_takeOver taken,
      storedAs_of_mem_uploadsOf h⟩

/-- Parameters without files are what a body without parts gives. -/
theorem isFormOf_nil {d : Disk} {p : FormParams} (h : Table.Ordered p)
    (hp : ∀ f, ¬ p.Holds f) : p.IsFormOf [] d := by
  refine ⟨h, [], rfl, fun name => ?_, by simp⟩
  exact List.eq_nil_iff_forall_not_mem.2 fun f hf => hp f (FormParams.holds_of_mem_files hf)

theorem formParts_of_ne {r : Request} {limit : Nat}
    (h : MediaType.essence (r.contentType?.getD "") ≠ MediaType.multipartForm) :
    r.formParts limit = [] := by
  have hrefused : MultipartForm.ofRequest r limit =
      .error (.malformed (.notMultipart (r.contentType?.getD ""))) := by
    rw [MultipartForm.ofRequest, if_pos h]
  -- the equation of the definition would be proved by running the parser
  delta Request.formParts
  rw [hrefused]
  rfl

theorem formParts_of_results {r : Request} {limit : Nat} {contentType boundary : String}
    (hct : r.contentType? = some contentType)
    (htype : MediaType.essence contentType = MediaType.multipartForm)
    (hboundary : MultipartForm.boundaryOf contentType = .ok boundary) {parts : List Part}
    (hparts : MultipartForm.results ⟨boundary, limit, r.body⟩ = parts.map .ok) :
    r.formParts limit = parts := by
  have hform : MultipartForm.ofRequest r limit = .ok ⟨boundary, limit, r.body⟩ := by
    rw [MultipartForm.ofRequest_of_multipart hct htype, hboundary]
    rfl
  delta Request.formParts
  rw [hform]
  simp [Except.bind, MultipartForm.parse_eq_ok_iff_results.2 hparts]

/-- A form that was read is the form of the parts of the body. -/
theorem isFormOf_extract {r : Request} {limits : FormLimits} {s s' : Scratch} {d d' : Disk}
    {form : FormData} (h : extract r limits s d = (.ok form, s', d')) :
    form.params.IsFormOf (r.formParts limits.maxParts) d' := by
  have hempty : ∀ f, ¬ FormParams.Holds f [] := by
    rintro f ⟨e, he, -⟩
    cases he
  rw [extract] at h
  split at h
  · next hct =>
    cases h
    rw [formParts_of_ne (by rw [hct]; decide)]
    exact isFormOf_nil Table.ordered_nil hempty
  · next contentType hct =>
    dsimp only at h
    split at h
    · next hother =>
      cases h
      rw [formParts_of_ne (by rw [hct]; exact hother.1)]
      exact isFormOf_nil Table.ordered_nil hempty
    · next hform =>
      split at h
      · cases h
      · split at h
        · next hurl =>
          cases h
          rw [formParts_of_ne (by rw [hct, Option.getD_some, hurl]; decide)]
          exact isFormOf_nil (FormParams.ordered_ofUrlEncoded r.body)
            (FormParams.not_holds_ofUrlEncoded r.body)
        · next hurl =>
          split at h
          · cases h
          · next boundary hboundary =>
            obtain ⟨taken, hresults, rfl, htaken, -⟩ := collect_eq_ok h
            have htype : MediaType.essence contentType = MediaType.multipartForm := by
              apply Decidable.byContradiction
              exact fun hne => hform ⟨hne, hurl⟩
            have hparts := hresults.trans (List.map_map (l := taken) (f := Prod.fst)).symm
            rw [formParts_of_results hct htype hboundary hparts]
            exact isFormOf_takeOver htaken

end FormData

end ServiceDispatch
