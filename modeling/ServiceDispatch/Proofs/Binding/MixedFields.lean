import ServiceDispatch.Proofs.Binding.Defaults
import ServiceDispatch.Proofs.Binding.FormFields

/-!
# Fields with texts and uploads

A field of a multipart form may have texts and uploads, in any order. The form keeps that order, but
its texts and its uploads are read separately, and of the content types of its parts only the first
is noted. So a converter that takes no uploads is given, where there is an upload,

* from form data, the first upload, decoded by the content type of the first part of the field,
  which may be a text;
* from a plain form, the texts and behind them the uploads, each in the order of arrival.

The upload is decoded by its own content type if the first part has that type too, and the values
are in the order of arrival if no text stands behind an upload.
-/

namespace ServiceDispatch

namespace FormData

variable {taken : List (Part × FormValue)} {d : Disk} {key : String}

/-- Of the parts with a name those of one kind. -/
theorem filter_kind (parts : List Part) (key : String) (kind : Bool) :
    parts.filter (fun q => q.name = key ∧ q.isFile = kind) =
      (parts.filter fun q => q.name = key).filter fun q => q.isFile = kind := by
  rw [List.filter_filter]
  exact List.filter_congr fun q _ => by rw [Bool.decide_and, Bool.and_comm]

/-- The first upload of a field is the first of its files. -/
theorem exists_files_eq_cons (h : ∀ v ∈ taken, v.2.Represents d v.1) {before after : List Part}
    {u : Part}
    (hfield : (taken.map Prod.fst).filter (fun q => q.name = key) = before ++ u :: after)
    (hbefore : ∀ q ∈ before, q.isFile = false) (hu : u.isFile = true) :
    ∃ f rest, FormParams.files key (takeOver {} taken).params = f :: rest ∧
      d.read? f.path = some u.data := by
  have hnone : before.filter (fun q => q.isFile = true) = [] := by
    simpa [List.filter_eq_nil_iff] using hbefore
  have hfst := map_fst_uploadsOf_filter h key
  rw [filter_kind, hfield, List.filter_append, hnone, List.nil_append,
    List.filter_cons, if_pos (decide_eq_true hu)] at hfst
  obtain ⟨⟨u, f⟩, rest, huploads, rfl, -⟩ := List.map_eq_cons_iff.1 hfst
  have hmem : (u, f) ∈ (uploadsOf taken).filter fun v => v.1.name = key := by
    rw [huploads]
    exact List.mem_cons_self
  have hstored := storedAs_of_mem_uploadsOf h (u, f) (List.mem_filter.1 hmem).1
  refine ⟨f, rest.map Prod.snd, ?_, hstored.content⟩
  rw [files_takeOver, huploads]
  rfl

end FormData

namespace Parameter

variable {taken : List (Part × FormValue)} {d : Disk} {key : String} {c : Converter}

/-- An upload is decoded by the content type of the first part of its field. -/
theorem bindForm_of_upload (p : Parameter) (t : ConverterTable)
    (h : ∀ v ∈ taken, v.2.Represents d v.1) (hc : ∀ d files, c.convertFiles d files = none)
    {before after : List Part} {u : Part}
    (hfield : (taken.map Prod.fst).filter (fun q => q.name = key) = before ++ u :: after)
    (hbefore : ∀ q ∈ before, q.isFile = false) (hu : u.isFile = true) :
    p.bindForm c t true key (.takeOver {} taken) d =
      p.settle (c.convertBody (t.select (some (before.head?.getD u).contentType)) u.data) := by
  obtain ⟨f, rest, hfiles, hread⟩ := FormData.exists_files_eq_cons h hfield hbefore hu
  have htype : Table.get? key (FormData.takeOver {} taken).contentTypes =
      some (before.head?.getD u).contentType := by
    rw [FormData.contentTypes_takeOver, hfield]
    cases before <;> rfl
  rw [bindForm, hfiles, htype]
  dsimp only
  rw [bindUploads, hc, readUpload, hread]
  rfl

/-- Uploads that are UTF-8 are read as texts. -/
theorem exists_mapM_uploadText {uploads : List (Part × FormFile)}
    (h : ∀ v ∈ uploads, d.read? v.2.path = some v.1.data ∧ ∃ s, Utf8.encode s = v.1.data) :
    ∃ texts : List String, texts.map Utf8.encode = uploads.map (fun v => v.1.data) ∧
      ∀ p : Parameter, (uploads.map Prod.snd).mapM (p.uploadText d) = .ok texts := by
  induction uploads with
  | nil => exact ⟨[], rfl, fun p => rfl⟩
  | cons v uploads ih =>
      obtain ⟨⟨hread, s, hs⟩, h⟩ := List.forall_mem_cons.1 h
      obtain ⟨texts, htexts, hall⟩ := ih h
      refine ⟨s :: texts, ?_, fun p => ?_⟩
      · rw [List.map_cons, List.map_cons, hs, htexts]
      · have hv : p.uploadText d v.2 = .ok s := by
          rw [uploadText, readUpload, hread]
          dsimp only
          rw [Utf8.decode?_eq_some_iff.2 hs]
        exact mapM_eq_ok_iff.2 (.cons hv (mapM_eq_ok_iff.1 (hall p)))

/-- A converter that takes no uploads is given the texts and then the uploads as texts. -/
theorem bindForm_of_mapM_uploadText (p : Parameter) (t : ConverterTable)
    (hc : ∀ d files, c.convertFiles d files = none) {form : FormData} {texts : List String}
    (h : (form.params.files key).mapM (p.uploadText d) = .ok texts) :
    p.bindForm c t false key form d = p.convertFound c (form.params.texts key ++ texts) := by
  rw [bindForm]
  cases hfiles : form.params.files key with
  | nil =>
      rw [hfiles, List.mapM_nil] at h
      obtain rfl : texts = [] := (Except.ok.inj h).symm
      rw [List.append_nil]
      rfl
  | cons first rest =>
      rw [hfiles] at h
      dsimp only
      rw [bindUploads, hc, h]
      rfl

/-- A plain form gives its texts and then its uploads, as texts. -/
theorem exists_bindForm_eq (h : ∀ v ∈ taken, v.2.Represents d v.1)
    (hutf8 : ∀ q ∈ taken.map Prod.fst, q.name = key → ∃ s, Utf8.encode s = q.data) :
    let field := (taken.map Prod.fst).filter fun q => q.name = key
    ∃ raw : List String,
      raw.map Utf8.encode = (field.filter (fun q => q.isFile = false) ++
        field.filter fun q => q.isFile = true).map Part.data ∧
      ∀ (p : Parameter) (c : Converter) (t : ConverterTable),
        (∀ d files, c.convertFiles d files = none) →
          p.bindForm c t false key (.takeOver {} taken) d = p.convertFound c raw := by
  intro field
  let uploads := (FormData.uploadsOf taken).filter fun v => v.1.name = key
  have hfst : uploads.map Prod.fst = field.filter fun q => q.isFile = true :=
    (FormData.map_fst_uploadsOf_filter h key).trans (FormData.filter_kind _ key true)
  have huploads : ∀ v ∈ uploads,
      d.read? v.2.path = some v.1.data ∧ ∃ s, Utf8.encode s = v.1.data := by
    intro v hv
    have hmem : v.1 ∈ field := by
      have hv' : v.1 ∈ uploads.map Prod.fst := List.mem_map_of_mem hv
      rw [hfst] at hv'
      exact (List.mem_filter.1 hv').1
    obtain ⟨hpart, hname⟩ := List.mem_filter.1 hmem
    have hstored := FormData.storedAs_of_mem_uploadsOf h v (List.mem_filter.1 hv).1
    exact ⟨hstored.content, hutf8 v.1 hpart (of_decide_eq_true hname)⟩
  obtain ⟨texts, htexts, hall⟩ := exists_mapM_uploadText huploads
  refine ⟨(FormData.takeOver {} taken).params.texts key ++ texts, ?_, fun p c t hc => ?_⟩
  · rw [List.map_append, List.map_append, FormData.texts_takeOver h, FormData.filter_kind, htexts,
      ← hfst, List.map_map]
    rfl
  · have hmapM := hall p
    rw [← FormData.files_takeOver] at hmapM
    exact p.bindForm_of_mapM_uploadText t hc hmapM

/-- Where no text stands behind an upload, the texts and then the uploads are the field. -/
theorem filter_text_append_filter_file {field : List Part}
    (h : field.Pairwise fun q q' => q.isFile = true → q'.isFile = true) :
    (field.filter (fun q => q.isFile = false) ++ field.filter fun q => q.isFile = true) =
      field := by
  induction h with
  | nil => rfl
  | @cons q field hq _ ih =>
      cases hfile : q.isFile with
      | false => simpa [hfile] using ih
      | true =>
          have hall : ∀ q' ∈ field, q'.isFile = true := fun q' hq' => hq q' hq' hfile
          have hnone : field.filter (fun q => q.isFile = false) = [] := by
            simpa [List.filter_eq_nil_iff] using hall
          rw [hnone, List.nil_append] at ih
          rw [List.filter_cons, List.filter_cons, hfile]
          change field.filter (fun q => q.isFile = false) ++
            q :: field.filter (fun q => q.isFile = true) = q :: field
          rw [hnone, ih, List.nil_append]

theorem settle_tree (p : Parameter) {media : MediaConverter} {body : Bytes} {j : Json}
    (h : media.decode body = .ok j) :
    p.settle ((Converter.bean .tree).convertBody media body) = .ok (some (.tree j)) := by
  rw [Converter.convertBody, h]
  rfl

/-- Texts are bound as they are. -/
theorem convertFound_list_text (p : Parameter) (s : String) (rest : List String) :
    p.convertFound (.list .text) (s :: rest) =
      .ok (some (.list .text ((s :: rest).map .text))) := by
  have hread : (s :: rest).mapM Scalar.text.read = .ok ((s :: rest).map .text) := by
    rw [mapM_eq_ok_iff, List.forall₂_map_right_iff, List.forall₂_same]
    exact fun _ _ => rfl
  have hconvert : (Converter.list .text).convert (some (s :: rest)) =
      .ok (.list .text ((s :: rest).map .text)) := by
    rw [Converter.convert, Option.getD_some, hread]
    rfl
  rw [convertFound, List.isEmpty_cons, if_neg Bool.false_ne_true, convertTexts, hconvert]
  rfl

end Parameter

namespace Binding

variable {σ : Type} {sc : Scope σ} {d d₁ : Disk} {parts : List Part} {files : List FormFile}
  {s : Scratch} {p : Parameter} {key : String} {c : Converter}

theorem Scope.Binds.unique {result result' : Except BindingCause Arg} (h : sc.Binds d p result)
    (h' : sc.Binds d p result') (call : CallState σ) : result = result' := by
  have hone := h.alone call
  have hother := h'.alone call
  cases result with
  | error cause =>
      cases result' with
      | error cause' =>
          have heq := hone.symm.trans hother
          simp only [Except.error.injEq, BindingError.mk.injEq, true_and] at heq
          rw [heq]
      | ok arg' =>
          obtain ⟨b, hb, -⟩ := hother
          cases hone.symm.trans hb
  | ok arg =>
      obtain ⟨b, hb, hargs⟩ := hone
      cases result' with
      | error cause' => cases hother.symm.trans hb
      | ok arg' =>
          obtain ⟨b', hb', hargs'⟩ := hother
          cases hb.symm.trans hb'
          have hget := congrArg (fun args : Arguments => args.get? 0) (hargs.symm.trans hargs')
          simpa using hget

/-- The form that a parameter goes by is made of the parts of the body. -/
theorem freshForm_of_sendsForm (hform : sc.request.SendsForm sc.config.formLimits parts)
    (hstored : Scratch.storeAll (Part.uploads parts) {} d = (.ok files, s, d₁)) :
    ∃ taken : List (Part × FormValue), taken.map Prod.fst = parts ∧
      freshForm sc d = .ok (.takeOver {} taken, d₁) ∧
      ∀ v ∈ taken, v.2.Represents d₁ v.1 := by
  obtain ⟨taken, hparts, hextract, htaken⟩ := FormData.extract_of_sendsForm hform hstored
  refine ⟨taken, hparts, ?_, htaken⟩
  rw [freshForm, hextract]

/-- A parameter for a field is bound to what is made of the form. -/
theorem binds_bindForm (asDocument : Bool)
    (hp : p.binding = .keyed (if asDocument then .formData else .form) key c) {form : FormData}
    (hfresh : freshForm sc d = .ok (form, d₁)) :
    sc.Binds d p (p.bindForm c sc.snapshot.converters asDocument key form d₁) := by
  have hbound (st : Progress σ) : bindParameter sc p st =
      withForm sc st (p.bindForm c sc.snapshot.converters asDocument key) := by
    rw [bindParameter, hp]
    cases asDocument <;> rfl
  refine Scope.binds_of_argument (Parameter.source_ne_of_keyed hp) fun call => ?_
  rw [argument, hbound, fst_withForm (.unread rfl rfl rfl), hfresh]
  rfl

/-! ### Uploads as documents -/

/-- From form data a converter that takes no uploads is given the first upload, decoded by the
content type of the first part of the field. -/
theorem binds_upload (hform : sc.request.SendsForm sc.config.formLimits parts)
    (hstored : Scratch.storeAll (Part.uploads parts) {} d = (.ok files, s, d₁))
    {before after : List Part} {u : Part}
    (hfield : parts.filter (fun q => q.name = key) = before ++ u :: after)
    (hbefore : ∀ q ∈ before, q.isFile = false) (hu : u.isFile = true)
    (hp : p.binding = .keyed .formData key c) (hc : ∀ d files, c.convertFiles d files = none) :
    sc.Binds d p (p.settle (c.convertBody
      (sc.snapshot.converters.select (some (before.head?.getD u).contentType)) u.data)) := by
  obtain ⟨taken, rfl, hfresh, htaken⟩ := freshForm_of_sendsForm hform hstored
  rw [← p.bindForm_of_upload sc.snapshot.converters htaken hc hfield hbefore hu]
  exact binds_bindForm true hp hfresh

/-- Whatever stands behind the first upload of a field, a parameter for form data whose converter
takes no uploads is bound to the data of that upload, decoded by the content type of the first part
of the field. It is decoded by its own content type if it is that part, or if a text that comes
first has the same type. -/
theorem bind_first_upload (hform : sc.request.SendsForm sc.config.formLimits parts)
    (hstored : Scratch.storeAll (Part.uploads parts) {} d = (.ok files, s, d₁))
    {before after : List Part} {u : Part}
    (hfield : parts.filter (fun q => q.name = key) = before ++ u :: after)
    (hbefore : ∀ q ∈ before, q.isFile = false) (hu : u.isFile = true)
    (hp : p.binding = .keyed .formData key c) (hc : ∀ d files, c.convertFiles d files = none) :
    let decoded (contentType : String) :=
      p.settle (c.convertBody (sc.snapshot.converters.select (some contentType)) u.data)
    sc.Binds d p (decoded (before.head?.getD u).contentType) ∧
      ((∀ q ∈ before.head?, q.contentType = u.contentType) →
        sc.Binds d p (decoded u.contentType)) := by
  intro decoded
  have hbinds := binds_upload hform hstored hfield hbefore hu hp hc
  refine ⟨hbinds, fun hsame => ?_⟩
  have htype : (before.head?.getD u).contentType = u.contentType := by
    cases before with
    | nil => rfl
    | cons q before => exact hsame q rfl
  rwa [htype] at hbinds

/-- A text of a field. -/
def noteText : Part where
  name := "doc"
  fileName := none
  contentType := MediaType.plainText
  headers := [("Content-Disposition", "form-data; name=\"doc\"")]
  data := Utf8.encode "note"

/-- An upload of the field, with a content type of its own. -/
def listUpload : Part where
  name := "doc"
  fileName := some "a"
  contentType := MediaType.json
  headers := [("Content-Disposition", "form-data; name=\"doc\"; filename=\"a\""),
    ("Content-Type", "application/json")]
  data := Utf8.encode "[1]"

/-- The request of `sendsForm` with another body. -/
def sendsBody (body : List Bytes) : Scope Unit :=
  { sendsForm with request := { sendsForm.request with buffers := body } }

/-- The text in front of the upload. -/
def sendsTextFirst : Scope Unit := sendsBody
  [Utf8.encode "--b\r\nContent-Disposition: form-data; name=\"doc\"\r\n\r\nnote\r\n--b\r\n",
    Utf8.encode "Content-Disposition: form-data; name=\"doc\"; filename=\"a\"\r\n",
    Utf8.encode "Content-Type: application/json\r\n\r\n[1]\r\n--b--"]

/-- The upload in front of the text. -/
def sendsUploadFirst : Scope Unit := sendsBody
  [Utf8.encode "--b\r\nContent-Disposition: form-data; name=\"doc\"; filename=\"a\"\r\n",
    Utf8.encode "Content-Type: application/json\r\n\r\n[1]\r\n--b\r\n",
    Utf8.encode "Content-Disposition: form-data; name=\"doc\"\r\n\r\nnote\r\n--b--"]

theorem exists_encode_eq {q : Part} (hq : q = noteText ∨ q = listUpload) :
    ∃ text, Utf8.encode text = q.data := by
  rcases hq with rfl | rfl
  · exact ⟨"note", rfl⟩
  · exact ⟨"[1]", rfl⟩

theorem sendsForm_sendsTextFirst :
    sendsTextFirst.request.SendsForm sendsTextFirst.config.formLimits [noteText, listUpload] := by
  refine ⟨by decide, ?_, by decide +kernel, fun q hq _ => exists_encode_eq ?_⟩
  · rintro limit ⟨⟩
  · simpa using hq

theorem sendsForm_sendsUploadFirst :
    sendsUploadFirst.request.SendsForm sendsUploadFirst.config.formLimits
      [listUpload, noteText] := by
  refine ⟨by decide, ?_, by decide +kernel, fun q hq _ => exists_encode_eq ?_⟩
  · rintro limit ⟨⟩
  · simpa [or_comm] using hq

theorem exists_storeAll_listUpload :
    ∃ files s d₁, Scratch.storeAll [listUpload.upload] {} {} = (.ok files, s, d₁) := by
  have hisOk : (Scratch.storeAll [listUpload.upload] {} {}).1.isOk = true := by decide +kernel
  rcases hstored : Scratch.storeAll [listUpload.upload] {} {} with ⟨e | files, s, d₁⟩
  · rw [hstored] at hisOk
    cases hisOk
  · exact ⟨files, s, d₁, rfl⟩

/-- By its own content type the upload is a list of one number. -/
theorem decode_listUpload :
    (ConverterTable.standard.select (some listUpload.contentType)).decode listUpload.data =
      .ok (.list [.number (.whole 1)]) := by
  have hbytes : listUpload.data = [91, 49, 93] := by decide
  have hbracket : (Json.byteDigit? 91).isSome = false := by decide
  have hdigit : (Json.byteDigit? 49).isSome = true := by decide
  have hnumber : Json.numberValue {} false [49, 93] = .ok (.number (.whole 1), [93]) := rfl
  have hvalue (steps : Nat) :
      Json.value {} 127 (steps + 1) [49, 93] = .ok (.number (.whole 1), [93]) := by
    simp [Json.value, Json.skipSpace, Json.isSpace, hnumber, hdigit]
  have hitems (steps : Nat) :
      Json.items {} 127 (steps + 3) [] [49, 93] = .ok (.list [.number (.whole 1)], []) := by
    simp [Json.items, Json.item, Json.skipSpace, Json.isSpace, hvalue]
  have hread : Json.read [91, 49, 93] = .ok (.list [.number (.whole 1)]) := by
    rw [Json.read, Json.readWith]
    simp [Json.value, Json.skipSpace, Json.isSpace, hbracket, hitems, Json.depthLimit]
  have hselect : ConverterTable.standard.select (some listUpload.contentType) = .json := rfl
  rw [hselect, hbytes]
  change MediaConverter.decodeJson [91, 49, 93] = _
  rw [MediaConverter.decodeJson, hread]

/-- By the content type of the text it is a text. -/
theorem decode_listUpload_as_text :
    (ConverterTable.standard.select (some noteText.contentType)).decode listUpload.data =
      .ok (.text "[1]") := by
  have hselect : ConverterTable.standard.select (some noteText.contentType) = .text := rfl
  have hdecode : Utf8.decode listUpload.data = .ok "[1]" := by decide +kernel
  rw [hselect]
  change MediaConverter.decodeText listUpload.data = _
  rw [MediaConverter.decodeText, hdecode]

/-- In front of the text the upload is decoded as what it is. -/
theorem bind_first_upload_document :
    let document : Parameter := { binding := .keyed .formData "doc" (.bean .tree) }
    ∃ b, (bind (sendsUploadFirst.alone document) ⟨(), [], {}⟩ {}).1 = .ok b ∧
      b.args = .ofList [some (.tree (.list [.number (.whole 1)]))] := by
  intro document
  obtain ⟨files, s, d₁, hstored⟩ := exists_storeAll_listUpload
  have hform := sendsForm_sendsUploadFirst
  have hfield : [listUpload, noteText].filter (fun q => q.name = "doc") =
      [] ++ listUpload :: [noteText] := rfl
  have hbinds : sendsUploadFirst.Binds {} document (document.settle
      ((Converter.bean .tree).convertBody
        (ConverterTable.standard.select (some listUpload.contentType)) listUpload.data)) :=
    (bind_first_upload hform hstored hfield (by simp) rfl rfl fun _ _ => rfl).1
  rw [document.settle_tree decode_listUpload] at hbinds
  exact hbinds.alone ⟨(), [], {}⟩

/-- Behind the text it is decoded as a text. -/
theorem bind_upload_behind_text :
    let document : Parameter := { binding := .keyed .formData "doc" (.bean .tree) }
    sendsTextFirst.request.SendsForm sendsTextFirst.config.formLimits [noteText, listUpload] ∧
      (∃ files s d₁, Scratch.storeAll (Part.uploads [noteText, listUpload]) {} {} =
        (.ok files, s, d₁)) ∧
      sendsTextFirst.Binds {} document (.ok (some (.tree (.text "[1]")))) ∧
      ¬ sendsTextFirst.Binds {} document (document.settle ((Converter.bean .tree).convertBody
        (sendsTextFirst.snapshot.converters.select (some listUpload.contentType))
        listUpload.data)) := by
  intro document
  obtain ⟨files, s, d₁, hstored⟩ := exists_storeAll_listUpload
  have hform := sendsForm_sendsTextFirst
  have hfield : [noteText, listUpload].filter (fun q => q.name = "doc") =
      [noteText] ++ listUpload :: [] := rfl
  have hbinds := binds_upload (p := document) hform hstored hfield (by simp; rfl) rfl rfl
    fun _ _ => rfl
  have htext := document.settle_tree decode_listUpload_as_text
  have hlist := document.settle_tree decode_listUpload
  have hbound : sendsTextFirst.Binds {} document (.ok (some (.tree (.text "[1]")))) :=
    htext ▸ hbinds
  refine ⟨hform, ⟨files, s, d₁, hstored⟩, hbound, fun hclaimed => ?_⟩
  have heq := hbound.unique (hlist ▸ hclaimed) ⟨(), [], {}⟩
  cases heq

/-! ### Texts and uploads of a plain form -/

/-- From a plain form a converter that takes no uploads is given the texts and then the uploads. -/
theorem exists_binds_texts (hform : sc.request.SendsForm sc.config.formLimits parts)
    (hstored : Scratch.storeAll (Part.uploads parts) {} d = (.ok files, s, d₁))
    (hutf8 : ∀ q ∈ parts, q.name = key → ∃ text, Utf8.encode text = q.data) :
    let field := parts.filter fun q => q.name = key
    ∃ raw : List String, raw.map Utf8.encode = (field.filter (fun q => q.isFile = false) ++
        field.filter fun q => q.isFile = true).map Part.data ∧
      ∀ (p : Parameter) (c : Converter), p.binding = .keyed .form key c →
        (∀ d files, c.convertFiles d files = none) → sc.Binds d p (p.convertFound c raw) := by
  intro field
  obtain ⟨taken, rfl, hfresh, htaken⟩ := freshForm_of_sendsForm hform hstored
  obtain ⟨raw, hraw, hall⟩ := Parameter.exists_bindForm_eq htaken hutf8
  refine ⟨raw, hraw, fun p c hp hc => ?_⟩
  rw [← hall p c sc.snapshot.converters hc]
  exact binds_bindForm false hp hfresh

/-- From a plain form whose field is UTF-8, the contents of the texts and then of the uploads are
bound, each in the order of arrival: all of them for a list, and the first for a single text. They
are in the order of arrival of all parts if no text stands behind an upload. -/
theorem bind_texts_then_uploads (hform : sc.request.SendsForm sc.config.formLimits parts)
    (hstored : Scratch.storeAll (Part.uploads parts) {} d = (.ok files, s, d₁))
    (hkey : ∃ q ∈ parts, q.name = key)
    (hutf8 : ∀ q ∈ parts, q.name = key → ∃ text, Utf8.encode text = q.data) :
    let field := parts.filter fun q => q.name = key
    ∃ first rest, (first :: rest).map Utf8.encode =
        (field.filter (fun q => q.isFile = false) ++
          field.filter fun q => q.isFile = true).map Part.data ∧
      (field.Pairwise (fun q q' => q.isFile = true → q'.isFile = true) →
        (first :: rest).map Utf8.encode = field.map Part.data) ∧
      ∀ p : Parameter,
        (p.binding = .keyed .form key (.list .text) →
          sc.Binds d p (.ok (some (.list .text ((first :: rest).map .text))))) ∧
        (p.binding = .keyed .form key (.scalar .text) →
          sc.Binds d p (.ok (some (.text first)))) := by
  intro field
  obtain ⟨raw, hraw, hbinds⟩ := exists_binds_texts hform hstored hutf8
  have hne : raw ≠ [] := by
    rintro rfl
    obtain ⟨q, hq, hname⟩ := hkey
    have hmem : q ∈ field := List.mem_filter.2 ⟨hq, decide_eq_true hname⟩
    obtain ⟨htexts, huploads⟩ := List.append_eq_nil_iff.1 (List.map_eq_nil_iff.1 hraw.symm)
    rw [List.filter_eq_nil_iff] at htexts huploads
    cases hfile : q.isFile with
    | false => exact htexts q hmem (decide_eq_true hfile)
    | true => exact huploads q hmem (decide_eq_true hfile)
  obtain ⟨first, rest, rfl⟩ := List.exists_cons_of_ne_nil hne
  refine ⟨first, rest, hraw, fun horder => ?_, fun p => ⟨fun hp => ?_, fun hp => ?_⟩⟩
  · rw [hraw, Parameter.filter_text_append_filter_file horder]
  · rw [← p.convertFound_list_text]
    exact hbinds p _ hp fun _ _ => rfl
  · exact hbinds p _ hp fun _ _ => rfl

/-- With the text in front the list is in the order of arrival. -/
theorem bind_texts_then_uploads_ordered :
    let list : Parameter := { binding := .keyed .form "doc" (.list .text) }
    ∃ b, (bind (sendsTextFirst.alone list) ⟨(), [], {}⟩ {}).1 = .ok b ∧
      b.args = .ofList [some (.list .text [.text "note", .text "[1]"])] := by
  intro list
  obtain ⟨files, s, d₁, hstored⟩ := exists_storeAll_listUpload
  have hform := sendsForm_sendsTextFirst
  have hkey : ∃ q ∈ [noteText, listUpload], q.name = "doc" := ⟨noteText, by simp, rfl⟩
  have hutf8 : ∀ q ∈ [noteText, listUpload], q.name = "doc" → ∃ text, Utf8.encode text = q.data :=
    fun q hq _ => exists_encode_eq (by simpa using hq)
  obtain ⟨first, rest, -, horder, hbinds⟩ := bind_texts_then_uploads hform hstored hkey hutf8
  have hraw : first :: rest = ["note", "[1]"] := by
    apply List.map_injective_iff.2 Utf8.encode_injective
    refine (horder ?_).trans rfl
    exact .cons (fun q _ htext => by cases htext) (List.pairwise_singleton _ _)
  obtain ⟨rfl, rfl⟩ := List.cons.inj hraw
  exact ((hbinds list).1 rfl).alone ⟨(), [], {}⟩

/-- With the upload in front it is not. -/
theorem bind_text_behind_upload :
    let list : Parameter := { binding := .keyed .form "doc" (.list .text) }
    let single : Parameter := { binding := .keyed .form "doc" (.scalar .text) }
    sendsUploadFirst.request.SendsForm sendsUploadFirst.config.formLimits [listUpload, noteText] ∧
      (∃ files s d₁, Scratch.storeAll (Part.uploads [listUpload, noteText]) {} {} =
        (.ok files, s, d₁)) ∧
      sendsUploadFirst.Binds {} list (.ok (some (.list .text [.text "note", .text "[1]"]))) ∧
      ¬ sendsUploadFirst.Binds {} list (.ok (some (.list .text [.text "[1]", .text "note"]))) ∧
      sendsUploadFirst.Binds {} single (.ok (some (.text "note"))) ∧
      ¬ sendsUploadFirst.Binds {} single (.ok (some (.text "[1]"))) := by
  intro list single
  obtain ⟨files, s, d₁, hstored⟩ := exists_storeAll_listUpload
  have hform := sendsForm_sendsUploadFirst
  have hutf8 : ∀ q ∈ [listUpload, noteText], q.name = "doc" → ∃ text, Utf8.encode text = q.data :=
    fun q hq _ => exists_encode_eq (by simpa [or_comm] using hq)
  obtain ⟨raw, hraw, hbinds⟩ := exists_binds_texts hform hstored hutf8
  obtain rfl : raw = ["note", "[1]"] := by
    apply List.map_injective_iff.2 Utf8.encode_injective
    exact hraw.trans rfl
  have hlist := hbinds list _ rfl fun _ _ => rfl
  have hsingle : sendsUploadFirst.Binds {} single (.ok (some (.text "note"))) :=
    hbinds single _ rfl fun _ _ => rfl
  rw [list.convertFound_list_text] at hlist
  refine ⟨hform, ⟨files, s, d₁, hstored⟩, hlist, fun hclaimed => ?_, hsingle, fun hclaimed => ?_⟩
  · have heq := hlist.unique hclaimed ⟨(), [], {}⟩
    simp at heq
  · have heq := hsingle.unique hclaimed ⟨(), [], {}⟩
    simp at heq

end Binding

end ServiceDispatch
