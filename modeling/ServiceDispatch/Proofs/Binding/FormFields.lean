import ServiceDispatch.Proofs.Binding.Independence
import ServiceDispatch.Proofs.Form.Fields

/-!
# Parameters for fields of a form

A field of a multipart form has uploads and texts. If there are uploads, converters of uploads are
given these, and otherwise the texts are converted: all of them if the first is plain text, and
else the first alone, as a document of the content type of its part. `Parameter.Delivers` says so,
and `bind_formData` that it is what a parameter for the field is bound to, alone and among others.
-/

namespace ServiceDispatch

namespace Parameter

/-- What is bound for a field with the uploads, each with its file, and the other parts. -/
structure Delivers (p : Parameter) (c : Converter) (t : ConverterTable)
    (uploads : List (Part × FormFile)) (texts : List Part) (result : Except BindingCause Arg) :
    Prop where
  byteStream : ∀ u rest, uploads = u :: rest → c = .byteStream →
    result = .ok (some (.stream u.1.data))
  fileInfo : ∀ u rest, uploads = u :: rest → c = .fileInfo →
    result = .ok (some (.fileInfo u.1.fileInfo))
  formFile : ∀ u rest, uploads = u :: rest → c = .formFile → result = .ok (some (.formFile u.2))
  formFiles : uploads ≠ [] → c = .formFiles →
    result = .ok (some (.list .formFile (uploads.map fun u => .formFile u.2)))
  plain : ∀ q rest, uploads = [] → texts = q :: rest → q.contentType = MediaType.plainText →
    ∃ raw : List String, raw.map Utf8.encode = texts.map Part.data ∧
      result = p.settle (c.convert (some raw))
  document : ∀ q rest, uploads = [] → texts = q :: rest → q.contentType ≠ MediaType.plainText →
    result = p.settle (c.convertBody (t.select (some q.contentType)) q.data)

variable (p : Parameter) (c : Converter) (t : ConverterTable)

theorem delivers_bindUploads {u : Part × FormFile} {rest : List (Part × FormFile)} {d : Disk}
    (hstored : u.1.upload.StoredAs u.2 d) (partType : Option String) (raw : List String)
    (texts : List Part) :
    p.Delivers c t (u :: rest) texts
      (p.bindUploads c t true partType raw u.2 (rest.map Prod.snd) d) := by
  constructor
  case byteStream =>
    rintro _ _ ⟨⟩ rfl
    have hread : d.read? u.2.path = some u.1.data := hstored.content
    rw [bindUploads, Converter.convertFiles, Converter.openFirst?, List.head?_cons, Option.map_some,
      hread]
    rfl
  case fileInfo =>
    rintro _ _ ⟨⟩ rfl
    rw [← hstored.info_eq]
    rfl
  case formFile =>
    rintro _ _ ⟨⟩ rfl
    rfl
  case formFiles =>
    rintro - rfl
    rw [bindUploads, Converter.convertFiles, List.map_cons, List.map_cons, List.map_map]
    rfl
  case plain => rintro _ _ ⟨⟩
  case document => rintro _ _ ⟨⟩

theorem delivers_bindTexts {raw : List String} {texts : List Part} {partType : Option String}
    (hraw : raw.map Utf8.encode = texts.map Part.data)
    (htype : partType = texts.head?.map Part.contentType) :
    p.Delivers c t [] texts (p.bindTexts c t true partType raw) := by
  constructor
  case plain =>
    rintro q rest - rfl hplain
    obtain ⟨s, raw, rfl, -, -⟩ := List.map_eq_cons_iff.1 hraw
    rw [List.head?_cons, Option.map_some, hplain] at htype
    have hdocument : (true && partType.isSome && partType != some MediaType.plainText) = false := by
      rw [htype, bne_self_eq_false, Bool.and_false]
    refine ⟨s :: raw, hraw, ?_⟩
    rw [bindTexts, hdocument]
    rfl
  case document =>
    rintro q rest - rfl hother
    obtain ⟨s, raw, rfl, hs, -⟩ := List.map_eq_cons_iff.1 hraw
    rw [List.head?_cons, Option.map_some] at htype
    have hdocument : (true && partType.isSome && partType != some MediaType.plainText) = true := by
      rw [htype]
      simpa using hother
    rw [bindTexts, hdocument, htype, ← hs]
    rfl
  case formFiles => exact fun h => absurd rfl h
  all_goals rintro _ _ ⟨⟩

/-- The form of a multipart body delivers its fields. -/
theorem delivers_bindForm {taken : List (Part × FormValue)} {d : Disk}
    (h : ∀ v ∈ taken, v.2.Represents d v.1) (key : String) :
    p.Delivers c t ((FormData.uploadsOf taken).filter fun u => u.1.name = key)
      ((taken.map Prod.fst).filter fun q => q.name = key ∧ q.isFile = false)
      (p.bindForm c t true key (FormData.takeOver {} taken) d) := by
  have hfst := FormData.map_fst_uploadsOf_filter h key
  rw [bindForm, FormData.files_takeOver]
  cases huploads : (FormData.uploadsOf taken).filter fun u => u.1.name = key with
  | nil =>
      refine p.delivers_bindTexts c t (FormData.texts_takeOver h key) ?_
      -- without uploads the parts of the field are those that are none
      have hparts : (taken.map Prod.fst).filter (fun q => q.name = key) =
          (taken.map Prod.fst).filter fun q => q.name = key ∧ q.isFile = false := by
        rw [huploads] at hfst
        refine List.filter_congr fun q hq => ?_
        have hnone := List.filter_eq_nil_iff.1 hfst.symm q hq
        have hfield : q.name = key → q.isFile = false := fun hname => by simpa [hname] using hnone
        exact decide_eq_decide.2 ⟨fun hname => ⟨hname, hfield hname⟩, And.left⟩
      rw [FormData.contentTypes_takeOver, hparts]
      rfl
  | cons u rest =>
      have hu : u ∈ (FormData.uploadsOf taken).filter fun u => u.1.name = key := by
        rw [huploads]
        exact List.mem_cons_self
      have hstored := FormData.storedAs_of_mem_uploadsOf h u (List.mem_filter.1 hu).1
      exact p.delivers_bindUploads c t hstored _ _ _

end Parameter

namespace Binding

variable {σ : Type} {sc : Scope σ} {d d₁ : Disk} {parts : List Part} {files : List FormFile}
  {s : Scratch}

/-- A parameter that reads the form leaves the disk that the form was read to. -/
theorem disk_of_bind {call call' : CallState σ} {b : BoundCall σ} {d' : Disk} {p : Parameter}
    {form : FormData} (hp : p ∈ sc.model.params) (hreads : p.readsForm sc.request = true)
    (hfresh : freshForm sc d = .ok (form, d₁)) (hb : bind sc call d = (.ok b, call', d')) :
    d' = d₁ := by
  have hbound := form_of_bind call hb
  rw [if_pos (List.any_eq_true.2 ⟨p, hp, hreads⟩)] at hbound
  obtain ⟨form', hfresh', -⟩ := hbound
  cases hfresh.symm.trans hfresh'
  rfl

/-- The fields of a form are delivered: a multipart body within the limits, whose texts are UTF-8
and whose uploads can be stored, has files with the data of its uploads, and a parameter for a
field is bound to them or to what its converter makes of the texts, alone or among others. -/
theorem bind_formData (hform : sc.request.SendsForm sc.config.formLimits parts)
    (hstored : Scratch.storeAll (Part.uploads parts) {} d = (.ok files, s, d₁)) (key : String) :
    ∃ uploads : List (Part × FormFile),
      uploads.map Prod.fst = (parts.filter fun q => q.name = key ∧ q.isFile = true) ∧
      (∀ u ∈ uploads, d₁.read? u.2.path = some u.1.data ∧ u.2.info = u.1.fileInfo) ∧
      ∀ p c, p.binding = .keyed .formData key c → ∃ result,
        p.Delivers c sc.snapshot.converters uploads
          (parts.filter fun q => q.name = key ∧ q.isFile = false) result ∧
        (∀ call, match result with
          | .ok arg => ∃ b call', bind (sc.alone p) call d = (.ok b, call', d₁) ∧
              b.args = .ofList [arg]
          | .error cause => (bind (sc.alone p) call d).1 =
              .error ⟨sc.model.name, sc.request.line, cause⟩) ∧
        ∀ i call b call' d', sc.model.params[i]? = some p → sc.model.methodContext = none →
          bind sc call d = (.ok b, call', d') →
            d' = d₁ ∧ ∃ arg, result = .ok arg ∧ b.args.get? i = some arg := by
  obtain ⟨taken, rfl, hextract, htaken⟩ := FormData.extract_of_sendsForm hform hstored
  refine ⟨_, FormData.map_fst_uploadsOf_filter htaken key, fun u hu => ?_, fun p c hbinding => ?_⟩
  · have hu := FormData.storedAs_of_mem_uploadsOf htaken u (List.mem_filter.1 hu).1
    exact ⟨hu.content, hu.info_eq⟩
  · have hfresh : freshForm sc d = .ok (.takeOver {} taken, d₁) := by rw [freshForm, hextract]
    have hp : p.source ≠ .customContext := by
      rw [Parameter.source, hbinding]
      rintro ⟨⟩
    have hreads : p.readsForm sc.request = true := by rw [Parameter.readsForm, hbinding]
    have hargument (call : CallState σ) : argument sc call d p =
        p.bindForm c sc.snapshot.converters true key (.takeOver {} taken) d₁ := by
      rw [argument, bindParameter, hbinding]
      dsimp only
      rw [bindKeyed, fst_withForm (.unread rfl rfl rfl), hfresh]
      rfl
    refine ⟨_, p.delivers_bindForm c sc.snapshot.converters htaken key, fun call => ?_,
      fun i call b call' d' hi hcontext hb => ?_⟩
    · rw [← hargument call]
      cases hresult : argument sc call d p with
      | error cause => exact bind_alone_of_error call hp hresult
      | ok arg =>
          obtain ⟨b, hb, hargs⟩ := bind_alone_of_ok call hp hresult
          have hbind : bind (sc.alone p) call d = (.ok b, (bind (sc.alone p) call d).2) :=
            Prod.ext hb rfl
          have hcontext : (sc.alone p).model.methodContext = none := rfl
          have hmem : p ∈ (sc.alone p).model.params := List.mem_cons_self
          have hdisk := disk_of_bind hmem hreads hfresh hbind
          exact ⟨b, _, hbind.trans (by rw [← hdisk]), hargs⟩
    · obtain ⟨arg, harg, hresult⟩ := argument_of_bind call hcontext hb hi hp
      rw [hargument call] at hresult
      exact ⟨disk_of_bind (List.mem_of_getElem? hi) hreads hfresh hb, arg, hresult, harg⟩

/-- The part in the body of `sendsForm`. -/
def sentPart : Part where
  name := "f"
  fileName := some "a"
  contentType := MediaType.plainText
  headers := [("Content-Disposition", "form-data; name=\"f\"; filename=\"a\"")]
  data := Utf8.encode "hi"

theorem bind_formData_upload :
    sendsForm.request.SendsForm sendsForm.config.formLimits [sentPart] ∧
      ∃ files s d₁, Scratch.storeAll (Part.uploads [sentPart]) {} {} = (.ok files, s, d₁) ∧
        ∃ b call', bind (sendsForm.alone { binding := .keyed .formData "f" .byteStream })
            ⟨(), [], {}⟩ {} = (.ok b, call', d₁) ∧
          b.args = .ofList [some (.stream (Utf8.encode "hi"))] := by
  have hform : sendsForm.request.SendsForm sendsForm.config.formLimits [sentPart] := by
    refine ⟨by decide, ?_, by decide +kernel, ?_⟩
    · rintro limit ⟨⟩
    · intro q hq hfile
      rw [List.mem_singleton.1 hq] at hfile
      cases hfile
  have hisOk : (Scratch.storeAll (Part.uploads [sentPart]) {} {}).1.isOk = true := by
    decide +kernel
  rcases hstored : Scratch.storeAll (Part.uploads [sentPart]) {} {} with ⟨e | files, s, d₁⟩
  · rw [hstored] at hisOk
    cases hisOk
  · obtain ⟨uploads, huploads, -, hbound⟩ := bind_formData hform hstored "f"
    obtain ⟨u, rest, rfl, hu, -⟩ := List.map_eq_cons_iff.1 huploads
    obtain ⟨result, hdelivers, halone, -⟩ :=
      hbound { binding := .keyed .formData "f" .byteStream } .byteStream rfl
    obtain rfl := hdelivers.byteStream u rest rfl rfl
    obtain ⟨b, call', hbind, hargs⟩ := halone ⟨(), [], {}⟩
    refine ⟨hform, files, s, d₁, rfl, b, call', hbind, ?_⟩
    rw [hargs, hu]
    rfl

end Binding

end ServiceDispatch
