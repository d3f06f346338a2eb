import ServiceDispatch.Proofs.Binding.MixedFields
import ServiceDispatch.Proofs.Text.Cut

/-!
# Url-encoded fields

A url-encoded text means the same wherever a request carries it. A parameter of the query is made of
what stands behind the first question mark, a form field of the body, which goes by way of a form
with uploads and content types; but a url-encoded form has neither, so in both cases it is the texts
under the key that are converted, or the default where there are none.
-/

namespace ServiceDispatch

theorem Request.query?_eq_some {r : Request} {path q : String} (hpath : '?' ∉ path.toList)
    (huri : r.uri = path ++ "?" ++ q) : r.query? = some q := by
  have hcut : Text.cutAt? '?' r.uri = some (path, q) :=
    Text.cutAt?_eq_some (by simp [huri]) hpath
  rw [query?, hcut, Option.map_some]

theorem FormParams.files_ofUrlEncoded (name : String) (body : Bytes) :
    files name (ofUrlEncoded body) = [] := by
  rw [files, get_ofUrlEncoded, List.filterMap_map, List.filterMap_eq_nil_iff]
  exact fun _ _ => rfl

theorem FormData.extract_of_formUrlEncoded {r : Request}
    (hmedia : r.mediaType? = some MediaType.formUrlEncoded) {limits : FormLimits}
    (hlimits : limits.maxBytes = none) (s : Scratch) (d : Disk) :
    extract r limits s d = (.ok { params := FormParams.ofUrlEncoded r.body }, s, d) := by
  obtain ⟨contentType, hcontent, htype⟩ := Option.map_eq_some_iff.1 hmedia
  rw [extract, hcontent]
  simp only [htype, excess?, hlimits]
  rfl

theorem Parameter.bindForm_ofUrlEncoded (p : Parameter) (c : Converter) (t : ConverterTable)
    (asDocument : Bool) (key : String) (body : Bytes) (d : Disk) :
    p.bindForm c t asDocument key { params := FormParams.ofUrlEncoded body } d =
      p.convertFound c (FormParams.texts key (FormParams.ofUrlEncoded body)) := by
  rw [bindForm, FormParams.files_ofUrlEncoded]
  -- without a content type for the field nothing is decoded as a document
  cases asDocument <;> rfl

namespace Binding

variable {σ : Type} {sc sc' : Scope σ} {d d' : Disk} {p : Parameter} {key : String}
  {c : Converter}

theorem binds_query (hp : p.binding = .keyed .query key c) :
    sc.Binds d p (p.convertFound c (FormParams.texts key sc.request.queryParams)) := by
  refine Scope.binds_of_argument (Parameter.source_ne_of_keyed hp) fun call => ?_
  rw [argument, bindParameter, hp]
  rfl

theorem freshForm_of_formUrlEncoded
    (hmedia : sc.request.mediaType? = some MediaType.formUrlEncoded)
    (hlimit : sc.config.maxFormBytes = none) (d : Disk) :
    freshForm sc d = .ok ({ params := FormParams.ofUrlEncoded sc.request.body }, d) := by
  rw [freshForm, FormData.extract_of_formUrlEncoded hmedia hlimit]

/-- A url-encoded text that one request has for its query and another for its body gives the same
argument or the same failure to a parameter of the query of the one and to a field of the form of
the other, whether or not the field may be a document: what is made of the texts under the key. -/
theorem bind_url_encoded {path q : String} (hpath : '?' ∉ path.toList)
    (huri : sc.request.uri = path ++ "?" ++ q)
    (hmedia : sc'.request.mediaType? = some MediaType.formUrlEncoded)
    (hbody : sc'.request.body = Utf8.encode q) (hlimit : sc'.config.maxFormBytes = none)
    (p : Parameter) (key : String) (c : Converter) (d d' : Disk) :
    let values := ((UrlEncoded.parse (Utf8.encode q)).filter fun e => e.1 = key).map Prod.snd
    let bound (source : KeyedSource) : Parameter := { p with binding := .keyed source key c }
    ∃ result, result = (bound .query).convertFound c values ∧
      sc.Binds d (bound .query) result ∧ sc'.Binds d' (bound .form) result ∧
      sc'.Binds d' (bound .formData) result := by
  intro values bound
  have hvalues : FormParams.texts key (FormParams.ofUrlEncoded (Utf8.encode q)) = values :=
    FormParams.texts_ofUrlEncoded key (Utf8.encode q)
  have hquery : FormParams.texts key sc.request.queryParams = values := by
    rw [Request.queryParams, Request.query?_eq_some hpath huri, Option.getD_some, hvalues]
  have hform (source : KeyedSource) (asDocument : Bool) :
      (bound source).bindForm c sc'.snapshot.converters asDocument key
        { params := FormParams.ofUrlEncoded sc'.request.body } d' =
        (bound .query).convertFound c values := by
    rw [Parameter.bindForm_ofUrlEncoded, hbody, hvalues]
    rfl
  have hfresh := freshForm_of_formUrlEncoded hmedia hlimit d'
  refine ⟨_, rfl, ?_, ?_, ?_⟩
  · rw [← hquery]
    exact binds_query rfl
  · rw [← hform .form false]
    exact binds_bindForm false rfl hfresh
  · rw [← hform .formData true]
    exact binds_bindForm true rfl hfresh

/-- A request with a query. -/
def sendsQuery : Scope Unit :=
  { sendsForm with request := { method := "GET", uri := "/p?a=1&b&a=%41+%zz?&a" } }

/-- A request with the same text for its body. -/
def sendsEncoded : Scope Unit :=
  { sendsForm with
    request :=
      { method := "POST", uri := "/p",
        headers :=
          [("content-type", [Utf8.encode "application/x-www-form-urlencoded; charset=utf-8"])],
        buffers := [Utf8.encode "a=1&b&a=%41", Utf8.encode "+%zz?&a"] } }

theorem bind_url_encoded_list :
    let texts (source : KeyedSource) : Parameter := { binding := .keyed source "a" (.list .text) }
    let sent : Arguments := .ofList [some (.list .text [.text "1", .text "A %zz?", .text ""])]
    (∃ b, (bind (sendsQuery.alone (texts .query)) ⟨(), [], {}⟩ {}).1 = .ok b ∧ b.args = sent) ∧
      (∃ b, (bind (sendsEncoded.alone (texts .form)) ⟨(), [], {}⟩ {}).1 = .ok b ∧ b.args = sent) ∧
      ∃ b, (bind (sendsEncoded.alone (texts .formData)) ⟨(), [], {}⟩ {}).1 = .ok b ∧
        b.args = sent := by
  intro texts sent
  have huri : sendsQuery.request.uri = "/p" ++ "?" ++ "a=1&b&a=%41+%zz?&a" := by decide
  have hmedia : sendsEncoded.request.mediaType? = some MediaType.formUrlEncoded := by
    decide +kernel
  have hbody : sendsEncoded.request.body = Utf8.encode "a=1&b&a=%41+%zz?&a" := by decide +kernel
  obtain ⟨result, hresult, hquery, hform, hformData⟩ :=
    bind_url_encoded (by decide) huri hmedia hbody rfl (texts .query) "a" (.list .text) {} {}
  have hsent : result = .ok (some (.list .text [.text "1", .text "A %zz?", .text ""])) := by
    have hvalues : ((UrlEncoded.parse (Utf8.encode "a=1&b&a=%41+%zz?&a")).filter
        fun e => e.1 = "a").map Prod.snd = ["1", "A %zz?", ""] := by decide +kernel
    rw [hresult, hvalues]
    rfl
  subst hsent
  exact ⟨hquery.alone _, hform.alone _, hformData.alone _⟩

end Binding

end ServiceDispatch
