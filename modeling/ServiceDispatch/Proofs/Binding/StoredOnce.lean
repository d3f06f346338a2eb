import ServiceDispatch.Proofs.Binding.Independence
import ServiceDispatch.Proofs.Form.Limits

/-!
# Uploads are stored once

The first parameter that needs the form has it read, and all others are bound from what was read
then. So however many parameters there are, the files that a call tracks are those of one reading:
one for each file part of the body, in order (`FormData.Tracks`). A file that such a parameter is
bound to comes from the form, and so is one of them.
-/

namespace ServiceDispatch

namespace Binding

variable {σ : Type} {sc : Scope σ} {d d' : Disk} {p : Parameter} {call call' : CallState σ}
  {b : BoundCall σ}

/-- A parameter that reads the form is bound to files of the form, or to those that the application
has put into defaults of the parameter's type. -/
theorem holds_of_argument (hreads : p.readsForm sc.request = true) {data : FormData}
    (hfresh : freshForm sc d = .ok (data, d')) {arg : Arg} (harg : argument sc call d p = .ok arg)
    {f : FormFile} (hf : arg.Reaches f) :
    data.params.Holds f ∨ ∃ c, p.converter? = some c ∧ c.Supplies f := by
  obtain ⟨binding, default, qualifier⟩ := p
  have hunread : ({ call, disk := d } : Progress σ).Consistent sc d := .unread rfl rfl rfl
  have hkeyed (source : KeyedSource) (key : String) (c : Converter) (asDocument : Bool)
      (hbound : (withForm sc { call, disk := d } (Parameter.bindForm
        ⟨.keyed source key c, default, qualifier⟩ c sc.snapshot.converters asDocument key)).1 =
          .ok arg) : data.params.Holds f ∨ c.Supplies f := by
    rw [fst_withForm hunread, hfresh] at hbound
    obtain ⟨v, rfl, hv⟩ := Parameter.makes_of_bindForm hbound
    obtain ⟨w, ⟨⟩, hw⟩ := hf
    rcases hv with hv | hv
    · exact .inr (hv.supplies hw)
    · exact .inl (FormParams.holds_of_mem_files (Converter.mem_of_convertFiles hv hw))
  cases binding with
  | keyed source key c =>
      cases source with
      | form => exact (hkeyed _ key c false harg).imp_right fun h => ⟨c, rfl, h⟩
      | formData => exact (hkeyed _ key c true harg).imp_right fun h => ⟨c, rfl, h⟩
      | _ => cases hreads
  | context target =>
      cases target with
      | formParams =>
          have hform : sc.request.isForm = true := hreads
          have hbound : bindParameter sc ⟨.context .formParams, default, qualifier⟩
              { call, disk := d } = withForm sc { call, disk := d }
                fun form _ => .ok (some (.formParams form.params)) := if_pos hform
          rw [argument, hbound, fst_withForm hunread, hfresh] at harg
          cases harg
          obtain ⟨w, ⟨⟩, hw⟩ := hf
          cases hw with
          | formParams holds => exact .inl holds
      | _ => cases hreads
  | _ => cases hreads

theorem source_ne_of_readsForm (h : p.readsForm sc.request = true) : p.source ≠ .customContext := by
  obtain ⟨binding, default, qualifier⟩ := p
  rintro hsource
  cases binding with
  | customContext => cases h
  | _ => cases hsource

/-- Once a parameter has read the form of a multipart request, all parts of the body are taken over
in order, and their uploads are tracked. -/
theorem exists_taken_of_bind (hmedia : sc.request.mediaType? = some MediaType.multipartForm)
    (hb : bind sc call d = (.ok b, call', d'))
    (hreads : ∃ p ∈ sc.model.params, p.readsForm sc.request = true) :
    ∃ taken : List (Part × FormValue),
      (MultipartForm.ofRequest sc.request sc.config.maxFormParts).bind MultipartForm.parse =
        .ok (taken.map Prod.fst) ∧
      (∀ t ∈ taken, t.2.Represents d' t.1) ∧
      freshForm sc d = .ok (FormData.takeOver {} taken, d') ∧
      b.form = some (FormData.takeOver {} taken).params ∧
      FormData.Tracks taken {} b.scratch d := by
  obtain ⟨call₀, args, st, hbound, -, hform, -, hscratch, rfl⟩ := exists_bindParameters call hb
  obtain ⟨hst, hsome, -⟩ := of_bindParameters call (fun _ hp => hp) (.unread rfl rfl rfl) hbound
  rw [List.any_eq_true.2 hreads, Bool.or_true] at hsome
  obtain ⟨data, hdata⟩ := Option.isSome_iff_exists.1 hsome
  have hfresh := hst.freshForm_eq hdata
  cases hst with
  | unread hnone => cases hnone.symm.trans hdata
  | read hread extracted =>
      cases hread.symm.trans hdata
      obtain ⟨form, taken, hopen, hresults, rfl, htaken, htracks⟩ :=
        FormData.extract_eq_ok_of_multipart hmedia extracted
      have hparse := MultipartForm.parse_eq_ok_iff_results.2 hresults
      refine ⟨taken, bind_eq_ok_iff.2 ⟨form, hopen, hparse⟩, htaken, hfresh, ?_, hscratch ▸ htracks⟩
      rw [hform, hdata, Option.map_some]

/-- Binding that no parameter makes read the form leaves the disk alone. -/
theorem unread_of_bind (hb : bind sc call d = (.ok b, call', d'))
    (hreads : ∀ p ∈ sc.model.params, p.readsForm sc.request = false) :
    d' = d ∧ b.scratch = {} ∧ b.form = none := by
  obtain ⟨call₀, args, st, hbound, -, hform, -, hscratch, rfl⟩ := exists_bindParameters call hb
  obtain ⟨hst, hsome, -⟩ := of_bindParameters call (fun _ hp => hp) (.unread rfl rfl rfl) hbound
  have hnone : (sc.model.params.any fun p => p.readsForm sc.request) = false := by
    simpa using hreads
  rw [hnone, Bool.or_false] at hsome
  rw [hform, hscratch]
  cases hst with
  | unread hform scratch disk => exact ⟨disk, scratch, by rw [hform, Option.map_none]⟩
  | read hread =>
      rw [hread] at hsome
      cases hsome

/-- Each upload of a multipart request is stored once. If one parameter or more read the form, the
call tracks one file for each file part of the body, in order, each of its own, and has the form of
all parts; and the files that such parameters are bound to are tracked, but for those that the
application has put into defaults. A directive for the whole method puts other arguments into the
slots of the parameters, and changes nothing of this. If no parameter reads the form, the disk is
left alone and the call has no form. -/
theorem bind_stores_once (hmedia : sc.request.mediaType? = some MediaType.multipartForm)
    (hb : bind sc call d = (.ok b, call', d')) :
    ((∃ p ∈ sc.model.params, p.readsForm sc.request = true) →
      ∃ taken : List (Part × FormValue),
        (MultipartForm.ofRequest sc.request sc.config.maxFormParts).bind MultipartForm.parse =
          .ok (taken.map Prod.fst) ∧
        (∀ t ∈ taken, t.2.Represents d' t.1) ∧
        b.form = some (FormData.takeOver {} taken).params ∧
        (FormData.uploadsOf taken).map Prod.fst = (taken.map Prod.fst).filter Part.isFile ∧
        b.scratch.files = (FormData.uploadsOf taken).map (fun u => u.2.path) ∧
        b.scratch.files.Nodup ∧
        ∀ i p, sc.model.params[i]? = some p → p.readsForm sc.request = true →
          ∃ arg, argument sc call d p = .ok arg ∧
            (sc.model.methodContext = none → b.args.get? i = some arg) ∧
            ∀ f, arg.Reaches f →
              f.path ∈ b.scratch.files ∨ ∃ c, p.converter? = some c ∧ c.Supplies f) ∧
      ((∀ p ∈ sc.model.params, p.readsForm sc.request = false) →
        d' = d ∧ b.scratch = {} ∧ b.form = none) := by
  refine ⟨fun hreads => ?_, unread_of_bind hb⟩
  obtain ⟨taken, hparse, htaken, hfresh, hform, htracks⟩ := exists_taken_of_bind hmedia hb hreads
  have hfiles : b.scratch.files = (FormData.uploadsOf taken).map (fun u => u.2.path) := by
    rw [htracks.files]
    rfl
  refine ⟨taken, hparse, htaken, hform, FormData.map_fst_uploadsOf htaken, hfiles,
    hfiles ▸ htracks.nodup, ?_⟩
  intro i p hi hp
  obtain ⟨arg, harg, hslot⟩ := exists_argument_of_bind call hb hi (source_ne_of_readsForm hp)
  refine ⟨arg, harg, hslot, fun f hf => ?_⟩
  refine (holds_of_argument hp hfresh harg hf).imp_left fun hholds => ?_
  obtain ⟨u, hu, rfl⟩ := FormData.exists_mem_uploadsOf hholds
  rw [hfiles]
  exact List.mem_map_of_mem hu

/-- Three parameters of one upload. -/
def threeOfOne : List Parameter :=
  [{ binding := .keyed .formData "f" .formFile }, { binding := .keyed .form "f" .formFiles },
    { binding := .context .formParams }]

theorem bind_stores_once_three :
    (∃ b call' d', bind (sendsForm.taking threeOfOne) ⟨(), [], {}⟩ {} = (.ok b, call', d') ∧
      b.scratch.files = [⟨0, "a"⟩] ∧ b.scratch.files.Nodup ∧
      ∀ i p arg f, threeOfOne[i]? = some p → b.args.get? i = some arg → arg.Reaches f →
        f.path ∈ b.scratch.files) ∧
      ∃ b call' d', bind (sendsForm.taking []) ⟨(), [], {}⟩ {} = (.ok b, call', d') ∧ d' = {} := by
  have hmedia (ps : List Parameter) :
      (sendsForm.taking ps).request.mediaType? = some MediaType.multipartForm := by
    change sendsForm.request.mediaType? = _
    decide
  constructor
  · have hfiles : (bind (sendsForm.taking threeOfOne) ⟨(), [], {}⟩ {}).1.map
        (fun b => b.scratch.files) = .ok [⟨0, "a"⟩] := by decide +kernel
    obtain ⟨b, hb, hfiles⟩ := map_eq_ok_iff.1 hfiles
    have hbind : bind (sendsForm.taking threeOfOne) ⟨(), [], {}⟩ {} = (.ok b, _, _) :=
      Prod.ext hb rfl
    obtain ⟨hreads, -⟩ := bind_stores_once (hmedia _) hbind
    obtain ⟨taken, -, -, -, -, -, hnodup, hargs⟩ := hreads ⟨_, List.mem_cons_self, rfl⟩
    refine ⟨b, _, _, hbind, hfiles, hnodup, fun i p arg f hi hget hf => ?_⟩
    have hp : p ∈ threeOfOne := List.mem_of_getElem? hi
    have hreads : ∀ p ∈ threeOfOne, p.readsForm sendsForm.request = true := by decide
    have hbean : ∀ p ∈ threeOfOne, ∀ s, p.converter? ≠ some (.bean s) := by
      simp [threeOfOne, Parameter.converter?]
    obtain ⟨arg', -, hslot, htracked⟩ := hargs i p hi (hreads p hp)
    cases (hslot rfl).symm.trans hget
    refine (htracked f hf).resolve_right ?_
    rintro ⟨c, hc, s, rfl, -⟩
    exact hbean p hp s hc
  · obtain ⟨-, hleft⟩ := bind_stores_once (hmedia [])
      (rfl : bind (sendsForm.taking []) ⟨(), [], {}⟩ {} = (.ok _, _, _))
    exact ⟨_, _, _, rfl, (hleft (by rintro p ⟨⟩)).1⟩

end Binding

end ServiceDispatch
