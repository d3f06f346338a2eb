import ServiceDispatch.Proofs.Form.Extract
import ServiceDispatch.Proofs.Form.PartLayout

/-!
# The limits of a form

A multipart body can be read at once, by `FormData.extract`, or part by part, by the reader of a
`MultipartForm`. Both take the boundary from the same content type and walk the same results, so
both keep to the limit on parts: `extract_of_multipart` writes the first way as the second with
the uploads stored on the way.

The limit on bytes stands in front of the first way only. A `MultipartForm` is refused for want of
a boundary and for nothing else, however long the body is.
-/

namespace ServiceDispatch

namespace FormData

theorem excess?_of_lt {limits : FormLimits} {limit actual : Nat}
    (hlimit : limits.maxBytes = some limit) (h : limit < actual) :
    excess? limits actual = some (.tooLarge limit actual) := by
  rw [excess?, hlimit]
  exact if_pos h

theorem excess?_eq_none_iff {limits : FormLimits} {actual : Nat} :
    excess? limits actual = none ↔ ∀ limit, limits.maxBytes = some limit → actual ≤ limit := by
  rw [excess?]
  cases limits.maxBytes with
  | none => simp
  | some limit => simp

/-- The form of a multipart request is what the reader of its parts gives, taken over. -/
theorem extract_of_multipart {r : Request} (h : r.mediaType? = some MediaType.multipartForm)
    (limits : FormLimits) (s : Scratch) (d : Disk) :
    extract r limits s d =
      match excess? limits r.body.length with
      | some e => (.error e, s, d)
      | none =>
        match MultipartForm.ofRequest r limits.maxParts with
        | .error e => (.error e, s, d)
        | .ok form => collect {} s d form.results := by
  obtain ⟨contentType, hct, htype⟩ := Option.map_eq_some_iff.1 h
  have hform : ¬ (MediaType.multipartForm ≠ MediaType.multipartForm ∧
      MediaType.multipartForm ≠ MediaType.formUrlEncoded) := fun h => h.1 rfl
  have hmultipart : MediaType.multipartForm ≠ MediaType.formUrlEncoded := by decide
  rw [extract, hct, MultipartForm.ofRequest_of_multipart hct htype, Request.bodyLength_eq]
  dsimp only
  rw [htype, if_neg hform]
  cases excess? limits r.body.length with
  | some e => rfl
  | none =>
      dsimp only
      rw [if_neg hmultipart]
      cases MultipartForm.boundaryOf contentType with
      | error e => rfl
      | ok boundary => rfl

/-- A multipart form that was read is all parts of its body taken over, the uploads stored. -/
theorem extract_eq_ok_of_multipart {r : Request} {limits : FormLimits} {s s' : Scratch}
    {d d' : Disk} {data : FormData} (hmedia : r.mediaType? = some MediaType.multipartForm)
    (h : extract r limits s d = (.ok data, s', d')) :
    ∃ form taken, MultipartForm.ofRequest r limits.maxParts = .ok form ∧
      form.results = (taken.map Prod.fst).map .ok ∧ data = takeOver {} taken ∧
      (∀ t ∈ taken, t.2.Represents d' t.1) ∧ Tracks taken s s' d := by
  rw [extract_of_multipart hmedia] at h
  split at h
  · cases h
  · split at h
    · cases h
    · next form hform =>
      obtain ⟨taken, hresults, hdata, htaken, -, htracks⟩ := collect_eq_ok h
      refine ⟨form, taken, hform, ?_, hdata, htaken, htracks⟩
      rw [hresults, List.map_map]
      rfl

/-- A multipart body over the limit on bytes is not read as a form, and one within it only if the
reader of its parts comes to the end without a mistake, after no more parts than allowed. But the
reader itself knows no limit on bytes: only a boundary can be missing. -/
theorem keeps_limits {r : Request} (h : r.mediaType? = some MediaType.multipartForm)
    (limits : FormLimits) (s : Scratch) (d : Disk) :
    (∀ limit, limits.maxBytes = some limit → limit < r.body.length →
        extract r limits s d = (.error (.tooLarge limit r.body.length), s, d)) ∧
      ((∀ limit, limits.maxBytes = some limit → r.body.length ≤ limit) →
        ∀ f s' d', extract r limits s d = (.ok f, s', d') →
          ∃ form, ∃ parts : List Part, MultipartForm.ofRequest r limits.maxParts = .ok form ∧
            form.results = parts.map .ok ∧ parts.length ≤ limits.maxParts) ∧
      FailsWith (fun e => e = .missingBoundary) (MultipartForm.ofRequest r limits.maxParts) := by
  obtain ⟨contentType, hct, htype⟩ := Option.map_eq_some_iff.1 h
  have hextract := extract_of_multipart h limits s d
  refine ⟨fun limit hlimit hlong => ?_, fun _ f s' d' hok => ?_, ?_⟩
  · rw [hextract, excess?_of_lt hlimit hlong]
  · obtain ⟨form, taken, hform, hparts, -⟩ := extract_eq_ok_of_multipart h hok
    have hlimit : form.limit = limits.maxParts := by
      rw [MultipartForm.ofRequest_of_multipart hct htype] at hform
      obtain ⟨boundary, -, rfl⟩ := map_eq_ok_iff.1 hform
      rfl
    obtain ⟨ts, -, hle, hall⟩ :=
      MultipartForm.parse_eq_ok_iff.1 (MultipartForm.parse_eq_ok_iff_results.2 hparts)
    exact ⟨form, _, hform, hparts, hlimit ▸ hall.length_eq ▸ hle⟩
  · rw [MultipartForm.ofRequest_of_multipart hct htype]
    exact MultipartForm.boundaryOf_error.map _

/-- A request with a form of no parts, in five bytes. -/
def sendsNothing : Request where
  method := "POST"
  uri := "/"
  headers := [("content-type", [Utf8.encode "multipart/form-data; boundary=b"])]
  buffers := [Utf8.encode "--b", Utf8.encode "--"]

theorem keeps_limits_no_parts :
    sendsNothing.mediaType? = some MediaType.multipartForm ∧
      extract sendsNothing { maxBytes := some 4 } {} {} = (.error (.tooLarge 4 5), {}, {}) ∧
      extract sendsNothing { maxBytes := some 5 } {} {} = (.ok {}, {}, {}) ∧
      ∃ form, ∃ parts : List Part, MultipartForm.ofRequest sendsNothing 1000 = .ok form ∧
        form.results = parts.map .ok ∧ parts.length ≤ 1000 := by
  have htype : sendsNothing.mediaType? = some MediaType.multipartForm := by decide
  have hlength : sendsNothing.body.length = 5 := by decide
  have hread : extract sendsNothing { maxBytes := some 5 } {} {} = (.ok {}, {}, {}) := by
    decide +kernel
  obtain ⟨hlong, -, -⟩ := keeps_limits htype { maxBytes := some 4 } {} {}
  obtain ⟨-, hwithin, -⟩ := keeps_limits htype { maxBytes := some 5 } {} {}
  refine ⟨htype, ?_, hread, hwithin ?_ _ _ _ hread⟩
  · rw [hlong 4 rfl (by decide), hlength]
  · rintro limit ⟨⟩
    exact hlength.le

/-- The reader takes on the same body under the limit that it is over. -/
theorem ofRequest_over_limit :
    let limits : FormLimits := { maxBytes := some 4 }
    sendsNothing.mediaType? = some MediaType.multipartForm ∧ 4 < sendsNothing.body.length ∧
      (extract sendsNothing limits {} {}).1 = .error (.tooLarge 4 5) ∧
      MultipartForm.ofRequest sendsNothing limits.maxParts =
        .ok ⟨"b", limits.maxParts, sendsNothing.body⟩ := by
  decide +kernel

end FormData

end ServiceDispatch
