import ServiceDispatch.Media.Converter
import ServiceDispatch.Proofs.Data.Table
import ServiceDispatch.Proofs.Form.Extract
import ServiceDispatch.Proofs.Form.UrlEncoded

/-!
# Forms as value trees

A url-encoded body is read in two ways, as form parameters and as a value tree. The tree is made by
changing a text into a list at its second value and adding to the list from the third on; what
comes of it is said by `ofTexts?` at once for all the values of a name. So the tree tells the same
of a form as its parameters do (`decode_form_texts`). The other way round, an object whose members
are texts or lists of several texts is written with a pair for each text, and gathering these pairs
gives the object back (`decode_encode_form`).
-/

namespace ServiceDispatch.MediaConverter

/-- What a name with the given values stands for: one text, or the list of several. -/
def ofTexts? : List String → Option Json
  | [] => none
  | [s] => some (.text s)
  | ss => some (.list (ss.map .text))

theorem ofTexts?_append_singleton (ss : List String) (s : String) :
    ofTexts? (ss ++ [s]) = some (addValue s (ofTexts? ss)) := by
  match ss with
  | [] => rfl
  | [_] => rfl
  | _ :: _ :: _ => simp [ofTexts?, addValue]

theorem foldl_addValue (ss : List String) :
    ss.foldl (fun j s => some (addValue s j)) none = ofTexts? ss := by
  induction ss using List.reverseRecOn with
  | nil => rfl
  | append_singleton ss s ih =>
      rw [List.foldl_append, ih, List.foldl_cons, List.foldl_nil, ofTexts?_append_singleton]

/-! ### Gathered pairs -/

theorem get?_gather (name : String) (pairs : List (String × String)) :
    Table.get? name (gather pairs) =
      ofTexts? ((pairs.filter fun e => e.1 = name).map Prod.snd) := by
  rw [gather, Table.get?_foldl_alter Prod.fst fun e => addValue e.2, Table.get?_nil,
    ← foldl_addValue, List.foldl_map]

theorem ordered_gather (pairs : List (String × String)) : Table.Ordered (gather pairs) :=
  Table.ordered_foldl_alter Prod.fst (fun e => addValue e.2) pairs Table.ordered_nil

theorem keys_gather (pairs : List (String × String)) :
    Table.keys (gather pairs) = Table.keys (FormParams.ofPairs pairs) :=
  Table.keys_foldl_alter_congr Prod.fst (fun e => addValue e.2)
    (fun e vs => vs.getD [] ++ [FormValue.text e.2]) pairs rfl

theorem decode_form (body : Bytes) :
    form.decode body = .ok (.object (gather (UrlEncoded.parse body))) := rfl

/-- The tree of a url-encoded body and its parameters are the same multimap: the tree is an object
with the names of the parameters, all of whose values are texts, and a name stands in it for its
texts in the order of the body, a single one for itself and several as a list. -/
theorem decode_form_texts (body : Bytes) :
    let params := FormParams.ofUrlEncoded body
    ∃ members, form.decode body = .ok (.object members) ∧
      Table.Ordered members ∧ Table.keys members = Table.keys params ∧
      ∀ name, Table.get? name members = ofTexts? (params.texts name) ∧
        params.get name = (params.texts name).map .text ∧
        params.texts name =
          ((UrlEncoded.parse body).filter fun e => e.1 = name).map Prod.snd := by
  intro params
  refine ⟨_, decode_form body, ordered_gather _, keys_gather _, fun name => ?_⟩
  have htexts := FormParams.texts_ofUrlEncoded name body
  refine ⟨?_, ?_, htexts⟩
  · rw [get?_gather, htexts]
  · rw [htexts]
    exact FormParams.get_ofUrlEncoded name body

/-! ### Objects that are forms -/

/-- The value of a name in a form: a text, or a list of at least two. -/
inductive IsFormValue : Json → Prop
  | text (s : String) : IsFormValue (.text s)
  | list {ss : List String} (several : 2 ≤ ss.length) : IsFormValue (.list (ss.map .text))

theorem ofTexts?_of_two_le {ss : List String} (h : 2 ≤ ss.length) :
    ofTexts? ss = some (.list (ss.map .text)) := by
  match ss, h with
  | _ :: _ :: _, _ => rfl

theorem isFormValue_iff {j : Json} : IsFormValue j ↔ ∃ ss, ofTexts? ss = some j := by
  constructor
  · intro h
    cases h with
    | text s => exact ⟨[s], rfl⟩
    | list several => exact ⟨_, ofTexts?_of_two_le several⟩
  · rintro ⟨ss, h⟩
    match ss, h with
    | [s], rfl => exact .text s
    | s :: s' :: ss, rfl => exact .list (by simp)

/-- An object of such values. -/
inductive IsForm : Json → Prop
  | object {members : Table Json} (ordered : Table.Ordered members)
      (values : ∀ m ∈ members, IsFormValue m.2) : IsForm (.object members)

theorem isForm_gather (pairs : List (String × String)) : IsForm (.object (gather pairs)) := by
  refine .object (ordered_gather pairs) fun m hm => isFormValue_iff.2 ?_
  have hget := Table.get?_of_mem (ordered_gather pairs) hm
  rw [get?_gather] at hget
  exact ⟨_, hget⟩

theorem memberPairs_of_ofTexts? {ss : List String} {j : Json} (h : ofTexts? ss = some j)
    (name : String) : memberPairs (name, j) = ss.map (Prod.mk name) := by
  match ss, h with
  | [s], rfl => rfl
  | s :: s' :: ss, rfl =>
      simp only [memberPairs, List.map_map]
      rfl

theorem fst_of_mem_memberPairs {m : String × Json} {p : String × String}
    (h : p ∈ memberPairs m) : p.1 = m.1 := by
  rw [memberPairs] at h
  split at h
  · obtain ⟨v, -, rfl⟩ := List.mem_map.1 h
    rfl
  · rw [List.mem_singleton.1 h]

theorem gather_flatMap_memberPairs {members : Table Json} (hordered : Table.Ordered members)
    (hvalues : ∀ m ∈ members, IsFormValue m.2) :
    gather (members.flatMap memberPairs) = members := by
  refine Table.ext (ordered_gather _) hordered fun name => ?_
  rw [get?_gather, Table.filter_flatMap Prod.fst memberPairs
    (fun m p hp => fst_of_mem_memberPairs hp) name hordered]
  cases hget : Table.get? name members with
  | none => rfl
  | some j =>
      obtain ⟨ss, hss⟩ := isFormValue_iff.1 (hvalues _ (Table.mem_of_get? hget))
      rw [Option.map_some, Option.getD_some, memberPairs_of_ofTexts? hss, List.map_map, ← hss]
      exact congrArg ofTexts? (List.map_id ss)

theorem IsForm.reads_back {j : Json} (h : IsForm j) :
    ∃ body, form.encode j = .ok body ∧ form.decode body = .ok j := by
  obtain ⟨hordered, hvalues⟩ := h
  refine ⟨_, rfl, ?_⟩
  rw [decode_form, UrlEncoded.parse_render, gather_flatMap_memberPairs hordered hvalues]

/-- An object of texts and lists of several texts is read back from what it is written as, whatever
its names and texts, and so is what any body is read as. -/
theorem decode_encode_form :
    (∀ j, IsForm j → ∃ body, form.encode j = .ok body ∧ form.decode body = .ok j) ∧
      ∀ body, ∃ j again, form.decode body = .ok j ∧ form.encode j = .ok again ∧
        form.decode again = .ok j := by
  refine ⟨fun j hj => hj.reads_back, fun body => ?_⟩
  obtain ⟨again, hagain⟩ := (isForm_gather (UrlEncoded.parse body)).reads_back
  exact ⟨_, again, decode_form body, hagain⟩

/-- A form with an empty name, a name with two values, and separators in its texts. -/
def tagsForm : Json :=
  .object [("", .text "a&b=c"), ("tag", .list [.text "ä +", .text ""])]

theorem decode_encode_form_tags :
    let body := Utf8.encode "=a%26b%3Dc&tag=%C3%A4+%2B&tag="
    IsForm tagsForm ∧ form.encode tagsForm = .ok body ∧ form.decode body = .ok tagsForm := by
  intro body
  have hform : IsForm tagsForm := by
    refine .object (List.pairwise_pair.2 (by decide)) fun m hm => ?_
    rcases List.mem_cons.1 hm with rfl | hm
    · exact .text "a&b=c"
    · rw [List.mem_singleton.1 hm]
      exact .list (by decide : 2 ≤ ["ä +", ""].length)
  have hbody : form.encode tagsForm = .ok body := by decide +kernel
  obtain ⟨written, hencode, hdecode⟩ := decode_encode_form.1 tagsForm hform
  obtain rfl : body = written := Except.ok.inj (hbody.symm.trans hencode)
  exact ⟨hform, hbody, hdecode⟩

end ServiceDispatch.MediaConverter
