import ServiceDispatch.Http.Response
import ServiceDispatch.Proofs.Data.Table
import ServiceDispatch.Proofs.Text.Ascii
import ServiceDispatch.Proofs.Text.Utf8

/-!
# Headers of a sink and of a response

The headers of a response are made by appending fields, so a name has the values of its fields in
order (`values_ofList`). A sink takes a response over by inserting its values one after the other,
and inserting drops what the name had before: of each name the last value is left
(`values_apply`). A response thus comes out of a fresh sink as it was exactly if it has no name
twice.
-/

namespace ServiceDispatch

namespace Header

/-- Characters of a header value that is plain text. -/
def IsTextChar (c : Char) : Prop := 32 ≤ c.toNat ∧ c.toNat < 127 ∨ c = '\t'

theorem isTextByte_ofNat {c : Char} (h : IsTextChar c) :
    c.toNat < 127 ∧ isTextByte (UInt8.ofNat c.toNat) = true := by
  rcases h with ⟨hge, hlt⟩ | rfl
  · refine ⟨hlt, ?_⟩
    simp only [isTextByte, UInt8.le_iff_toNat_le, UInt8.lt_iff_toNat_lt, UInt8.toNat_ofNat',
      UInt8.reduceToNat, Bool.or_eq_true, Bool.and_eq_true, decide_eq_true_eq]
    omega
  · exact ⟨by decide, by decide⟩

/-- A value that is plain text is read as what was written. -/
theorem text?_encode {s : String} (h : ∀ c ∈ s.toList, IsTextChar c) :
    text? (Utf8.encode s) = some s := by
  have hencode : Utf8.encode s = s.toList.map fun c => UInt8.ofNat c.toNat := by
    rw [Utf8.encode, ← List.flatMap_pure_eq_map]
    refine List.flatMap_congr fun c hc => ?_
    exact Utf8.encodeChar_one (Nat.le_of_lt (isTextByte_ofNat (h c hc)).1)
  have hall : (Utf8.encode s).all isTextByte = true := by
    simp only [hencode, List.all_map, List.all_eq_true]
    exact fun c hc => (isTextByte_ofNat (h c hc)).2
  have hread : ∀ c ∈ s.toList, Char.ofNat (UInt8.ofNat c.toNat).toNat = c := by
    intro c hc
    have hlt := (isTextByte_ofNat (h c hc)).1
    rw [UInt8.toNat_ofNat', Nat.mod_eq_of_lt (by omega), Char.ofNat_toNat]
  have hchars : (s.toList.map fun c => Char.ofNat (UInt8.ofNat c.toNat).toNat) = s.toList :=
    (List.map_congr_left hread).trans (List.map_id' _)
  rw [text?, if_pos hall, hencode, List.map_map]
  exact congrArg some ((congrArg String.ofList hchars).trans String.ofList_toList)

end Header

namespace Headers

/-- Ordered, with names in small letters and at least one value for each. -/
structure WellFormed (h : Headers) : Prop where
  ordered : Table.Ordered h
  lower : ∀ e ∈ h, Text.lower e.1 = e.1
  nonempty : ∀ e ∈ h, e.2 ≠ []

theorem get?_append (name k : String) (value : Bytes) (h : Headers) :
    Table.get? k (append name value h) =
      if Text.lower name = k then some ((Table.get? k h).getD [] ++ [value])
      else Table.get? k h := by
  rw [append, Table.alter, Table.get?_insert]
  split
  · next heq => rw [heq]
  · rfl

theorem WellFormed.append {h : Headers} (hwf : h.WellFormed) (name : String) (value : Bytes) :
    (append name value h).WellFormed := by
  have hordered : Table.Ordered (Headers.append name value h) :=
    Table.ordered_insert (Text.lower name) _ hwf.ordered
  have hentry : ∀ e ∈ Headers.append name value h,
      e.1 = Text.lower name ∧ e.2 = (Table.get? (Text.lower name) h).getD [] ++ [value] ∨
        e ∈ h := by
    intro e he
    have hget := Table.get?_of_mem hordered he
    rw [get?_append] at hget
    split at hget
    · next heq =>
      rw [heq]
      exact .inl ⟨rfl, (Option.some.inj hget).symm⟩
    · exact .inr (Table.mem_of_get? hget)
  refine ⟨hordered, fun e he => ?_, fun e he => ?_⟩
  · rcases hentry e he with ⟨heq, -⟩ | he
    · rw [heq, Text.lower_lower]
    · exact hwf.lower e he
  · rcases hentry e he with ⟨-, heq⟩ | he
    · simp [heq]
    · exact hwf.nonempty e he

theorem wellFormed_ofList (fields : List (String × Bytes)) : (ofList fields).WellFormed := by
  have hfold : ∀ (fields : List (String × Bytes)) (h : Headers), h.WellFormed →
      (fields.foldl (fun h f => Headers.append f.1 f.2 h) h).WellFormed := by
    intro fields
    induction fields with
    | nil => exact fun h hwf => hwf
    | cons f fields ih => exact fun h hwf => ih _ (hwf.append f.1 f.2)
  exact hfold fields [] ⟨Table.ordered_nil, by simp, by simp⟩

/-- A name has the values of the fields with that name, in order. -/
theorem values_ofList (name : String) (fields : List (String × Bytes)) :
    values name (ofList fields) =
      (fields.filter fun f => Text.sameIgnoringCase f.1 name).map Prod.snd := by
  have hfold : ∀ (fields : List (String × Bytes)) (h : Headers),
      values name (fields.foldl (fun h f => Headers.append f.1 f.2 h) h) =
        values name h ++ (fields.filter fun f => Text.sameIgnoringCase f.1 name).map Prod.snd := by
    intro fields
    induction fields with
    | nil => simp
    | cons f fields ih =>
        intro h
        rw [List.foldl_cons, ih, values, get?_append, values]
        by_cases heq : Text.lower f.1 = Text.lower name
        · simp [heq, Text.sameIgnoringCase]
        · simp [heq, Text.sameIgnoringCase]
  exact hfold fields []

/-- Among all fields of a table those of one name are its values. -/
theorem filter_toList {h : Headers} (hordered : Table.Ordered h) (k : String) :
    (toList h).filter (fun f => f.1 = k) = ((Table.get? k h).getD []).map fun v => (k, v) := by
  have hname : ∀ e : String × List Bytes, ∀ f ∈ e.2.map (fun v => (e.1, v)), f.1 = e.1 := by
    intro e f hf
    obtain ⟨v, -, rfl⟩ := List.mem_map.1 hf
    rfl
  rw [toList, Table.filter_flatMap Prod.fst _ hname k hordered]
  cases Table.get? k h with
  | none => rfl
  | some vs => rfl

end Headers

namespace Sink

theorem headers_apply (r : Response) :
    (({} : Sink).apply r).headers =
      r.headers.toList.foldl (fun h f => Table.insert (Text.lower f.1) [f.2] h) [] := rfl

theorem ordered_apply (r : Response) : Table.Ordered (({} : Sink).apply r).headers := by
  rw [headers_apply]
  exact Table.ordered_foldl_insert (fun f : String × Bytes => Text.lower f.1) (fun f => [f.2])
    r.headers.toList Table.ordered_nil

/-- Of each name the last value is taken over. -/
theorem get?_apply {r : Response} (hwf : r.headers.WellFormed) (k : String) :
    Table.get? k (({} : Sink).apply r).headers =
      (Table.get? k r.headers).bind fun vs => vs.getLast?.map fun v => [v] := by
  have hlower : ∀ f ∈ r.headers.toList, Text.lower f.1 = f.1 := by
    intro f hf
    obtain ⟨e, he, hf⟩ := List.mem_flatMap.1 hf
    obtain ⟨v, -, rfl⟩ := List.mem_map.1 hf
    exact hwf.lower e he
  have hfilter : (r.headers.toList.filter fun f => Text.lower f.1 = k) =
      r.headers.toList.filter fun f => f.1 = k :=
    List.filter_congr fun f hf => by rw [hlower f hf]
  rw [headers_apply,
    Table.get?_foldl_insert (fun f : String × Bytes => Text.lower f.1) (fun f => [f.2]), hfilter,
    Headers.filter_toList hwf.ordered, Table.get?_nil, Option.or_none]
  cases Table.get? k r.headers with
  | none => rfl
  | some vs => simp [Function.comp_def]

theorem values_apply {r : Response} (hwf : r.headers.WellFormed) (name : String) :
    Headers.values name (({} : Sink).apply r).headers =
      (Headers.values name r.headers).getLast?.toList := by
  rw [Headers.values, get?_apply hwf, Headers.values]
  cases Table.get? (Text.lower name) r.headers with
  | none => rfl
  | some vs => cases h : vs.getLast? <;> simp [h]

theorem headers_apply_eq_self {r : Response} (hwf : r.headers.WellFormed)
    (hle : ∀ name, (Headers.values name r.headers).length ≤ 1) :
    (({} : Sink).apply r).headers = r.headers := by
  refine Table.ext (ordered_apply r) hwf.ordered fun k => ?_
  rw [get?_apply hwf]
  cases hget : Table.get? k r.headers with
  | none => rfl
  | some vs =>
      have hmem := Table.mem_of_get? hget
      have hone : vs.length ≤ 1 := by
        have hvalues := hle k
        rwa [Headers.values, hwf.lower _ hmem, hget] at hvalues
      obtain ⟨v, rfl⟩ : ∃ v, vs = [v] := by
        have hpos := List.length_pos_iff.2 (hwf.nonempty _ hmem)
        exact List.length_eq_one_iff.1 (Nat.le_antisymm hone hpos)
      rfl

/-- A response comes out of a fresh sink unchanged exactly if no name has two values. -/
theorem toResponse_apply_eq_iff {r : Response} (hwf : r.headers.WellFormed) :
    (({} : Sink).apply r).toResponse = r ↔ ∀ name, (Headers.values name r.headers).length ≤ 1 := by
  have hheaders : (({} : Sink).apply r).toResponse = r ↔
      (({} : Sink).apply r).headers = r.headers :=
    ⟨congrArg Response.headers, fun h => congrArg (Response.mk r.status · r.body) h⟩
  rw [hheaders]
  refine ⟨fun heq name => ?_, headers_apply_eq_self hwf⟩
  have hvalues := values_apply hwf name
  rw [heq] at hvalues
  rw [hvalues]
  cases (Headers.values name r.headers).getLast? <;> simp

end Sink

end ServiceDispatch
