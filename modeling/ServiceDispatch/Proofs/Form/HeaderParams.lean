import ServiceDispatch.Form.HeaderParams
import ServiceDispatch.Proofs.Text.Blank
import ServiceDispatch.Proofs.Text.Cut

/-!
# Writing the parameters of a header value

`write token params` is a header value with quoted parameters: the token, and behind it
`; key="value"` for each parameter, where quotes and backslashes in the value stand behind a
backslash. `read_write` says that reading it gives the parameters back, with the values
trimmed. What carries the proof is that `segmentsFrom` never leaves the quoted mode inside a
value, whatever the value is, so the semicolons that separate are those that were written.
-/

namespace ServiceDispatch.HeaderParams

/-- A backslash in front of each quote and each backslash. -/
def escape (cs : List Char) : List Char :=
  cs.flatMap fun c => if c = '"' ∨ c = '\\' then ['\\', c] else [c]

/-- One parameter, from the semicolon to the closing quote. -/
def writeParam (p : String × String) : List Char :=
  ';' :: ' ' :: (p.1.toList ++ '=' :: '"' :: (escape p.2.toList ++ ['"']))

/-- A header value with quoted parameters. -/
def write (token : String) (params : List (String × String)) : String :=
  String.ofList (token.toList ++ params.flatMap writeParam)

/-- A key that needs no quoting: without blanks and without the characters that mean something
between parameters. -/
structure IsKey (key : String) : Prop where
  not_isBlank : ∀ c ∈ key.toList, Text.isBlank c = false
  plain : ∀ c ∈ key.toList, c ≠ '=' ∧ c ≠ ';' ∧ c ≠ '"' ∧ c ≠ '\\'

theorem segmentsFrom_plain {cs : List Char} (h : ∀ c ∈ cs, c ≠ ';' ∧ c ≠ '"')
    (passed rest : List Char) :
    segmentsFrom passed .plain (cs ++ rest) = segmentsFrom (cs.reverse ++ passed) .plain rest := by
  induction cs generalizing passed with
  | nil => rfl
  | cons c cs ih =>
      have hc := h c (by simp)
      rw [List.cons_append, segmentsFrom, if_neg hc.2, if_neg hc.1,
        ih (fun d hd => h d (List.mem_cons_of_mem c hd))]
      simp

/-- An escaped value is taken over as it was, and its closing quote ends it. -/
theorem segmentsFrom_escape (passed v rest : List Char) :
    segmentsFrom passed .quoted (escape v ++ '"' :: rest) =
      segmentsFrom (v.reverse ++ passed) .plain rest := by
  induction v generalizing passed with
  | nil => simp [escape, segmentsFrom]
  | cons c v ih =>
      rw [escape, List.flatMap_cons, ← escape]
      by_cases hc : c = '"' ∨ c = '\\'
      · rw [if_pos hc]
        simp [segmentsFrom, ih]
      · rw [not_or] at hc
        simp [segmentsFrom, hc.1, hc.2, ih]

theorem segmentsFrom_writeParam {p : String × String} (hp : IsKey p.1)
    (passed rest : List Char) :
    segmentsFrom passed .plain (writeParam p ++ rest) =
      passed.reverse ::
        segmentsFrom (' ' :: (p.1.toList ++ '=' :: p.2.toList)).reverse .plain rest := by
  have hkey : ∀ c ∈ ' ' :: (p.1.toList ++ ['=']), c ≠ ';' ∧ c ≠ '"' := by
    intro c hc
    simp only [List.mem_cons, List.mem_append, List.not_mem_nil, or_false] at hc
    rcases hc with rfl | hc | rfl
    · decide
    · exact ⟨(hp.plain c hc).2.1, (hp.plain c hc).2.2.1⟩
    · decide
  have hsplit : writeParam p ++ rest =
      ';' :: ((' ' :: (p.1.toList ++ ['='])) ++ '"' :: (escape p.2.toList ++ '"' :: rest)) := by
    simp [writeParam]
  rw [hsplit, segmentsFrom, if_neg (by decide), if_pos rfl, segmentsFrom_plain hkey,
    segmentsFrom, if_pos rfl, segmentsFrom_escape]
  simp

theorem segmentsFrom_params {params : List (String × String)} (h : ∀ p ∈ params, IsKey p.1)
    (passed : List Char) :
    segmentsFrom passed .plain (params.flatMap writeParam) =
      passed.reverse :: params.map fun p => ' ' :: (p.1.toList ++ '=' :: p.2.toList) := by
  induction params generalizing passed with
  | nil => rfl
  | cons p params ih =>
      rw [List.flatMap_cons, segmentsFrom_writeParam (h p (by simp)),
        ih fun q hq => h q (List.mem_cons_of_mem p hq)]
      simp

/-- A part is read at its first equals sign, which ends the key. -/
theorem parameter?_segment {p : String × String} (hp : IsKey p.1) :
    parameter? (' ' :: (p.1.toList ++ '=' :: p.2.toList)) = some (p.1, Text.trim p.2) := by
  have hkey : ¬ ['='] <:+: ' ' :: p.1.toList := by
    rw [List.singleton_infix_iff, List.mem_cons, not_or]
    exact ⟨by decide, fun hc => (hp.plain '=' hc).1 rfl⟩
  have hcut := (Text.CutsAt.of_head (List.not_mem_nil) hkey p.2.toList).cut?_eq
  have htrim : Text.trimChars (' ' :: p.1.toList) = p.1.toList := by
    rw [Text.trimChars_cons_of_isBlank _ rfl]
    exact (Text.Trimmed.of_forall hp.not_isBlank).trimChars_eq
  rw [parameter?]
  simp only [List.cons_append, List.nil_append] at hcut
  rw [hcut]
  simp [htrim, Text.trim]

/-- Parameters are read as they were written, with their values trimmed. -/
theorem read_write {token : String} (ht : ∀ c ∈ token.toList, c ≠ ';' ∧ c ≠ '"')
    {params : List (String × String)} (hp : ∀ p ∈ params, IsKey p.1) :
    read (write token params) = params.map fun p => (p.1, Text.trim p.2) := by
  rw [read, segments, write, String.toList_ofList, segmentsFrom_plain ht,
    segmentsFrom_params hp, List.tail_cons, List.filterMap_map]
  induction params with
  | nil => rfl
  | cons p params ih =>
      rw [List.filterMap_cons, Function.comp_apply, parameter?_segment (hp p (by simp)),
        List.map_cons, ih fun q hq => hp q (List.mem_cons_of_mem p hq)]

/-- Parameters are read as they were written, but for blanks at the ends of their values; so all of
them come back unchanged exactly if no value has any there. -/
theorem read_write_trims {token : String} (ht : ∀ c ∈ token.toList, c ≠ ';' ∧ c ≠ '"')
    {params : List (String × String)} (hp : ∀ p ∈ params, IsKey p.1) :
    read (write token params) = params.map (fun p => (p.1, Text.trim p.2)) ∧
      (read (write token params) = params ↔ ∀ p ∈ params, Text.Trimmed p.2.toList) := by
  have hread := read_write ht hp
  refine ⟨hread, ?_⟩
  rw [hread]
  conv_lhs => rhs; rw [← List.map_id params]
  rw [List.map_inj_left]
  refine forall₂_congr fun p _ => ?_
  rw [← Text.trim_eq_self_iff, Prod.ext_iff]
  exact and_iff_right rfl

theorem read_write_trims_quoted :
    (∀ c ∈ "form-data".toList, c ≠ ';' ∧ c ≠ '"') ∧
      (∀ p ∈ [("name", "a;\"b\" = \\c"), ("filename", " d\t")], IsKey p.1) ∧
      read (write "form-data" [("name", "a;\"b\" = \\c"), ("filename", " d\t")]) =
        [("name", "a;\"b\" = \\c"), ("filename", "d")] := by
  have ht : ∀ c ∈ "form-data".toList, c ≠ ';' ∧ c ≠ '"' := by simp
  have hp : ∀ p ∈ [("name", "a;\"b\" = \\c"), ("filename", " d\t")], IsKey p.1 := by
    simp only [List.forall_mem_cons]
    exact ⟨⟨by simp [Text.isBlank], by simp⟩, ⟨by simp [Text.isBlank], by simp⟩, by simp⟩
  refine ⟨ht, hp, (read_write_trims ht hp).1.trans ?_⟩
  decide +kernel

/-- A blank that was written between quotes is lost if it stands at the end of a value. -/
theorem read_write_boundary :
    (∀ c ∈ "multipart/form-data".toList, c ≠ ';' ∧ c ≠ '"') ∧ IsKey "boundary" ∧
      read (write "multipart/form-data" [("boundary", " b")]) = [("boundary", "b")] ∧
      read (write "multipart/form-data" [("boundary", " b")]) ≠ [("boundary", " b")] := by
  refine ⟨by simp, ⟨by simp [Text.isBlank], by simp⟩, ?_, ?_⟩
  · decide +kernel
  · decide +kernel

/-! ### The characters of a written value -/

theorem mem_escape {c : Char} {cs : List Char} (h : c ∈ escape cs) : c = '\\' ∨ c ∈ cs := by
  obtain ⟨d, hd, hc⟩ := List.mem_flatMap.1 h
  split at hc
  · simp only [List.mem_cons, List.not_mem_nil, or_false] at hc
    rcases hc with rfl | rfl
    · exact .inl rfl
    · exact .inr hd
  · rw [List.mem_singleton] at hc
    exact .inr (hc ▸ hd)

/-- Writing adds only the characters that separate and quote. -/
theorem forall_mem_write {P : Char → Prop} {token : String} {params : List (String × String)}
    (marks : ∀ c ∈ [';', ' ', '=', '"', '\\'], P c) (htoken : ∀ c ∈ token.toList, P c)
    (hparams : ∀ p ∈ params, (∀ c ∈ p.1.toList, P c) ∧ ∀ c ∈ p.2.toList, P c) :
    ∀ c ∈ (write token params).toList, P c := by
  intro c h
  rw [write, String.toList_ofList, List.mem_append] at h
  rcases h with h | h
  · exact htoken c h
  · obtain ⟨p, hp, hc⟩ := List.mem_flatMap.1 h
    simp only [writeParam, List.mem_cons, List.mem_append, List.not_mem_nil, or_false] at hc
    rcases hc with rfl | rfl | hc | rfl | rfl | hc | rfl
    · exact marks _ (by simp)
    · exact marks _ (by simp)
    · exact (hparams p hp).1 c hc
    · exact marks _ (by simp)
    · exact marks _ (by simp)
    · rcases mem_escape hc with rfl | hc
      · exact marks _ (by simp)
      · exact (hparams p hp).2 c hc
    · exact marks _ (by simp)

/-- A written value is trimmed, as it ends with a quote. -/
theorem trimmed_write {token : String} (ht : ∀ c ∈ token.toList.head?, Text.isBlank c = false)
    (hne : token ≠ "") {params : List (String × String)} (hp : params ≠ []) :
    Text.Trimmed (write token params).toList := by
  obtain ⟨a, t, hat⟩ := List.exists_cons_of_ne_nil (mt String.toList_eq_nil_iff.1 hne)
  obtain ⟨ps, p, rfl⟩ := (List.eq_nil_or_concat' params).resolve_left hp
  rw [write, String.toList_ofList]
  constructor
  · intro c hc
    rw [hat, List.cons_append, List.head?_cons] at hc
    exact ht c (hat ▸ hc)
  · intro c hc
    have hend : token.toList ++ (ps ++ [p]).flatMap writeParam =
        token.toList ++ ps.flatMap writeParam ++
          (';' :: ' ' :: (p.1.toList ++ '=' :: '"' :: escape p.2.toList)) ++ ['"'] := by
      simp [writeParam]
    rw [hend, List.getLast?_concat] at hc
    obtain rfl := Option.some.inj hc
    rfl

end ServiceDispatch.HeaderParams
