import ServiceDispatch.Form.FileName
import ServiceDispatch.Proofs.Text.Blank

/-!
# Usable file names

What a client calls a file comes down to a proper and trimmed name or to nothing, and a name that
is proper and trimmed is left as it is (`sanitize?_eq_self_iff`). So nothing that one stage of
`clean` takes away is brought back by a later one: there are no separators behind the last one,
neither dropping control characters nor trimming adds any character, and only the outcome is held
against the reserved names. What stands in front of a separator does not matter.
-/

namespace ServiceDispatch.FileName

/-- The name of a file in a directory, and of nothing elsewhere. -/
structure IsProper (name : String) : Prop where
  ne_empty : name ≠ ""
  ne_dot : name ≠ "."
  ne_dots : name ≠ ".."
  plain : ∀ c ∈ name.toList, c ≠ '/' ∧ c ≠ '\\' ∧ Text.isControl c = false

theorem isSeparator_eq_false_iff {c : Char} : isSeparator c = false ↔ c ≠ '/' ∧ c ≠ '\\' := by
  rw [isSeparator, Bool.or_eq_false_iff, beq_eq_false_iff_ne, beq_eq_false_iff_ne]

theorem isReserved_iff {cs : List Char} :
    isReserved cs = true ↔ cs = [] ∨ cs = ['.'] ∨ cs = ['.', '.'] := by
  simp [isReserved, or_assoc]

theorem isProper_iff {name : String} :
    IsProper name ↔ isReserved name.toList = false ∧
      ∀ c ∈ name.toList, c ≠ '/' ∧ c ≠ '\\' ∧ Text.isControl c = false := by
  have hne (t : String) : name ≠ t ↔ name.toList ≠ t.toList := not_congr String.toList_inj.symm
  rw [← Bool.not_eq_true, isReserved_iff, not_or, not_or]
  constructor
  · rintro ⟨hempty, hdot, hdots, hplain⟩
    exact ⟨⟨(hne "").1 hempty, (hne ".").1 hdot, (hne "..").1 hdots⟩, hplain⟩
  · rintro ⟨⟨hempty, hdot, hdots⟩, hplain⟩
    exact ⟨(hne "").2 hempty, (hne ".").2 hdot, (hne "..").2 hdots, hplain⟩

/-! ### The stages of cleaning -/

theorem not_isSeparator_of_mem_lastComponent {c : Char} {cs : List Char}
    (h : c ∈ lastComponent cs) : isSeparator c = false := by
  rw [lastComponent, List.mem_reverse] at h
  simpa using List.mem_takeWhile_imp h

theorem lastComponent_eq_self {cs : List Char} (h : ∀ c ∈ cs, isSeparator c = false) :
    lastComponent cs = cs := by
  rw [lastComponent, List.takeWhile_eq_self_iff.2, List.reverse_reverse]
  intro c hc
  rw [h c (List.mem_reverse.1 hc)]
  rfl

/-- The component behind the last separator does not change with what stands in front of one. -/
theorem lastComponent_append_cons {c : Char} (hc : isSeparator c = true) (p s : List Char) :
    lastComponent (p ++ c :: s) = lastComponent s := by
  rw [lastComponent, lastComponent, List.reverse_append, List.reverse_cons, List.append_assoc,
    List.takeWhile_append]
  split
  · next hlength =>
    rw [(List.takeWhile_prefix _).eq_of_length hlength]
    simp [hc]
  · rfl

theorem plain_of_mem_clean {c : Char} {cs : List Char} (h : c ∈ clean cs) :
    c ≠ '/' ∧ c ≠ '\\' ∧ Text.isControl c = false := by
  have hmem : c ∈ (lastComponent cs).filter fun c => !Text.isControl c :=
    Text.trimChars_subset _ h
  obtain ⟨hlast, hcontrol⟩ := List.mem_filter.1 hmem
  obtain ⟨hslash, hbackslash⟩ :=
    isSeparator_eq_false_iff.1 (not_isSeparator_of_mem_lastComponent hlast)
  exact ⟨hslash, hbackslash, by simpa using hcontrol⟩

theorem clean_eq_self {cs : List Char}
    (h : ∀ c ∈ cs, c ≠ '/' ∧ c ≠ '\\' ∧ Text.isControl c = false) (htrim : Text.Trimmed cs) :
    clean cs = cs := by
  have hlast : lastComponent cs = cs :=
    lastComponent_eq_self fun c hc => isSeparator_eq_false_iff.2 ⟨(h c hc).1, (h c hc).2.1⟩
  have hcontrol : cs.filter (fun c => !Text.isControl c) = cs := by
    refine List.filter_eq_self.2 fun c hc => ?_
    rw [(h c hc).2.2]
    rfl
  rw [clean, hlast, hcontrol, htrim.trimChars_eq]

/-! ### What a name comes down to -/

theorem sanitize?_eq_some_iff {name s : String} :
    sanitize? name = some s ↔ clean name.toList = s.toList ∧ isReserved s.toList = false := by
  rw [sanitize?]
  constructor
  · intro h
    split at h
    · cases h
    · next hreserved =>
      obtain rfl := Option.some.inj h
      rw [String.toList_ofList]
      exact ⟨rfl, Bool.eq_false_iff.2 hreserved⟩
  · rintro ⟨hclean, hreserved⟩
    rw [hclean, hreserved, String.ofList_toList]
    rfl

theorem isProper_of_sanitize? {name s : String} (h : sanitize? name = some s) : IsProper s := by
  obtain ⟨hclean, hreserved⟩ := sanitize?_eq_some_iff.1 h
  exact isProper_iff.2 ⟨hreserved, fun c hc => plain_of_mem_clean (hclean ▸ hc)⟩

theorem trimmed_of_sanitize? {name s : String} (h : sanitize? name = some s) :
    Text.Trimmed s.toList :=
  (sanitize?_eq_some_iff.1 h).1 ▸ Text.trimmed_trimChars _

theorem sanitize?_eq_self_iff {name : String} :
    sanitize? name = some name ↔ IsProper name ∧ Text.Trimmed name.toList := by
  constructor
  · intro h
    exact ⟨isProper_of_sanitize? h, trimmed_of_sanitize? h⟩
  · rintro ⟨hproper, htrim⟩
    obtain ⟨hreserved, hplain⟩ := isProper_iff.1 hproper
    exact sanitize?_eq_some_iff.2 ⟨clean_eq_self hplain htrim, hreserved⟩

theorem sanitize?_append {c : Char} (hc : isSeparator c = true) (p x : String) :
    sanitize? (p ++ String.singleton c ++ x) = sanitize? x := by
  have hlist : (p ++ String.singleton c ++ x).toList = p.toList ++ c :: x.toList := by simp
  have hclean : clean (p ++ String.singleton c ++ x).toList = clean x.toList := by
    rw [clean, clean, hlist, lastComponent_append_cons hc]
  rw [sanitize?, sanitize?, hclean]

/-- Taking the usable part of a name is a projection onto the names that are proper and have no
blanks around them, and it looks only at what stands behind the separators. -/
theorem sanitize?_projects :
    (∀ x y, sanitize? x = some y →
        IsProper y ∧ Text.Trimmed y.toList ∧ sanitize? y = some y) ∧
      (∀ y, IsProper y → Text.Trimmed y.toList → sanitize? y = some y) ∧
      ∀ p x, sanitize? (p ++ "/" ++ x) = sanitize? x ∧ sanitize? (p ++ "\\" ++ x) = sanitize? x := by
  refine ⟨fun x y h => ?_, fun y hproper htrim => ?_, fun p x => ⟨?_, ?_⟩⟩
  · have hproper := isProper_of_sanitize? h
    have htrim := trimmed_of_sanitize? h
    exact ⟨hproper, htrim, sanitize?_eq_self_iff.2 ⟨hproper, htrim⟩⟩
  · exact sanitize?_eq_self_iff.2 ⟨hproper, htrim⟩
  · exact sanitize?_append (c := '/') rfl p x
  · exact sanitize?_append (c := '\\') rfl p x

/-- The blank is uncovered when the control character in front of it is dropped. -/
theorem sanitize?_projects_covered_blank :
    sanitize? "dir/\x01 .profile\t" = some ".profile" ∧ IsProper ".profile" ∧
      sanitize? ".profile" = some ".profile" ∧ sanitize? "up\\.\x7f. " = none := by
  have h : sanitize? "dir/\x01 .profile\t" = some ".profile" := by decide
  obtain ⟨hproper, -, hself⟩ := sanitize?_projects.1 _ _ h
  exact ⟨h, hproper, hself, by decide⟩

end ServiceDispatch.FileName
