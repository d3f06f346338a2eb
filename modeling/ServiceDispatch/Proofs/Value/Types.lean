import ServiceDispatch.Convert
import ServiceDispatch.Proofs.Data.Except

/-!
# Types of values

A value says itself of which type it is, and the type of an optional value, a list or a map names
a type for what stands in it. `HasType v t` says that `v` is of the type `t` and that whatever
stands in it is of the type named for it, throughout.

Every way into a converter gives a value that has the type which the converter produces, in this
sense. Of what a provider of the application makes only the type that the value says is looked at,
so no more than that is known of it.
-/

namespace ServiceDispatch

namespace Value

/-- The values that stand directly in a value, each with the type named for it. The types of the
fields of a record are known only to the application. -/
def parts : Value → List (ValueType × Value)
  | optional t v => v.toList.map fun w => (t, w)
  | list t vs => vs.map fun w => (t, w)
  | map t entries => entries.map fun e => (t, e.2)
  | _ => []

/-- The value is of the type, and whatever stands in it is of the type named for it. -/
inductive HasType : Value → ValueType → Prop where
  | of_parts {v : Value} (h : ∀ p ∈ v.parts, HasType p.2 p.1) : HasType v v.type

theorem HasType.type_eq {v : Value} {t : ValueType} (h : v.HasType t) : v.type = t := by
  cases h with
  | of_parts h => rfl

/-- A value in which nothing stands. -/
theorem HasType.single {v : Value} (h : v.parts = []) : v.HasType v.type :=
  .of_parts (by simp [h])

theorem HasType.none (t : ValueType) : (Value.optional t none).HasType (.optional t) :=
  .single rfl

theorem HasType.some {t : ValueType} {v : Value} (h : v.HasType t) :
    (Value.optional t (some v)).HasType (.optional t) :=
  .of_parts (v := .optional t (Option.some v)) (by simpa [parts] using h)

theorem HasType.list {t : ValueType} {vs : List Value} (h : ∀ v ∈ vs, v.HasType t) :
    (Value.list t vs).HasType (.list t) :=
  .of_parts (v := .list t vs) (by simpa [parts] using h)

theorem HasType.map {t : ValueType} {entries : List (String × Value)}
    (h : ∀ e ∈ entries, e.2.HasType t) : (Value.map t entries).HasType (.map t) := by
  refine .of_parts (v := .map t entries) fun p hp => ?_
  obtain ⟨e, he, rfl⟩ := List.mem_map.1 hp
  exact h e he

end Value

/-! ### Reading a tree -/

namespace Schema

theorem readInteger_eq_ok {t : IntegerType} {j : Json} {v : Value} (h : readInteger t j = .ok v) :
    ∃ n, v = .integer t n := by
  rw [readInteger.eq_def] at h
  split at h
  · next n =>
    split at h
    · cases h
      exact ⟨n, rfl⟩
    · cases h
  · cases h

/-- What is read as a list, an option or a map has in it what was read as its parts. -/
theorem hasType_of_read : (s : Schema) → {j : Json} → {v : Value} → s.read j = .ok v →
    v.HasType s.type
  | tree, j, v, h => by
      rw [read] at h
      cases h
      exact .single rfl
  | text, .text s, v, h => by
      cases h
      exact .single rfl
  | bool, .bool b, v, h => by
      cases h
      exact .single rfl
  | integer t, j, v, h => by
      rw [read] at h
      obtain ⟨n, rfl⟩ := readInteger_eq_ok h
      exact .single rfl
  | list s, .list items, v, h => by
      rw [read] at h
      obtain ⟨vs, hvs, rfl⟩ := map_eq_ok_iff.1 h
      refine .list fun w hw => ?_
      obtain ⟨j, -, hread⟩ := exists_of_mem_mapM hvs hw
      exact hasType_of_read s hread
  | optional s, j, v, h => by
      by_cases hj : j = .null
      · subst hj
        cases h
        exact .none s.type
      · rw [read] at h
        · obtain ⟨w, hread, rfl⟩ := map_eq_ok_iff.1 h
          exact .some (hasType_of_read s hread)
        · exact hj
  | map s, .object members, v, h => by
      rw [read] at h
      obtain ⟨entries, hentries, rfl⟩ := map_eq_ok_iff.1 h
      refine .map fun e he => ?_
      obtain ⟨m, -, hm⟩ := exists_of_mem_mapM hentries he
      obtain ⟨w, hread, rfl⟩ := map_eq_ok_iff.1 hm
      exact hasType_of_read s hread
  | record typeName shortName fields, .object members, v, h => by
      rw [read] at h
      obtain ⟨entries, -, rfl⟩ := map_eq_ok_iff.1 h
      exact .single rfl
  | record typeName shortName fields, .list items, v, h => by
      rw [read] at h
      obtain ⟨entries, -, rfl⟩ := map_eq_ok_iff.1 h
      exact .single rfl

end Schema

/-! ### Converters -/

theorem Scalar.hasType_of_read {k : Scalar} {s : String} {v : Value} (h : k.read s = .ok v) :
    v.HasType k.type := by
  have htype := Scalar.type_of_read h
  rw [← htype]
  refine .single ?_
  cases v with
  | optional t w => cases k <;> cases htype
  | list t vs => cases k <;> cases htype
  | map t entries => cases k <;> cases htype
  | _ => rfl

namespace Converter

theorem hasType_of_ofTree {s : Schema} {j : Json} {v : Value} (h : ofTree s j = .ok v) :
    v.HasType s.type := by
  rw [ofTree] at h
  split at h
  · next hread =>
    cases h
    exact s.hasType_of_read hread
  · cases h

theorem onlyFiles_ne_ok {raw : Option (List String)} {v : Value} : onlyFiles raw ≠ .ok v := by
  cases raw with
  | none => rintro ⟨⟩
  | some texts => rintro ⟨⟩

theorem ofFirst_eq_ok {make : FormFile → Value} {files : List FormFile} {v : Value}
    (h : ofFirst make files = .ok v) : ∃ f ∈ files, make f = v := by
  rw [ofFirst] at h
  split at h
  · next f hhead =>
    cases h
    exact ⟨f, List.mem_of_mem_head? hhead, rfl⟩
  · cases h

theorem openFirst?_eq_some {d : Disk} {files : List FormFile} {v : Value}
    (h : openFirst? d files = some (.ok v)) : ∃ content, v = .stream content := by
  obtain ⟨f, -, hf⟩ := Option.map_eq_some_iff.1 h
  split at hf
  · next content hread =>
    cases hf
    exact ⟨content, rfl⟩
  · cases hf

theorem hasType_of_convert {c : Converter} {raw : Option (List String)} {v : Value}
    (h : c.convert raw = .ok v) : v.HasType c.target := by
  cases c with
  | scalar k =>
      rw [convert] at h
      split at h
      · exact Scalar.hasType_of_read h
      · cases h
  | optional k =>
      rw [convert] at h
      split at h
      · obtain ⟨w, hw, rfl⟩ := map_eq_ok_iff.1 h
        exact .some (Scalar.hasType_of_read hw)
      · cases h
        exact .none k.type
  | list k =>
      rw [convert] at h
      obtain ⟨vs, hvs, rfl⟩ := map_eq_ok_iff.1 h
      refine .list fun w hw => ?_
      obtain ⟨s, -, hread⟩ := exists_of_mem_mapM hvs hw
      exact Scalar.hasType_of_read hread
  | bean s =>
      rw [convert] at h
      split at h
      · exact hasType_of_ofTree h
      · cases h
  | byteStream =>
      rw [convert] at h
      split at h
      · cases h
        exact .single rfl
      · cases h
  | fileInfo => exact absurd h onlyFiles_ne_ok
  | formFile => exact absurd h onlyFiles_ne_ok
  | formFiles => exact absurd h onlyFiles_ne_ok

theorem hasType_of_convertBody {c : Converter} {media : MediaConverter} {body : Bytes} {v : Value}
    (h : c.convertBody media body = .ok v) : v.HasType c.target := by
  rw [convertBody.eq_def] at h
  split at h
  · split at h
    · exact hasType_of_ofTree h
    · cases h
  · cases h
    exact .single rfl
  · split at h
    · exact hasType_of_convert h
    · cases h

theorem hasType_of_convertFiles {c : Converter} {d : Disk} {files : List FormFile} {v : Value}
    (h : c.convertFiles d files = some (.ok v)) : v.HasType c.target := by
  cases c with
  | byteStream =>
      obtain ⟨content, rfl⟩ := openFirst?_eq_some h
      exact .single rfl
  | fileInfo =>
      obtain ⟨f, -, rfl⟩ := ofFirst_eq_ok (Option.some.inj h)
      exact .single rfl
  | formFile =>
      obtain ⟨f, -, rfl⟩ := ofFirst_eq_ok (Option.some.inj h)
      exact .single rfl
  | formFiles =>
      cases h
      refine .list fun w hw => ?_
      obtain ⟨f, -, rfl⟩ := List.mem_map.1 hw
      exact .single rfl
  | _ => cases h

end Converter

end ServiceDispatch
