import ServiceDispatch.Proofs.Form.Extract
import ServiceDispatch.Proofs.Value.Types

/-!
# Files in values

`Reaches f v` says that a handler which is given the value `v` can come by the file `f`. No
request makes a converter produce a value with a file in it: files come from the uploads that a
converter is given, or stand in the defaults of a record that the application declares.
-/

namespace ServiceDispatch

/-- The file is the value or stands somewhere in it. -/
inductive Value.Reaches (f : FormFile) : Value → Prop where
  | formFile : Reaches f (.formFile f)
  | formParams {p : FormParams} (holds : p.Holds f) : Reaches f (.formParams p)
  | optional {t : ValueType} {v : Value} (h : Reaches f v) : Reaches f (.optional t (some v))
  | list {t : ValueType} {vs : List Value} {v : Value} (hv : v ∈ vs) (h : Reaches f v) :
      Reaches f (.list t vs)
  | map {t : ValueType} {entries : List (String × Value)} {e : String × Value}
      (he : e ∈ entries) (h : Reaches f e.2) : Reaches f (.map t entries)
  | record {name : String} {fields : List (String × Value)} {e : String × Value}
      (he : e ∈ fields) (h : Reaches f e.2) : Reaches f (.record name fields)

/-- The file stands in a default of the type. -/
inductive Schema.Supplies (f : FormFile) : Schema → Prop where
  | list {s : Schema} (h : Supplies f s) : Supplies f (.list s)
  | optional {s : Schema} (h : Supplies f s) : Supplies f (.optional s)
  | map {s : Schema} (h : Supplies f s) : Supplies f (.map s)
  | field {typeName shortName : String} {fields : List (String × Schema × FieldDefault)}
      {e : String × Schema × FieldDefault} (he : e ∈ fields) (h : Supplies f e.2.1) :
      Supplies f (.record typeName shortName fields)
  | inObjects {typeName shortName name : String} {fields : List (String × Schema × FieldDefault)}
      {s : Schema} {v : Value} (he : (name, s, .inObjects v) ∈ fields) (h : v.Reaches f) :
      Supplies f (.record typeName shortName fields)
  | everywhere {typeName shortName name : String}
      {fields : List (String × Schema × FieldDefault)} {s : Schema} {v : Value}
      (he : (name, s, .everywhere v) ∈ fields) (h : v.Reaches f) :
      Supplies f (.record typeName shortName fields)

namespace Schema

variable {f : FormFile}

/-- A default of a record is one of its first field or of the other ones. -/
theorem Supplies.cons {typeName shortName : String}
    {fields : List (String × Schema × FieldDefault)} (e : String × Schema × FieldDefault)
    (h : Supplies f (.record typeName shortName fields)) :
    Supplies f (.record typeName shortName (e :: fields)) := by
  cases h with
  | field he h => exact .field (List.mem_cons_of_mem e he) h
  | inObjects he h => exact .inObjects (List.mem_cons_of_mem e he) h
  | everywhere he h => exact .everywhere (List.mem_cons_of_mem e he) h

theorem readInteger_reaches {t : IntegerType} {j : Json} {v : Value}
    (h : readInteger t j = .ok v) : ¬ v.Reaches f := by
  obtain ⟨n, rfl⟩ := readInteger_eq_ok h
  rintro ⟨⟩

theorem fieldValue_reaches {x : Found} {e : String × Value} (h : fieldValue x = .ok e)
    (he : e.2.Reaches f) :
    (∃ v, x.2.2 = some (.ok v) ∧ v.Reaches f) ∨
      ∃ v, (x.2.1 = .inObjects v ∨ x.2.1 = .everywhere v) ∧ v.Reaches f := by
  obtain ⟨name, d, r⟩ := x
  rw [fieldValue] at h
  cases r with
  | some r =>
      cases r with
      | error e => cases h
      | ok v =>
          cases h
          exact .inl ⟨v, rfl, he⟩
  | none =>
      cases d with
      | required => cases h
      | inObjects v =>
          cases h
          exact .inr ⟨v, .inl rfl, he⟩
      | everywhere v =>
          cases h
          exact .inr ⟨v, .inr rfl, he⟩

/-- What a record takes from an object are fields that were found or defaults. -/
theorem ofObject_reaches {members : List (String × Json)} {found : List Found}
    {fields : List (String × Value)} (h : ofObject members found = .ok fields)
    {e : String × Value} (hmem : e ∈ fields) (he : e.2.Reaches f) :
    ∃ x ∈ found, (∃ v, x.2.2 = some (.ok v) ∧ v.Reaches f) ∨
      ∃ v, (x.2.1 = .inObjects v ∨ x.2.1 = .everywhere v) ∧ v.Reaches f := by
  rw [ofObject] at h
  split at h
  · cases h
  · obtain ⟨x, hx, hvalue⟩ := exists_of_mem_mapM h hmem
    exact ⟨x, hx, fieldValue_reaches hvalue he⟩

mutual

/-- A value that was read has no files but those of the defaults. -/
theorem supplies_of_read : (s : Schema) → {j : Json} → {v : Value} → s.read j = .ok v →
    v.Reaches f → s.Supplies f
  | tree, j, v, h, hv => by
      rw [read] at h
      cases h
      cases hv
  | text, j, v, h, hv => by
      cases j <;> rw [read] at h <;> cases h
      cases hv
  | bool, j, v, h, hv => by
      cases j <;> rw [read] at h <;> cases h
      cases hv
  | integer t, j, v, h, hv => by
      rw [read] at h
      exact absurd hv (readInteger_reaches h)
  | list s, .list items, v, h, hv => by
      rw [read] at h
      obtain ⟨vs, hvs, rfl⟩ := map_eq_ok_iff.1 h
      cases hv with
      | list hmem hv =>
          obtain ⟨j, -, hread⟩ := exists_of_mem_mapM hvs hmem
          exact .list (supplies_of_read s hread hv)
  | optional s, j, v, h, hv => by
      by_cases hj : j = .null
      · subst hj
        rw [read] at h
        cases h
        cases hv
      · rw [read] at h
        · obtain ⟨w, hread, rfl⟩ := map_eq_ok_iff.1 h
          cases hv with
          | optional hv => exact .optional (supplies_of_read s hread hv)
        · exact hj
  | map s, .object members, v, h, hv => by
      rw [read] at h
      obtain ⟨entries, hentries, rfl⟩ := map_eq_ok_iff.1 h
      cases hv with
      | map hmem hv =>
          obtain ⟨m, -, hm⟩ := exists_of_mem_mapM hentries hmem
          obtain ⟨w, hread, rfl⟩ := map_eq_ok_iff.1 hm
          exact .map (supplies_of_read s hread hv)
  | record typeName shortName fields, .object members, v, h, hv => by
      rw [read] at h
      obtain ⟨entries, hentries, rfl⟩ := map_eq_ok_iff.1 h
      cases hv with
      | record hmem hv =>
          obtain ⟨x, hx, hfiles⟩ := ofObject_reaches hentries hmem hv
          exact supplies_of_findFields fields hx hfiles
  | record typeName shortName fields, .list items, v, h, hv => by
      rw [read] at h
      obtain ⟨entries, hentries, rfl⟩ := map_eq_ok_iff.1 h
      cases hv with
      | record hmem hv => exact supplies_of_readItems fields hentries hmem hv

theorem supplies_of_findFields {typeName shortName : String} :
    (fields : List (String × Schema × FieldDefault)) → {members : List (String × Json)} →
    {x : Found} → x ∈ findFields fields members →
    ((∃ v, x.2.2 = some (.ok v) ∧ v.Reaches f) ∨
      ∃ v, (x.2.1 = .inObjects v ∨ x.2.1 = .everywhere v) ∧ v.Reaches f) →
    Supplies f (.record typeName shortName fields)
  | (name, s, d) :: fields, members, x, hx, hfiles => by
      rw [findFields, List.mem_cons] at hx
      rcases hx with rfl | hx
      · rcases hfiles with ⟨v, hv, hreach⟩ | ⟨v, rfl | rfl, hreach⟩
        · obtain ⟨j, -, hread⟩ := Option.map_eq_some_iff.1 hv
          exact .field List.mem_cons_self (supplies_of_read s hread hreach)
        · exact .inObjects List.mem_cons_self hreach
        · exact .everywhere List.mem_cons_self hreach
      · exact .cons _ (supplies_of_findFields fields hx hfiles)

theorem supplies_of_readItems {typeName shortName expected : String} {length : Nat} :
    (fields : List (String × Schema × FieldDefault)) → {index : Nat} → {items : List Json} →
    {entries : List (String × Value)} →
    readItems expected length fields index items = .ok entries →
    {e : String × Value} → e ∈ entries → e.2.Reaches f →
    Supplies f (.record typeName shortName fields)
  | [], index, items, entries, h, e, hmem, he => by
      cases items <;> rw [readItems] at h <;> cases h
      cases hmem
  | (name, s, d) :: fields, index, j :: items, entries, h, e, hmem, he => by
      rw [readItems] at h
      split at h
      · cases h
      · next v hread =>
        obtain ⟨others, hothers, rfl⟩ := map_eq_ok_iff.1 h
        rcases List.mem_cons.1 hmem with rfl | hmem
        · exact .field List.mem_cons_self (supplies_of_read s hread he)
        · exact .cons _ (supplies_of_readItems fields hothers hmem he)
  | (name, s, .everywhere v) :: fields, index, [], entries, h, e, hmem, he => by
      rw [readItems] at h
      obtain ⟨others, hothers, rfl⟩ := map_eq_ok_iff.1 h
      rcases List.mem_cons.1 hmem with rfl | hmem
      · exact .everywhere List.mem_cons_self he
      · exact .cons _ (supplies_of_readItems fields hothers hmem he)

end

end Schema

/-! ### Converters -/

/-- The file stands in a default of the type that the converter reads. -/
def Converter.Supplies (f : FormFile) (c : Converter) : Prop := ∃ s, c = .bean s ∧ s.Supplies f

namespace Converter

variable {f : FormFile}

theorem not_reaches_of_read {k : Scalar} {s : String} {v : Value} (h : k.read s = .ok v) :
    ¬ v.Reaches f := by
  have htype := Scalar.type_of_read h
  intro hv
  cases hv <;> cases k <;> cases htype

theorem supplies_of_ofTree {s : Schema} {j : Json} {v : Value} (h : ofTree s j = .ok v)
    (hv : v.Reaches f) : Supplies f (.bean s) := by
  rw [ofTree] at h
  split at h
  · next hread =>
    cases h
    exact ⟨s, rfl, s.supplies_of_read hread hv⟩
  · cases h

theorem supplies_of_convert {c : Converter} {raw : Option (List String)} {v : Value}
    (h : c.convert raw = .ok v) (hv : v.Reaches f) : c.Supplies f := by
  cases c with
  | scalar k =>
      rw [convert] at h
      split at h
      · exact absurd hv (not_reaches_of_read h)
      · cases h
  | optional k =>
      rw [convert] at h
      split at h
      · obtain ⟨w, hw, rfl⟩ := map_eq_ok_iff.1 h
        cases hv with
        | optional hv => exact absurd hv (not_reaches_of_read hw)
      · cases h
        cases hv
  | list k =>
      rw [convert] at h
      obtain ⟨vs, hvs, rfl⟩ := map_eq_ok_iff.1 h
      cases hv with
      | list hmem hv =>
          obtain ⟨s, -, hw⟩ := exists_of_mem_mapM hvs hmem
          exact absurd hv (not_reaches_of_read hw)
  | bean s =>
      rw [convert] at h
      split at h
      · exact supplies_of_ofTree h hv
      · cases h
  | byteStream =>
      rw [convert] at h
      split at h
      · cases h
        cases hv
      · cases h
  | fileInfo => exact absurd h onlyFiles_ne_ok
  | formFile => exact absurd h onlyFiles_ne_ok
  | formFiles => exact absurd h onlyFiles_ne_ok

theorem supplies_of_convertBody {c : Converter} {media : MediaConverter} {body : Bytes}
    {v : Value} (h : c.convertBody media body = .ok v) (hv : v.Reaches f) : c.Supplies f := by
  rw [convertBody.eq_def] at h
  split at h
  · split at h
    · exact supplies_of_ofTree h hv
    · cases h
  · cases h
    cases hv
  · split at h
    · exact supplies_of_convert h hv
    · cases h

/-- Of uploads, a converter gives only those that it is given. -/
theorem mem_of_convertFiles {c : Converter} {d : Disk} {files : List FormFile} {v : Value}
    (h : c.convertFiles d files = some (.ok v)) (hv : v.Reaches f) : f ∈ files := by
  cases c with
  | byteStream =>
      obtain ⟨content, rfl⟩ := openFirst?_eq_some h
      cases hv
  | fileInfo =>
      obtain ⟨g, -, rfl⟩ := ofFirst_eq_ok (Option.some.inj h)
      cases hv
  | formFile =>
      obtain ⟨g, hg, rfl⟩ := ofFirst_eq_ok (Option.some.inj h)
      cases hv
      exact hg
  | formFiles =>
      cases h
      cases hv with
      | list hmem hv =>
          obtain ⟨g, hg, rfl⟩ := List.mem_map.1 hmem
          cases hv
          exact hg
  | _ => cases h

end Converter

end ServiceDispatch
