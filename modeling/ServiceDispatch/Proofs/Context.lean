import ServiceDispatch.Context
import ServiceDispatch.Proofs.Text.Cut

/-!
# Context keys are told apart

The text of a key is cut at its first at sign. As long as type names hold none, the type name
stands in front of it and all of the qualifier behind it, whatever the qualifier is, so a key gives
both back (`cutAt?_new`). A qualifier that client code makes up can thus reach no provider of
another type.
-/

namespace ServiceDispatch.ContextKey

variable {t u : ValueType}

theorem text_inj {j k : ContextKey} : j.text = k.text ↔ j = k := by
  cases j
  cases k
  exact (ContextKey.mk.injEq _ _).to_iff.symm

/-- The type name and the qualifier are read off a key. -/
theorem cutAt?_new (ht : separator ∉ t.name.toList) (q : Option String) :
    Text.cutAt? separator (new t q).text = some (t.name, q.getD t.name) := by
  refine Text.cutAt?_eq_some ?_ ht
  rw [new, String.toList_append, String.toList_append, List.append_assoc]
  rfl

/-- Keys for types without an at sign in their names are the same exactly if the names are and the
qualifiers are, where the type name stands for a qualifier that is absent. Each key tells the type
that it was made for. -/
theorem new_eq_new_iff (ht : separator ∉ t.name.toList) (hu : separator ∉ u.name.toList)
    (q r : Option String) :
    (new t q = new u r ↔ t.name = u.name ∧ q.getD t.name = r.getD u.name) ∧
      (new t q).declaredType = t.name := by
  refine ⟨⟨fun h => ?_, ?_⟩, ?_⟩
  · have hcut := cutAt?_new hu r
    rw [← h, cutAt?_new ht q] at hcut
    exact Prod.mk.inj (Option.some.inj hcut)
  · rintro ⟨hname, hqualifier⟩
    rw [new, new, hqualifier, hname]
  · rw [declaredType, cutAt?_new ht q]

/-- An at sign in the qualifier is harmless, whereas one in a type name makes keys ambiguous. -/
theorem new_eq_new_iff_tenant :
    let tenant := ValueType.declared "Tenant"
    let locale := ValueType.declared "Locale"
    separator ∉ tenant.name.toList ∧ separator ∉ locale.name.toList ∧
      new tenant (some "eu@west") ≠ new locale (some "eu@west") ∧
      (new tenant (some "eu@west")).declaredType = "Tenant" ∧
      new (.declared "Tenant@eu") (some "west") = new tenant (some "eu@west") := by
  intro tenant locale
  have htenant : separator ∉ tenant.name.toList := by decide
  have hlocale : separator ∉ locale.name.toList := by decide
  obtain ⟨hiff, htype⟩ := new_eq_new_iff htenant hlocale (some "eu@west") (some "eu@west")
  have hname : tenant.name ≠ locale.name := by decide
  exact ⟨htenant, hlocale, fun h => hname (hiff.1 h).1, htype, by decide⟩

end ServiceDispatch.ContextKey
