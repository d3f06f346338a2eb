/-!
# ASCII letter case

Media types, header names and parameter names are compared without regard to
the case of ASCII letters; every other character counts as itself. `lower` is
the normal form of that comparison, so two texts agree exactly when their
lower-case forms are equal.
-/

namespace ServiceDispatch.Text

/-- The text with ASCII capitals replaced by small letters. -/
def lower (s : String) : String := String.ofList (s.toList.map Char.toLower)

@[simp] theorem toList_lower (s : String) : (lower s).toList = s.toList.map Char.toLower := by
  simp [lower]

/-- Equality up to the case of ASCII letters. -/
def sameIgnoringCase (s t : String) : Bool := lower s == lower t

theorem sameIgnoringCase_iff (s t : String) :
    sameIgnoringCase s t = true ↔ lower s = lower t := by
  simp [sameIgnoringCase]

@[simp] theorem sameIgnoringCase_refl (s : String) : sameIgnoringCase s s = true := by
  simp [sameIgnoringCase]

end ServiceDispatch.Text
