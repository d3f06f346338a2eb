import ServiceDispatch.Data.Table
import Mathlib.Order.Basic
import Mathlib.Data.String.Basic

/-!
# Tables by what is found in them

A table in order is determined by what is found under each key. Storing a list of entries one after
the other leaves under a key the last of those that the list has for it, and changing what is
stored leaves what the changes under that key alone come to. Entries under different keys do not
get in each other's way, whether they are stored, passed over or spread out to lists. What is
stored stays, and the values of a table are those stored, whether or not the table is in order.
-/

namespace ServiceDispatch.Table

variable {α β : Type}

theorem ordered_cons {e : String × α} {t : Table α} :
    Ordered (e :: t) ↔ (∀ k ∈ keys t, e.1 < k) ∧ Ordered t :=
  List.pairwise_cons

theorem get?_eq_none_of_lt {k : String} {t : Table α} (h : ∀ j ∈ keys t, k < j) :
    get? k t = none := by
  induction t with
  | nil => rfl
  | cons e t ih =>
      have hlt : k < e.1 := h e.1 (by simp [keys])
      rw [get?_cons, if_neg (ne_of_gt hlt)]
      exact ih fun j hj => h j (List.mem_cons_of_mem e.1 hj)

theorem ext : {s t : Table α} → Ordered s → Ordered t → (∀ k, get? k s = get? k t) → s = t
  | [], [], _, _, _ => rfl
  | [], e :: t, _, _, h => by simpa [get?_cons] using h e.1
  | d :: s, [], _, _, h => by simpa [get?_cons] using h d.1
  | d :: s, e :: t, hs, ht, h => by
      obtain ⟨hds, hs⟩ := ordered_cons.1 hs
      obtain ⟨het, ht⟩ := ordered_cons.1 ht
      have hd := h d.1
      have he := h e.1
      rw [get?_cons, get?_cons, if_pos rfl] at hd
      rw [get?_cons, get?_cons, if_pos rfl] at he
      -- the lesser of the two first keys would not be found in the other table
      rcases lt_trichotomy d.1 e.1 with hlt | heq | hlt
      · rw [if_neg (ne_of_gt hlt), get?_eq_none_of_lt fun j hj => hlt.trans (het j hj)] at hd
        cases hd
      · rw [if_pos heq.symm] at hd
        have htail : ∀ k, get? k s = get? k t := by
          intro k
          by_cases hk : d.1 = k
          · subst hk
            rw [get?_eq_none_of_lt hds, get?_eq_none_of_lt (heq ▸ het)]
          · have hother := h k
            rwa [get?_cons, get?_cons, if_neg hk, if_neg (heq ▸ hk)] at hother
        rw [ext hs ht htail, Prod.ext heq (Option.some.inj hd)]
      · rw [if_neg (ne_of_gt hlt), get?_eq_none_of_lt fun j hj => hlt.trans (hds j hj)] at he
        cases he

/-- Of the entries stored under a key the last one stays. -/
theorem get?_foldl_insert (key : β → String) (value : β → α) (k : String) (es : List β)
    (t : Table α) :
    get? k (es.foldl (fun t e => insert (key e) (value e) t) t) =
      ((es.filter fun e => key e = k).getLast?.map value).or (get? k t) := by
  induction es generalizing t with
  | nil => rfl
  | cons e es ih =>
      rw [List.foldl_cons, ih, get?_insert]
      by_cases h : key e = k
      · rw [List.filter_cons_of_pos (by simpa using h), List.getLast?_cons, if_pos h]
        cases (es.filter fun e => key e = k).getLast? <;> rfl
      · rw [List.filter_cons_of_neg (by simpa using h), if_neg h]

theorem ordered_foldl_insert (key : β → String) (value : β → α) (es : List β) {t : Table α}
    (h : Ordered t) : Ordered (es.foldl (fun t e => insert (key e) (value e) t) t) := by
  induction es generalizing t with
  | nil => exact h
  | cons e es ih => exact ih (ordered_insert (key e) (value e) h)

/-- What is changed under a key again and again is changed by the entries with that key alone. -/
theorem get?_foldl_alter (key : β → String) (f : β → Option α → α) (k : String) (es : List β)
    (t : Table α) :
    get? k (es.foldl (fun t e => alter (key e) (f e) t) t) =
      (es.filter fun e => key e = k).foldl (fun a e => some (f e a)) (get? k t) := by
  induction es generalizing t with
  | nil => rfl
  | cons e es ih =>
      rw [List.foldl_cons, ih, alter, get?_insert]
      by_cases h : key e = k
      · rw [List.filter_cons_of_pos (by simpa using h), List.foldl_cons, if_pos h, h]
      · rw [List.filter_cons_of_neg (by simpa using h), if_neg h]

theorem ordered_foldl_alter (key : β → String) (f : β → Option α → α) (es : List β) {t : Table α}
    (h : Ordered t) : Ordered (es.foldl (fun t e => alter (key e) (f e) t) t) := by
  induction es generalizing t with
  | nil => exact h
  | cons e es ih => exact ih (ordered_insert (key e) _ h)

/-- Where a key is stored does not depend on what is stored. -/
theorem keys_insert_congr (k : String) (a : α) (b : β) {s : Table α} {t : Table β}
    (h : keys s = keys t) : keys (insert k a s) = keys (insert k b t) := by
  induction s generalizing t with
  | nil =>
      rw [List.map_eq_nil_iff.1 h.symm]
      rfl
  | cons d s ih =>
      cases t with
      | nil => cases h
      | cons e t =>
          obtain ⟨hhead, htail⟩ := List.cons.inj h
          rw [insert, insert, hhead]
          split
          · exact congrArg (k :: ·) htail
          · split
            · exact congrArg (k :: ·) h
            · exact congrArg₂ List.cons hhead (ih htail)

/-- The keys of a table depend on the keys alone that were stored, whatever stands under them. -/
theorem keys_foldl_alter_congr {γ : Type} (key : γ → String) (f : γ → Option α → α)
    (g : γ → Option β → β) (es : List γ) {s : Table α} {t : Table β} (h : keys s = keys t) :
    keys (es.foldl (fun s e => alter (key e) (f e) s) s) =
      keys (es.foldl (fun t e => alter (key e) (g e) t) t) := by
  induction es generalizing s t with
  | nil => exact h
  | cons e es ih => exact ih (keys_insert_congr (key e) _ _ h)

theorem length_insert_le (k : String) (a : α) (t : Table α) :
    (insert k a t).length ≤ t.length + 1 := by
  induction t with
  | nil => exact Nat.le_refl 1
  | cons e t ih =>
      rw [insert]
      split
      · exact Nat.le_succ _
      · split
        · exact Nat.le_refl _
        · exact Nat.succ_le_succ ih

/-! ### Entries apart from each other -/

/-- Entries under different keys can be stored in either order. -/
theorem insert_comm {j k : String} (h : j ≠ k) (a b : α) {t : Table α} (ht : Ordered t) :
    insert j a (insert k b t) = insert k b (insert j a t) := by
  refine ext (ordered_insert j a (ordered_insert k b ht))
    (ordered_insert k b (ordered_insert j a ht)) fun i => ?_
  simp only [get?_insert]
  by_cases hj : j = i
  · have hk : k ≠ i := fun hk => h (hj.trans hk.symm)
    rw [if_pos hj, if_neg hk, if_pos hj]
  · rw [if_neg hj, if_neg hj]

theorem foldl_insert_comm {k : String} {b : α} {es : List (String × α)} (h : ∀ e ∈ es, e.1 ≠ k)
    {t : Table α} (ht : Ordered t) :
    es.foldl (fun t e => insert e.1 e.2 t) (insert k b t) =
      insert k b (es.foldl (fun t e => insert e.1 e.2 t) t) := by
  induction es generalizing t with
  | nil => rfl
  | cons e es ih =>
      obtain ⟨he, hes⟩ := List.forall_mem_cons.1 h
      rw [List.foldl_cons, insert_comm he e.2 b ht, ih hes (ordered_insert e.1 e.2 ht),
        List.foldl_cons]

/-- Of the entry under a key it is asked whether it passes. -/
theorem get?_filter {p : String × α → Bool} (k : String) {t : Table α} (ht : Ordered t) :
    get? k (t.filter p) = (get? k t).filter fun a => p (k, a) := by
  induction t with
  | nil => rfl
  | cons e t ih =>
      obtain ⟨hlt, htail⟩ := ordered_cons.1 ht
      rw [get?_cons, List.filter_cons]
      by_cases hk : e.1 = k
      · subst hk
        rw [if_pos rfl]
        split
        · next hp => rw [get?_cons, if_pos rfl, Option.filter_some, if_pos hp]
        · next hp =>
          rw [ih htail, get?_eq_none_of_lt hlt, Option.filter_some, if_neg hp]
          rfl
      · rw [if_neg hk]
        split
        · rw [get?_cons, if_neg hk, ih htail]
        · exact ih htail

theorem ordered_filter (p : String × α → Bool) {t : Table α} (ht : Ordered t) :
    Ordered (t.filter p) :=
  ht.sublist (List.filter_sublist.map Prod.fst)

theorem filter_insert_of_pos {p : String × α → Bool} {k : String} {a : α} {t : Table α}
    (ht : Ordered t) (hp : p (k, a) = true) :
    (insert k a t).filter p = insert k a (t.filter p) := by
  refine ext (ordered_filter p (ordered_insert k a ht))
    (ordered_insert k a (ordered_filter p ht)) fun j => ?_
  rw [get?_filter j (ordered_insert k a ht), get?_insert, get?_insert, get?_filter j ht]
  split
  · next hj => rw [Option.filter_some, if_pos (hj ▸ hp)]
  · rfl

theorem filter_insert_of_neg {p : String × α → Bool} {k : String} {a : α} {t : Table α}
    (ht : Ordered t) (hfree : get? k t = none) (hp : p (k, a) = false) :
    (insert k a t).filter p = t.filter p := by
  refine ext (ordered_filter p (ordered_insert k a ht)) (ordered_filter p ht) fun j => ?_
  rw [get?_filter j (ordered_insert k a ht), get?_insert, get?_filter j ht]
  split
  · next hj =>
    subst hj
    rw [hfree, Option.filter_some, hp]
    rfl
  · rfl

/-- Of what the entries are spread out to, that with a key comes from the entry under it. -/
theorem filter_flatMap (key : β → String) (spread : String × α → List β)
    (hkey : ∀ e, ∀ b ∈ spread e, key b = e.1) (k : String) {t : Table α} (ht : Ordered t) :
    (t.flatMap spread).filter (fun b => key b = k) =
      ((get? k t).map fun a => spread (k, a)).getD [] := by
  induction t with
  | nil => rfl
  | cons e t ih =>
      obtain ⟨hlt, htail⟩ := ordered_cons.1 ht
      rw [List.flatMap_cons, List.filter_append, ih htail, get?_cons]
      by_cases hk : e.1 = k
      · subst hk
        have hall : ∀ b ∈ spread e, decide (key b = e.1) = true := fun b hb =>
          decide_eq_true (hkey e b hb)
        rw [List.filter_eq_self.2 hall, get?_eq_none_of_lt hlt, if_pos rfl]
        exact List.append_nil _
      · have hnone : ∀ b ∈ spread e, ¬ decide (key b = k) = true := fun b hb => by
          rwa [decide_eq_true_eq, hkey e b hb]
        rw [List.filter_eq_nil_iff.2 hnone, if_neg hk, List.nil_append]

theorem perm_insert {k : String} (a : α) {t : Table α} (h : get? k t = none) :
    (insert k a t).Perm ((k, a) :: t) := by
  induction t with
  | nil => exact .refl _
  | cons e t ih =>
      rw [get?_cons] at h
      split at h
      · cases h
      · next hne =>
        rw [insert, if_neg hne]
        split
        · exact .refl _
        · exact ((ih h).cons e).trans (.swap _ _ _)

/-! ### Changed values -/

/-- The table of what a function makes of the stored values. -/
def mapValues (f : α → β) (t : Table α) : Table β := t.map fun e => (e.1, f e.2)

theorem insert_mapValues (f : α → β) (k : String) (a : α) (t : Table α) :
    insert k (f a) (mapValues f t) = mapValues f (insert k a t) := by
  induction t with
  | nil => rfl
  | cons e t ih =>
      rw [mapValues] at ih
      rw [mapValues, List.map_cons, insert, insert]
      split
      · rfl
      · split
        · rfl
        · rw [ih]
          rfl

theorem get?_mapValues (f : α → β) (k : String) (t : Table α) :
    get? k (mapValues f t) = (get? k t).map f := by
  induction t with
  | nil => rfl
  | cons e t ih =>
      rw [mapValues] at ih
      rw [mapValues, List.map_cons, get?_cons, get?_cons, ih]
      split
      · rfl
      · rfl

/-! ### Stored values -/

theorem mem_values_insert_self (k : String) (a : α) (t : Table α) : a ∈ values (insert k a t) :=
  List.mem_map_of_mem (mem_of_get? (get?_insert_self k a t))

theorem mem_values_insert {k : String} {a b : α} {t : Table α} (h : b ∈ values (insert k a t)) :
    b = a ∨ b ∈ values t := by
  induction t with
  | nil => exact .inl (List.mem_singleton.1 h)
  | cons e t ih =>
      rw [insert] at h
      split at h
      · exact (List.mem_cons.1 h).imp_right (List.mem_cons_of_mem e.2)
      · split at h
        · exact List.mem_cons.1 h
        · rcases List.mem_cons.1 h with rfl | h
          · exact .inr List.mem_cons_self
          · exact (ih h).imp_right (List.mem_cons_of_mem e.2)

/-- Every value of a table into which entries were stored is one of theirs or was there before. -/
theorem mem_values_foldl_insert {es : List (String × α)} {t : Table α} {b : α}
    (h : b ∈ values (es.foldl (fun t e => insert e.1 e.2 t) t)) :
    (∃ e ∈ es, e.2 = b) ∨ b ∈ values t := by
  induction es generalizing t with
  | nil => exact .inr h
  | cons e es ih =>
      rcases ih h with ⟨d, hd, rfl⟩ | h
      · exact .inl ⟨d, List.mem_cons_of_mem e hd, rfl⟩
      · rcases mem_values_insert h with rfl | h
        · exact .inl ⟨e, List.mem_cons_self, rfl⟩
        · exact .inr h

end ServiceDispatch.Table
