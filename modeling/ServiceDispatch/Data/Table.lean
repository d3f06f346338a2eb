/-!
# Tables with text keys

A table is a list of entries in increasing order of their keys, each key at most
once. `insert` keeps that order, so a table has one form for each finite map and
is listed in key order without sorting. The laws below speak of `get?`, the view
through which a table is read, and of `Ordered`, what every table made by `insert`
and `erase` from the empty one is.
-/

namespace ServiceDispatch

/-- Entries by text key. -/
abbrev Table (α : Type) := List (String × α)

namespace Table

variable {α β : Type}

/-- The value stored under a key. -/
def get? (k : String) : Table α → Option α
  | [] => none
  | e :: t => if e.1 = k then some e.2 else get? k t

/-- Stores a value, in place of the one stored under the same key. -/
def insert (k : String) (a : α) : Table α → Table α
  | [] => [(k, a)]
  | e :: t =>
    if e.1 = k then (k, a) :: t
    else if k < e.1 then (k, a) :: e :: t
    else e :: insert k a t

/-- Changes what is stored under a key, which may be nothing. -/
def alter (k : String) (f : Option α → α) (t : Table α) : Table α := insert k (f (get? k t)) t

/-- Removes every entry with the key. -/
def erase (k : String) (t : Table α) : Table α := t.filter fun e => e.1 ≠ k

/-- The keys in order. -/
def keys (t : Table α) : List String := t.map Prod.fst

/-- The stored values in the order of their keys. -/
def values (t : Table α) : List α := t.map Prod.snd

/-- The table of a list of entries, of which later ones win. -/
def ofList (es : List (String × α)) : Table α := es.foldl (fun t e => insert e.1 e.2 t) []

@[simp] theorem get?_nil (k : String) : get? k ([] : Table α) = none := rfl

theorem get?_cons (k : String) (e : String × α) (t : Table α) :
    get? k (e :: t) = if e.1 = k then some e.2 else get? k t := rfl

theorem get?_insert_self (k : String) (a : α) (t : Table α) : get? k (insert k a t) = some a := by
  induction t with
  | nil => simp [insert, get?]
  | cons e t ih =>
    by_cases h : e.1 = k
    · simp [insert, get?, h]
    · by_cases hlt : k < e.1
      · simp [insert, get?, h, hlt]
      · simp [insert, get?, h, hlt, ih]

theorem get?_insert_of_ne {k j : String} (a : α) (t : Table α) (h : k ≠ j) :
    get? j (insert k a t) = get? j t := by
  induction t with
  | nil => simp [insert, get?, h]
  | cons e t ih =>
    by_cases he : e.1 = k
    · subst he; simp [insert, get?, h]
    · by_cases hlt : k < e.1
      · simp [insert, get?, he, hlt, h]
      · simp [insert, get?, he, hlt, ih]

theorem get?_insert (k j : String) (a : α) (t : Table α) :
    get? j (insert k a t) = if k = j then some a else get? j t := by
  by_cases h : k = j
  · rw [if_pos h, ← h, get?_insert_self]
  · rw [if_neg h, get?_insert_of_ne a t h]

theorem get?_erase_self (k : String) (t : Table α) : get? k (erase k t) = none := by
  induction t with
  | nil => rfl
  | cons e t ih =>
    by_cases h : e.1 = k
    · simpa [erase, h] using ih
    · simpa [erase, h, get?] using ih

theorem get?_erase_of_ne {k j : String} (t : Table α) (h : k ≠ j) :
    get? j (erase k t) = get? j t := by
  induction t with
  | nil => rfl
  | cons e t ih =>
    by_cases he : e.1 = k
    · have hj : e.1 ≠ j := by rw [he]; exact h
      simpa [erase, he, get?, h] using ih
    · by_cases hj : e.1 = j
      · simp [erase, get?, hj, Ne.symm h]
      · simpa [erase, he, get?, hj] using ih

/-- The keys increase, so each stands at most once. -/
def Ordered (t : Table α) : Prop := (keys t).Pairwise (· < ·)

theorem ordered_nil : Ordered ([] : Table α) := List.Pairwise.nil

theorem mem_keys_insert {k j : String} {a : α} {t : Table α} (h : j ∈ keys (insert k a t)) :
    j = k ∨ j ∈ keys t := by
  induction t with
  | nil => simpa [insert, keys] using h
  | cons e t ih =>
    simp only [insert] at h
    split at h
    · simp_all [keys]
    · split at h
      · simpa [keys] using h
      · simp only [keys, List.map_cons, List.mem_cons] at h ih ⊢
        rcases h with h | h
        · exact .inr (.inl h)
        · rcases ih h with h | h
          · exact .inl h
          · exact .inr (.inr h)

theorem ordered_insert (k : String) (a : α) {t : Table α} (h : Ordered t) :
    Ordered (insert k a t) := by
  induction t with
  | nil => simp [Ordered, insert, keys]
  | cons e t ih =>
    have ⟨hlt, htail⟩ := List.pairwise_cons.1 h
    simp only [insert]
    split
    · next he => exact List.pairwise_cons.2 ⟨fun j hj => he ▸ hlt j hj, htail⟩
    · next he =>
      split
      · next hk =>
        refine List.pairwise_cons.2 ⟨fun j hj => ?_, h⟩
        rcases List.mem_cons.1 hj with rfl | hj
        · exact hk
        · exact String.lt_trans hk (hlt j hj)
      · next hk =>
        refine List.pairwise_cons.2 ⟨fun j hj => ?_, ih htail⟩
        rcases mem_keys_insert hj with rfl | hj
        · exact Decidable.byContradiction fun hn =>
            he (String.le_antisymm (String.not_lt.1 hk) (String.not_lt.1 hn))
        · exact hlt j hj

theorem ordered_erase (k : String) {t : Table α} (h : Ordered t) : Ordered (erase k t) :=
  h.sublist (List.filter_sublist.map Prod.fst)

theorem ordered_ofList (es : List (String × α)) : Ordered (ofList es) := by
  have h : ∀ (es : List (String × α)) (t : Table α), Ordered t →
      Ordered (es.foldl (fun t e => insert e.1 e.2 t) t) := by
    intro es
    induction es with
    | nil => exact fun t ht => ht
    | cons e es ih => exact fun t ht => ih _ (ordered_insert e.1 e.2 ht)
  exact h es [] ordered_nil

theorem mem_of_get? {k : String} {a : α} {t : Table α} (h : get? k t = some a) : (k, a) ∈ t := by
  induction t with
  | nil => cases h
  | cons e t ih =>
    rw [get?_cons] at h
    split at h
    · next he =>
      cases h
      exact he ▸ List.mem_cons_self
    · exact List.mem_cons_of_mem e (ih h)

/-- In a table that is in order, each entry is the one that is found under its key. -/
theorem get?_of_mem {t : Table α} (h : Ordered t) {e : String × α} (he : e ∈ t) :
    get? e.1 t = some e.2 := by
  induction t with
  | nil => cases he
  | cons d t ih =>
    have ⟨hlt, htail⟩ := List.pairwise_cons.1 h
    rw [get?_cons]
    rcases List.mem_cons.1 he with rfl | he
    · rw [if_pos rfl]
    · have hne : d.1 ≠ e.1 := by
        intro heq
        exact String.lt_irrefl _ (heq ▸ hlt e.1 (List.mem_map_of_mem he))
      rw [if_neg hne, ih htail he]

end Table

end ServiceDispatch
