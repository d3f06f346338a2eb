import Mathlib.Data.List.Forall2
import Mathlib.Data.List.Perm.Basic

/-!
# Chains of steps that may fail

A chain of steps succeeds exactly if each step does. The statements below open one step at a
time, so that a proof about a chain follows it from the front. If all that any of its steps can fail
with is of some sort, so is what the chain can fail with.
-/

namespace ServiceDispatch

variable {ε α β : Type}

theorem bind_eq_ok_iff {x : Except ε α} {f : α → Except ε β} {b : β} :
    (x >>= f) = .ok b ↔ ∃ a, x = .ok a ∧ f a = .ok b := by
  cases x with
  | error e => simp [bind, Except.bind]
  | ok a => simp [bind, Except.bind]

theorem map_eq_ok_iff {x : Except ε α} {f : α → β} {b : β} :
    x.map f = .ok b ↔ ∃ a, x = .ok a ∧ f a = b := by
  cases x with
  | error e => simp [Except.map]
  | ok a => simp [Except.map]

/-- A list of steps succeeds exactly if each of them does. -/
theorem mapM_eq_ok_iff {f : α → Except ε β} {as : List α} {bs : List β} :
    as.mapM f = .ok bs ↔ List.Forall₂ (fun a b => f a = .ok b) as bs := by
  induction as generalizing bs with
  | nil =>
      rw [List.mapM_nil, List.forall₂_nil_left_iff]
      constructor
      · intro h
        cases h
        rfl
      · rintro rfl
        rfl
  | cons a as ih =>
      rw [List.mapM_cons, bind_eq_ok_iff, List.forall₂_cons_left_iff]
      constructor
      · rintro ⟨b, hb, h⟩
        obtain ⟨bs, hbs, h⟩ := bind_eq_ok_iff.1 h
        cases h
        exact ⟨b, bs, hb, ih.1 hbs, rfl⟩
      · rintro ⟨b, bs, hb, hbs, rfl⟩
        exact ⟨b, hb, bind_eq_ok_iff.2 ⟨bs, ih.2 hbs, rfl⟩⟩

/-- In lists that are related one by one, each element on the right has its element on the left. -/
theorem exists_of_forall₂ {R : α → β → Prop} {as : List α} {bs : List β}
    (h : List.Forall₂ R as bs) {b : β} (hb : b ∈ bs) : ∃ a ∈ as, R a b := by
  induction h with
  | nil => cases hb
  | cons hab _ ih =>
      rcases List.mem_cons.1 hb with rfl | hb
      · exact ⟨_, List.mem_cons_self, hab⟩
      · obtain ⟨a, ha, h⟩ := ih hb
        exact ⟨a, List.mem_cons_of_mem _ ha, h⟩

/-- What a successful run over a list gives comes from the elements of the list. -/
theorem exists_of_mem_mapM {f : α → Except ε β} {as : List α} {bs : List β}
    (h : as.mapM f = .ok bs) {b : β} (hb : b ∈ bs) : ∃ a ∈ as, f a = .ok b :=
  exists_of_forall₂ (mapM_eq_ok_iff.1 h) hb

theorem exists_mapM_eq_ok_iff {f : α → Except ε β} {as : List α} :
    (∃ bs, as.mapM f = .ok bs) ↔ ∀ a ∈ as, ∃ b, f a = .ok b := by
  simp only [mapM_eq_ok_iff]
  induction as with
  | nil => simp
  | cons a as ih =>
      rw [List.forall_mem_cons, ← ih]
      constructor
      · rintro ⟨bs, h⟩
        obtain ⟨b, bs, hb, hbs, -⟩ := List.forall₂_cons_left_iff.1 h
        exact ⟨⟨b, hb⟩, bs, hbs⟩
      · rintro ⟨⟨b, hb⟩, bs, hbs⟩
        exact ⟨b :: bs, .cons hb hbs⟩

/-- A list of steps fails as the first of them that fails. -/
theorem mapM_eq_error_iff {f : α → Except ε β} {as : List α} {e : ε} :
    as.mapM f = .error e ↔ ∃ before a after, as = before ++ a :: after ∧
      (∀ x ∈ before, ∃ b, f x = .ok b) ∧ f a = .error e := by
  induction as with
  | nil => simp [pure, Except.pure]
  | cons a as ih =>
      rw [List.mapM_cons]
      constructor
      · intro h
        cases ha : f a with
        | error e' =>
            rw [ha] at h
            cases h
            exact ⟨[], a, as, rfl, by simp, ha⟩
        | ok b =>
            rw [ha] at h
            cases has : as.mapM f with
            | error e' =>
                rw [has] at h
                cases h
                obtain ⟨before, x, after, rfl, hbefore, hx⟩ := ih.1 has
                exact ⟨a :: before, x, after, rfl, List.forall_mem_cons.2 ⟨⟨b, ha⟩, hbefore⟩, hx⟩
            | ok bs =>
                rw [has] at h
                cases h
      · rintro ⟨before, x, after, h, hbefore, hx⟩
        cases before with
        | nil =>
            cases h
            rw [hx]
            rfl
        | cons y before =>
            cases h
            obtain ⟨⟨b, hb⟩, hbefore⟩ := List.forall_mem_cons.1 hbefore
            rw [hb, ih.2 ⟨before, x, after, rfl, hbefore, hx⟩]
            rfl

/-- Steps in another order give the same, each to its own. -/
theorem mapM_of_perm {f : α → Except ε β} {as as' : List α} {bs : List β} (hperm : as'.Perm as)
    (h : as.mapM f = .ok bs) :
    ∃ bs', as'.mapM f = .ok bs' ∧ (as'.zip bs').Perm (as.zip bs) := by
  simp only [mapM_eq_ok_iff] at h ⊢
  induction hperm generalizing bs with
  | nil => exact ⟨bs, h, .refl _⟩
  | cons a _ ih =>
      obtain ⟨b, bs, hb, hbs, rfl⟩ := List.forall₂_cons_left_iff.1 h
      obtain ⟨bs', hbs', hzip⟩ := ih hbs
      exact ⟨b :: bs', .cons hb hbs', hzip.cons (a, b)⟩
  | swap x y as =>
      obtain ⟨b, _, hb, htail, rfl⟩ := List.forall₂_cons_left_iff.1 h
      obtain ⟨b', bs, hb', hbs, rfl⟩ := List.forall₂_cons_left_iff.1 htail
      exact ⟨b' :: b :: bs, .cons hb' (.cons hb hbs), .swap _ _ _⟩
  | trans _ _ ih ih' =>
      obtain ⟨bs', hbs', hzip'⟩ := ih' h
      obtain ⟨bs'', hbs'', hzip⟩ := ih hbs'
      exact ⟨bs'', hbs'', hzip.trans hzip'⟩

/-- Results and the error behind them can be told from the list of both. -/
theorem eq_of_map_ok_append {as bs : List α} {last : Option ε} {e : ε}
    (h : as.map Except.ok ++ (last.map Except.error).toList =
      bs.map Except.ok ++ [Except.error e]) : as = bs ∧ last = some e := by
  induction as generalizing bs with
  | nil =>
      cases bs with
      | nil => cases last <;> simp_all
      | cons b bs => cases last <;> simp at h
  | cons a as ih =>
      cases bs with
      | nil => simp at h
      | cons b bs =>
          obtain ⟨hab, h⟩ := List.cons.inj h
          obtain ⟨rfl, hlast⟩ := ih h
          cases hab
          exact ⟨rfl, hlast⟩

/-! ### Ways to fail -/

/-- If the step fails, it is with an error of the given sort. -/
def FailsWith (P : ε → Prop) (x : Except ε α) : Prop := ∀ e, x = .error e → P e

variable {P : ε → Prop}

theorem failsWith_ok (a : α) : FailsWith P (.ok a) := by rintro e ⟨⟩

theorem failsWith_error {e : ε} (h : P e) : FailsWith P (.error e : Except ε α) := by
  rintro e' ⟨⟩
  exact h

theorem FailsWith.bind {x : Except ε α} {f : α → Except ε β} (hx : FailsWith P x)
    (hf : ∀ a, FailsWith P (f a)) : FailsWith P (x >>= f) := by
  cases x with
  | error e => exact failsWith_error (hx e rfl)
  | ok a => exact hf a

theorem FailsWith.map {x : Except ε α} (hx : FailsWith P x) (f : α → β) :
    FailsWith P (x.map f) := by
  cases x with
  | error e => exact failsWith_error (hx e rfl)
  | ok a => exact failsWith_ok (f a)

theorem failsWith_mapM {f : α → Except ε β} {as : List α} (hf : ∀ a ∈ as, FailsWith P (f a)) :
    FailsWith P (as.mapM f) := by
  induction as with
  | nil => exact failsWith_ok []
  | cons a as ih =>
      obtain ⟨ha, has⟩ := List.forall_mem_cons.1 hf
      rw [List.mapM_cons]
      exact ha.bind fun b => (ih has).bind fun bs => failsWith_ok (b :: bs)

end ServiceDispatch
