import ServiceDispatch.Proofs.Registry.Guest

/-!
# Registrations as a whole

A registration that fails leaves no trace. A deployment fails with the first hook of its service,
behind which only the note of the instance has to be taken back (`initService_eq`). A batch fails
with the first service that asks for no path, before anything is changed. A batch that succeeds
publishes in one version what adding its services one after the other publishes in several: the
metadata and the global filters are made anew each time, so only the last of these versions counts,
and of several services for a path the last one stays.
-/

namespace ServiceDispatch

variable {σ : Type}

namespace Registry

/-! ### Initializing -/

/-- Notes an instance as initialized. -/
def note (s : Service σ) (r : Registry σ) : Registry σ :=
  { r with initialized := s.id :: r.initialized }

theorem forget_note {s : Service σ} {r : Registry σ} (h : r.initialized.contains s.id = false) :
    (r.note s).forget s = r := by
  have hnot : s.id ∉ r.initialized := by simpa using h
  have hkept : r.initialized.filter (· != s.id) = r.initialized :=
    List.filter_eq_self.2 fun id hid => bne_iff_ne.2 fun heq => hnot (heq ▸ hid)
  rw [forget, note, List.filter_cons_of_neg (by simp), hkept]

/-- An instance can be noted before its first hook runs, if the note is taken back where the hook
fails. -/
theorem initService_eq (s : Service σ) (r : Registry σ) (app : σ) :
    r.initService s app =
      if r.initialized.contains s.id then (.ok (), r, app)
      else
        let (result, app) := s.runHook .postConstruct app
        (result, if result.isOk then r.note s else (r.note s).forget s, app) := by
  rw [initService]
  split
  · rfl
  · next hfree =>
    rcases s.runHook .postConstruct app with ⟨e | _, app'⟩
    · exact congrArg (fun r' => (Except.error e, r', app'))
        (forget_note (Bool.eq_false_iff.2 hfree)).symm
    · rfl

theorem initService_of_error {s : Service σ} {r : Registry σ} {app : σ} {e : RegistryError}
    (h : (r.initService s app).1 = .error e) : (r.initService s app).2.1 = r := by
  rw [initService_eq] at h ⊢
  split
  · rfl
  · next hfree =>
    rw [if_neg hfree] at h
    dsimp only at h ⊢
    rw [h]
    exact forget_note (Bool.eq_false_iff.2 hfree)

theorem deploy_of_error {path : String} {s : Service σ} {r : Registry σ} {app : σ}
    {e : RegistryError} (h : (r.deploy path s app).1 = .error e) :
    (r.deploy path s app).2.1 = r := by
  rw [deploy] at h ⊢
  rcases hinit : r.initService s app with ⟨e' | _, r', app'⟩
  · have hkept := initService_of_error (congrArg Prod.fst hinit)
    rwa [hinit] at hkept
  · rw [hinit] at h
    cases h

/-! ### Batches -/

theorem declaredPath_eq_ok_iff {s : Service σ} {e : String × Service σ} :
    declaredPath s = .ok e ↔ s.basePath = some e.1 ∧ e.2 = s := by
  rw [declaredPath]
  cases s.basePath with
  | none => simp
  | some path =>
      rw [Except.ok.injEq, Prod.ext_iff, Option.some.injEq, eq_comm (a := s)]

theorem declaredPath_eq_error_iff {s : Service σ} {e : RegistryError} :
    declaredPath s = .error e ↔ s.basePath = none ∧ e = .missingBasePath s.name := by
  rw [declaredPath]
  cases s.basePath with
  | none => simp [eq_comm]
  | some path => simp

/-- The services of a batch with the paths that they ask for. -/
theorem mapM_declaredPath_eq_ok_iff {services : List (Service σ)}
    {entries : List (String × Service σ)} :
    services.mapM declaredPath = .ok entries ↔
      services = entries.map Prod.snd ∧ ∀ e ∈ entries, e.2.basePath = some e.1 := by
  rw [mapM_eq_ok_iff]
  induction services generalizing entries with
  | nil => cases entries <;> simp
  | cons s services ih =>
      cases entries with
      | nil => simp
      | cons e entries =>
          rw [List.forall₂_cons, declaredPath_eq_ok_iff, ih, List.map_cons, List.cons.injEq,
            List.forall_mem_cons, eq_comm (a := e.2)]
          constructor
          · rintro ⟨⟨hpath, rfl⟩, hservices, hentries⟩
            exact ⟨⟨rfl, hservices⟩, hpath, hentries⟩
          · rintro ⟨⟨rfl, hservices⟩, hpath, hentries⟩
            exact ⟨⟨hpath, rfl⟩, hservices, hentries⟩

/-- A batch is refused for the first service that asks for no path. -/
theorem addServices_eq_error_iff {services : List (Service σ)} {r : Registry σ}
    {e : RegistryError} :
    (r.addServices services).1 = .error e ↔ ∃ before s behind,
      services = before ++ s :: behind ∧ (∀ t ∈ before, t.basePath ≠ none) ∧
        s.basePath = none ∧ e = .missingBasePath s.name := by
  have hanswer : (r.addServices services).1 = .error e ↔
      services.mapM declaredPath = .error e := by
    rw [addServices_eq]
    cases services.mapM declaredPath <;> simp
  have hreadable (t : Service σ) : (∃ d, declaredPath t = .ok d) ↔ t.basePath ≠ none := by
    simp only [declaredPath_eq_ok_iff, Option.ne_none_iff_exists']
    constructor
    · rintro ⟨d, hd, -⟩
      exact ⟨d.1, hd⟩
    · rintro ⟨path, hpath⟩
      exact ⟨(path, t), hpath, rfl⟩
  rw [hanswer, mapM_eq_error_iff]
  simp only [hreadable, declaredPath_eq_error_iff]

theorem addServices_of_error {services : List (Service σ)} {r : Registry σ} {e : RegistryError}
    (h : (r.addServices services).1 = .error e) : (r.addServices services).2 = r := by
  rw [addServices_eq] at h ⊢
  cases hentries : services.mapM declaredPath with
  | error e' => rfl
  | ok entries =>
      rw [hentries] at h
      cases h

/-- Adds services one after the other, each under the path that it asks for. -/
def addEach (services : List (Service σ)) (r : Registry σ) : Registry σ :=
  services.foldl (fun r s => match s.basePath with
    | some path => r.addService path s
    | none => r) r

theorem addEach_map_snd {entries : List (String × Service σ)}
    (h : ∀ e ∈ entries, e.2.basePath = some e.1) (r : Registry σ) :
    r.addEach (entries.map Prod.snd) = entries.foldl (fun r e => r.addService e.1 e.2) r := by
  induction entries generalizing r with
  | nil => rfl
  | cons e entries ih =>
      obtain ⟨he, hentries⟩ := List.forall_mem_cons.1 h
      rw [List.foldl_cons, ← ih hentries, List.map_cons, addEach, List.foldl_cons, he]
      rfl

/-- Services that are added one after the other are published with all others made anew, as if they
had come together, but for the versions in between. -/
theorem snapshot_foldl_addService (entries : List (String × Service σ)) {r : Registry σ}
    (h : r.snapshot.refresh = r.snapshot) :
    (entries.foldl (fun r e => r.addService e.1 e.2) r).snapshot =
      { (r.store entries).snapshot with version := r.snapshot.version + entries.length } := by
  rw [snapshot_store]
  induction entries generalizing r with
  | nil => exact h.symm
  | cons e entries ih =>
      have hsnapshot := snapshot_addService e.1 e.2 r
      have hrefresh : (r.addService e.1 e.2).snapshot.refresh =
          (r.addService e.1 e.2).snapshot := by
        rw [hsnapshot]
        rfl
      rw [List.foldl_cons, ih hrefresh, withServices, hsnapshot, List.length_cons, Nat.add_comm _ 1,
        ← Nat.add_assoc]
      rfl

/-- Of the services of a batch that ask for one path the last one is found there. -/
theorem serviceAt?_store {entries : List (String × Service σ)}
    (h : ∀ e ∈ entries, e.2.basePath = some e.1) (r : Registry σ) (path : String) :
    (r.store entries).snapshot.serviceAt? path =
      (((entries.map Prod.snd).filter fun s => s.basePath = some path).getLast?).or
        (r.snapshot.serviceAt? path) := by
  have hasked : (entries.filter fun e => e.1 = path) =
      entries.filter fun e => e.2.basePath = some path :=
    List.filter_congr fun e he => by simp only [h e he, Option.some.injEq]
  rw [Snapshot.serviceAt?, snapshot_foldl_insert, Table.get?_foldl_insert Prod.fst Prod.snd, hasked,
    List.filter_map, List.getLast?_map]
  rfl

/-- A failing first hook and a batch that is refused leave the registry as it was, and a batch is
refused for the first of its services that asks for no path. A batch that is accepted publishes in
one version what its services would publish one after the other, and of those that ask for one path
the last one is found there. -/
theorem registered_wholly_or_not (config : DispatchConfig) (past : List (RegistryOp σ))
    (start : σ) :
    let r := (run past { config } start).1
    (∀ s app e, (r.initService s app).1 = .error e → (r.initService s app).2.1 = r) ∧
      (∀ path s app e, (r.deploy path s app).1 = .error e → (r.deploy path s app).2.1 = r) ∧
      (∀ services e, (r.addServices services).1 = .error e → (r.addServices services).2 = r ∧
        ∃ before s behind, services = before ++ s :: behind ∧
          (∀ t ∈ before, t.basePath ≠ none) ∧ s.basePath = none ∧
          e = .missingBasePath s.name) ∧
      ∀ services, (r.addServices services).1 = .ok () →
        (r.addServices services).2.snapshot =
          { (r.addEach services).snapshot with version := r.snapshot.version + 1 } ∧
        ∀ path, (r.addServices services).2.snapshot.serviceAt? path =
          ((services.filter fun s => s.basePath = some path).getLast?).or
            (r.snapshot.serviceAt? path) := by
  intro r
  refine ⟨fun s app e => initService_of_error, fun path s app e => deploy_of_error,
    fun services e h => ⟨addServices_of_error h, addServices_eq_error_iff.1 h⟩,
    fun services h => ?_⟩
  have hrefresh : r.snapshot.refresh = r.snapshot := refresh_run start past rfl
  rw [addServices_eq] at h ⊢
  cases hentries : services.mapM declaredPath with
  | error e =>
      rw [hentries] at h
      cases h
  | ok entries =>
      obtain ⟨rfl, hpaths⟩ := mapM_declaredPath_eq_ok_iff.1 hentries
      refine ⟨?_, serviceAt?_store hpaths r⟩
      rw [addEach_map_snd hpaths, snapshot_foldl_addService entries hrefresh, snapshot_store]
      rfl

end Registry

end ServiceDispatch
