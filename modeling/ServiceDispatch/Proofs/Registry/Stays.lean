import ServiceDispatch.Proofs.Registry.HookRuns

/-!
# Stays in the registry

An instance is released when its second hook runs, or when a call takes its last registration. From
one release to the next its first hook succeeds at most once: the notes that a registry keeps of
initialized instances say exactly which instances have been constructed and not released since.
`standing` reads that off the events alone, and every call changes its notes as its own events
demand. Initializing all services without a failure leaves each of them noted.
-/

namespace ServiceDispatch

variable {σ : Type}

namespace LifecycleEvent

/-- The instance is released: its second hook runs, or it leaves the registry. -/
def Releases (id : Nat) : LifecycleEvent → Prop
  | ran run => run.service = id ∧ run.phase = .preDestroy
  | left service => service = id

instance (id : Nat) : DecidablePred (Releases id)
  | ran run => inferInstanceAs (Decidable (run.service = id ∧ run.phase = .preDestroy))
  | left service => inferInstanceAs (Decidable (service = id))

/-- The first hook of the instance succeeds. -/
abbrev constructed (id : Nat) : LifecycleEvent := .ran ⟨id, .postConstruct, true⟩

/-- Whether an instance stands constructed behind an event. There is no answer if its first hook
succeeds although it stands constructed. -/
def stand (id : Nat) (before : Bool) (e : LifecycleEvent) : Option Bool :=
  if e.Releases id then some false
  else if e = constructed id then if before then none else some true
  else some before

/-- Whether an instance stands constructed behind some events. -/
def standing (id : Nat) (before : Bool) (es : List LifecycleEvent) : Option Bool :=
  es.foldlM (stand id) before

variable {id : Nat} {before behind : Bool} {es fs : List LifecycleEvent}

theorem stand_constructed : stand id before (constructed id) =
    if before then none else some true := by
  simp [stand, Releases]

theorem stand_of_ne {run : HookRun} (h : run.service ≠ id) :
    stand id before (.ran run) = some before := by
  have hrun : run ≠ ⟨id, .postConstruct, true⟩ := fun heq => h (by rw [heq])
  simp [stand, Releases, h, hrun]

@[simp] theorem standing_nil : standing id before [] = some before := rfl

theorem standing_cons (e : LifecycleEvent) :
    standing id before (e :: es) = (stand id before e).bind fun b => standing id b es :=
  List.foldlM_cons

theorem standing_append : standing id before (es ++ fs) =
    (standing id before es).bind fun b => standing id b fs :=
  List.foldlM_append

theorem standing_append_of_eq {between : Bool} (hes : standing id before es = some between)
    (hfs : standing id between fs = some behind) : standing id before (es ++ fs) = some behind := by
  rw [standing_append, hes]
  exact hfs

theorem standing_left (ids : List Nat) :
    standing id before (ids.map .left) = some (before && !ids.contains id) := by
  induction ids generalizing before with
  | nil => simp
  | cons i ids ih =>
      rw [List.map_cons, standing_cons, stand, List.contains_cons]
      by_cases hi : i = id
      · simp [Releases, hi, ih]
      · have hne : (id == i) = false := beq_false_of_ne (Ne.symm hi)
        simp [Releases, hi, ih, hne]

/-- Where nothing releases the instance, a constructed instance stays constructed. -/
theorem exists_releases (h : standing id true es = some false) : ∃ e ∈ es, e.Releases id := by
  induction es with
  | nil => cases h
  | cons e es ih =>
      by_cases hreleases : e.Releases id
      · exact ⟨e, List.mem_cons_self, hreleases⟩
      · rw [standing_cons, stand, if_neg hreleases] at h
        split at h
        · cases h
        · obtain ⟨d, hd, hreleases⟩ := ih h
          exact ⟨d, List.mem_cons_of_mem e hd, hreleases⟩

/-- Between two successes of the first hook there is a release. -/
theorem exists_releases_between {pre mid post : List LifecycleEvent}
    (h : standing id before (pre ++ constructed id :: mid ++ constructed id :: post) = some behind) :
    ∃ e ∈ mid, e.Releases id := by
  rw [List.append_assoc, List.cons_append, standing_append, Option.bind_eq_some_iff] at h
  obtain ⟨first, -, h⟩ := h
  rw [standing_cons, stand_constructed, Option.bind_eq_some_iff] at h
  obtain ⟨_, hfirst, h⟩ := h
  rw [standing_append, Option.bind_eq_some_iff] at h
  obtain ⟨second, hmid, h⟩ := h
  rw [standing_cons, stand_constructed, Option.bind_eq_some_iff] at h
  obtain ⟨_, hsecond, -⟩ := h
  -- the first hook succeeds only where the instance does not stand constructed
  cases first <;> cases second <;> cases hfirst <;> cases hsecond
  exact exists_releases hmid

/-- Who stands constructed has been constructed with no release behind. -/
theorem exists_constructed (h : standing id false es = some true) :
    ∃ pre post, es = pre ++ constructed id :: post ∧ ∀ e ∈ post, ¬e.Releases id := by
  induction es using List.reverseRecOn with
  | nil => cases h
  | append_singleton es e ih =>
      rw [standing_append, Option.bind_eq_some_iff] at h
      obtain ⟨between, hes, h⟩ := h
      rw [standing_cons, Option.bind_eq_some_iff] at h
      obtain ⟨last, hlast, h⟩ := h
      cases h
      rw [stand] at hlast
      split at hlast
      · cases hlast
      · next hreleases =>
        split at hlast
        · next he => exact ⟨es, [], by rw [he], by simp⟩
        · cases hlast
          obtain ⟨pre, post, rfl, hpost⟩ := ih hes
          refine ⟨pre, post ++ [e], by simp, fun d hd => ?_⟩
          rcases List.mem_append.1 hd with hd | hd
          · exact hpost d hd
          · exact List.mem_singleton.1 hd ▸ hreleases

end LifecycleEvent

namespace Registry

open LifecycleEvent (standing)

/-- Between two moments of a registry hooks ran, and the notes changed as these runs demand. -/
def Notes (before after : Registry (Recorded σ) × Recorded σ) : Prop :=
  ∃ runs, after.2.runs = before.2.runs ++ runs ∧ ∀ id,
    standing id (before.1.initialized.contains id) (runs.map .ran) =
      some (after.1.initialized.contains id)

theorem Notes.refl (s : Registry (Recorded σ) × Recorded σ) : Notes s s :=
  ⟨[], (List.append_nil _).symm, fun _ => rfl⟩

theorem Notes.trans {s t u : Registry (Recorded σ) × Recorded σ} (hst : Notes s t)
    (htu : Notes t u) : Notes s u := by
  obtain ⟨first, hfirst, hs⟩ := hst
  obtain ⟨second, hsecond, ht⟩ := htu
  refine ⟨first ++ second, by rw [hsecond, hfirst, List.append_assoc], fun id => ?_⟩
  rw [List.map_append]
  exact LifecycleEvent.standing_append_of_eq (hs id) (ht id)

theorem notes_initService (s : Service σ) (r : Registry (Recorded σ)) (a : Recorded σ) :
    Notes (r, a) (r.initService s.recorded a).2 := by
  refine ⟨_, runs_initService s r a, fun id => ?_⟩
  rw [contains_initService]
  by_cases hid : s.id = id
  · subst hid
    by_cases hnoted : r.initialized.contains s.id = true
    · rw [if_pos hnoted, hnoted, Bool.true_or]
      rfl
    · rw [if_neg hnoted, Bool.eq_false_iff.2 hnoted]
      cases (r.initService s.recorded a).1.isOk <;>
        simp [LifecycleEvent.standing_cons, LifecycleEvent.stand, LifecycleEvent.Releases,
          Service.recorded]
  · have hne : (id == s.recorded.id) = false := beq_false_of_ne (Ne.symm hid)
    rw [hne, Bool.false_and, Bool.or_false]
    split
    · rfl
    · rw [List.map_singleton, LifecycleEvent.standing_cons, LifecycleEvent.stand_of_ne hid]
      rfl

theorem notes_preDestroyService (s : Service σ) (r : Registry (Recorded σ)) (a : Recorded σ) :
    Notes (r, a) (r.preDestroyService s.recorded a).2 := by
  refine ⟨_, runs_preDestroyService s r a, fun id => ?_⟩
  have hafter : (r.preDestroyService s.recorded a).2.1 = r.forget s.recorded := rfl
  rw [hafter, contains_forget, List.map_singleton, LifecycleEvent.standing_cons]
  by_cases hid : s.id = id
  · subst hid
    simp [LifecycleEvent.stand, LifecycleEvent.Releases, Service.recorded]
  · have hne : (id != s.recorded.id) = true := bne_iff_ne.2 (Ne.symm hid)
    rw [LifecycleEvent.stand_of_ne hid, hne, Bool.and_true]
    rfl

/-- All registered services note the runs of their hooks. -/
def Recording (r : Registry (Recorded σ)) : Prop := ∀ s ∈ r.services, ∃ t : Service σ, t.recorded = s

theorem notes_initAll {services : List (Service (Recorded σ))}
    (h : ∀ s ∈ services, ∃ t : Service σ, t.recorded = s) (r : Registry (Recorded σ))
    (a : Recorded σ) : Notes (r, a) (initAll services r a).2 := by
  induction services generalizing r a with
  | nil => exact .refl (r, a)
  | cons s services ih =>
      obtain ⟨hs, hservices⟩ := List.forall_mem_cons.1 h
      obtain ⟨t, rfl⟩ := hs
      have hfirst := notes_initService t r a
      rw [initAll]
      split
      · next heq =>
        rw [heq] at hfirst
        exact hfirst.trans (ih hservices _ _)
      · next heq =>
        rw [heq] at hfirst
        exact hfirst

theorem notes_preDestroyAll {services : List (Service (Recorded σ))}
    (h : ∀ s ∈ services, ∃ t : Service σ, t.recorded = s) (r : Registry (Recorded σ))
    (a : Recorded σ) : Notes (r, a) (preDestroyAll services r a).2 := by
  induction services generalizing r a with
  | nil => exact .refl (r, a)
  | cons s services ih =>
      obtain ⟨hs, hservices⟩ := List.forall_mem_cons.1 h
      obtain ⟨t, rfl⟩ := hs
      exact (notes_preDestroyService t r a).trans (ih hservices _ _)

end Registry

namespace ServiceOp

open LifecycleEvent (standing)
open Registry (Notes Recording)

variable {op : ServiceOp σ} {r : Registry (Recorded σ)} {app : σ}

/-- What a call does to the registry when its hooks have run: nothing, or it stores services, or it
removes one. -/
inductive Effect (op : ServiceOp σ) (r between : Registry (Recorded σ)) :
    Registry (Recorded σ) → Prop where
  | kept (htaken : ∀ s ∈ op.taken r, s ∈ r.services) : Effect op r between between
  | stored (hremoved : op.removed r = []) : Effect op r between (between.store op.stored)
  | removed (s : Service σ) (hstored : op.stored = [])
      (hremoved : op.removed r = r.services.filter s.recorded.isSame) :
      Effect op r between (between.removeService s.recorded).2

theorem Effect.kept_of_nil {between : Registry (Recorded σ)} (hstored : op.stored = [])
    (hremoved : op.removed r = []) : Effect op r between between := by
  refine .kept fun s hs => ?_
  rw [taken, hstored, hremoved] at hs
  cases hs

/-- Every call runs hooks, which leave the snapshot, and then has its effect. -/
theorem call_cases (h : Recording r) (op : ServiceOp σ) (app : σ) :
    ∃ between : Registry (Recorded σ), Notes (r, ⟨app, []⟩) (between, (op.call r app).2) ∧
      between.snapshot = r.snapshot ∧ Effect op r between (op.call r app).1 := by
  cases op with
  | addService path s =>
      refine ⟨r, .refl _, rfl, ?_⟩
      rw [call, recorded, RegistryOp.apply, Registry.addService_eq]
      exact .stored rfl
  | addServices services =>
      refine ⟨r, .refl _, rfl, ?_⟩
      rw [call, recorded, RegistryOp.apply, Registry.addServices_eq]
      cases hentries : (services.map Service.recorded).mapM Registry.declaredPath with
      | error e => exact .kept_of_nil (by rw [stored, hentries]; rfl) rfl
      | ok entries =>
          have hstored : (addServices services).stored = entries := by
            rw [stored, hentries]
            rfl
          exact hstored ▸ .stored rfl
  | removeService s => exact ⟨r, .refl _, rfl, .removed s rfl rfl⟩
  | initService s =>
      exact ⟨_, Registry.notes_initService s r _, Registry.snapshot_initService s.recorded r _,
        .kept_of_nil rfl rfl⟩
  | initServices =>
      exact ⟨_, Registry.notes_initAll h r _, Registry.snapshot_initAll r.services r _,
        .kept_of_nil rfl rfl⟩
  | preDestroyService s =>
      exact ⟨_, Registry.notes_preDestroyService s r _, rfl, .kept_of_nil rfl rfl⟩
  | preDestroyServices =>
      exact ⟨_, Registry.notes_preDestroyAll h r _, Registry.snapshot_preDestroyAll r.services r _,
        .kept_of_nil rfl rfl⟩
  | deploy path s =>
      have hruns := Registry.notes_initService s r ⟨app, []⟩
      have hsnapshot := Registry.snapshot_initService s.recorded r ⟨app, []⟩
      rw [call, recorded, RegistryOp.apply, Registry.deploy]
      split
      · next heq =>
        rw [heq] at hruns hsnapshot
        refine ⟨_, hruns, hsnapshot, ?_⟩
        rw [Registry.addService_eq]
        exact .stored rfl
      · next heq =>
        rw [heq] at hruns hsnapshot
        refine ⟨_, hruns, hsnapshot, .kept fun t ht => ?_⟩
        have hold : Table.get? path r.snapshot.services = some t := by
          simpa [taken, Registry.replaced, stored, removed] using ht
        exact List.mem_map_of_mem (Table.mem_of_get? hold)
  | undeploy s =>
      exact ⟨_, Registry.notes_preDestroyService s r _, rfl, .removed s rfl rfl⟩

theorem mem_departures {id : Nat} : id ∈ op.departures r app ↔
    (∃ s ∈ op.taken r, s.id = id) ∧ ¬(op.call r app).1.Registers id := by
  rw [departures, List.mem_filter, List.mem_map, decide_eq_true_iff]

/-- Behind the hooks a call drops the notes of the instances that depart. -/
theorem Effect.contains {between after : Registry (Recorded σ)} (h : Effect op r between after)
    (hsnapshot : between.snapshot = r.snapshot) (hafter : (op.call r app).1 = after) (id : Nat) :
    after.initialized.contains id =
      (between.initialized.contains id && !(op.departures r app).contains id) := by
  have hservices := Registry.services_of_snapshot_eq hsnapshot
  cases h with
  | kept htaken =>
      -- what could have been taken is still there
      have hnone : op.departures r app = [] := by
        refine List.eq_nil_iff_forall_not_mem.2 fun i hi => ?_
        obtain ⟨⟨s, hs, rfl⟩, hgone⟩ := mem_departures.1 hi
        exact hgone ⟨s, by rw [hafter, hservices]; exact htaken s hs, rfl⟩
      rw [hnone, List.contains_nil, Bool.not_false, Bool.and_true]
  | stored hremoved =>
      rw [departures, taken, hremoved, List.append_nil, hafter, Registry.contains_store, hsnapshot]
  | removed s hstored hremoved =>
      have hdeparts : (op.departures r app).contains id =
          decide (between.Registers id ∧ id = s.id) := by
        rw [Bool.eq_iff_iff, List.contains_iff_mem, mem_departures, decide_eq_true_iff, taken,
          hstored, hremoved, hafter, Registry.registers_removeService, Registry.Registers, hservices]
        constructor
        · rintro ⟨⟨t, ht, rfl⟩, -⟩
          obtain ⟨ht, hsame⟩ := List.mem_filter.1 ht
          exact ⟨⟨t, ht, rfl⟩, (beq_iff_eq.1 hsame).symm⟩
        · rintro ⟨⟨t, ht, rfl⟩, heq⟩
          exact ⟨⟨t, List.mem_filter.2 ⟨ht, beq_iff_eq.2 heq.symm⟩, rfl⟩, fun h => h.2 heq⟩
      rw [hdeparts]
      exact Registry.contains_removeService s.recorded between id

/-- Every call changes the notes of a registry as its events demand. -/
theorem standing_events (h : Recording r) (op : ServiceOp σ) (app : σ) (id : Nat) :
    standing id (r.initialized.contains id) (op.events r app) =
      some ((op.call r app).1.initialized.contains id) := by
  obtain ⟨between, ⟨runs, hruns, hstanding⟩, hsnapshot, heffect⟩ := call_cases h op app
  rw [events, hruns, List.nil_append, heffect.contains hsnapshot rfl]
  exact LifecycleEvent.standing_append_of_eq (hstanding id) (LifecycleEvent.standing_left _)

theorem recorded_of_mem_stored {e : String × Service (Recorded σ)} (h : e ∈ op.stored) :
    ∃ t : Service σ, t.recorded = e.2 := by
  cases op with
  | addService path s | deploy path s => exact ⟨s, by rw [List.mem_singleton.1 h]⟩
  | addServices services =>
      rw [stored] at h
      cases hentries : (services.map Service.recorded).mapM Registry.declaredPath with
      | error _ =>
          rw [hentries] at h
          cases h
      | ok entries =>
          rw [hentries] at h
          obtain ⟨s, hs, hpath⟩ := exists_of_mem_mapM hentries h
          obtain ⟨t, -, rfl⟩ := List.mem_map.1 hs
          rw [Registry.declaredPath] at hpath
          split at hpath
          · cases hpath
            exact ⟨t, rfl⟩
          · cases hpath
  | _ => cases h

/-- What is registered behind a call was registered before or is stored by it. -/
theorem Effect.mem_services {between after : Registry (Recorded σ)} (h : Effect op r between after)
    (hsnapshot : between.snapshot = r.snapshot) {s : Service (Recorded σ)}
    (hs : s ∈ after.services) : (∃ e ∈ op.stored, e.2 = s) ∨ s ∈ r.services := by
  rw [← Registry.services_of_snapshot_eq hsnapshot]
  cases h with
  | kept _ => exact .inr hs
  | stored _ => exact Registry.mem_services_store hs
  | removed t _ _ =>
      rw [Registry.services_removeService] at hs
      exact .inr (List.mem_filter.1 hs).1

theorem recording_call (h : Recording r) (op : ServiceOp σ) (app : σ) :
    Recording (op.call r app).1 := by
  obtain ⟨between, -, hsnapshot, heffect⟩ := call_cases h op app
  intro s hs
  rcases heffect.mem_services hsnapshot hs with ⟨e, he, rfl⟩ | hs
  · exact recorded_of_mem_stored he
  · exact h s hs

end ServiceOp

namespace Lifecycle

open LifecycleEvent (standing constructed)

/-- The registry notes the instances that stand constructed by what has happened. -/
structure Tracks (l : Lifecycle σ) : Prop where
  recording : l.registry.Recording
  standing : ∀ id, standing id false l.events = some (l.registry.initialized.contains id)

theorem Tracks.next {l : Lifecycle σ} (h : l.Tracks) (op : ServiceOp σ) : (l.next op).Tracks where
  recording := ServiceOp.recording_call h.recording op l.app
  standing id := LifecycleEvent.standing_append_of_eq (h.standing id)
    (ServiceOp.standing_events h.recording op l.app id)

theorem after_append (config : DispatchConfig) (app : σ) (ops : List (ServiceOp σ))
    (op : ServiceOp σ) : after config app (ops ++ [op]) = (after config app ops).next op :=
  List.foldl_append

theorem tracks_after (config : DispatchConfig) (app : σ) (ops : List (ServiceOp σ)) :
    (after config app ops).Tracks := by
  induction ops using List.reverseRecOn with
  | nil => exact ⟨fun s hs => (List.not_mem_nil hs).elim, fun _ => rfl⟩
  | append_singleton ops op ih =>
      rw [after_append]
      exact ih.next op

end Lifecycle

namespace Registry

theorem contains_initAll_of_contains {services : List (Service σ)} {r : Registry σ} {app : σ}
    {id : Nat} (h : r.initialized.contains id = true) :
    (initAll services r app).2.1.initialized.contains id = true := by
  induction services generalizing r app with
  | nil => exact h
  | cons s services ih =>
      have hfirst : (r.initService s app).2.1.initialized.contains id = true := by
        rw [contains_initService, h, Bool.true_or]
      rw [initAll]
      split
      · next heq => exact ih (by rwa [heq] at hfirst)
      · next heq => rwa [heq] at hfirst

/-- If all services can be initialized, each is noted. -/
theorem contains_initAll {services : List (Service σ)} {r : Registry σ} {app : σ}
    (hok : (initAll services r app).1 = .ok ()) {s : Service σ} (hs : s ∈ services) :
    (initAll services r app).2.1.initialized.contains s.id = true := by
  induction services generalizing r app with
  | nil => cases hs
  | cons t services ih =>
      have hfirst := contains_initService t r app t.id
      rw [initAll] at hok ⊢
      split
      · next heq =>
        rw [heq] at hok hfirst
        rcases List.mem_cons.1 hs with rfl | hs
        · exact contains_initAll_of_contains (by simpa [Except.isOk, Except.toBool] using hfirst)
        · exact ih hok hs
      · next heq =>
        rw [heq] at hok
        cases hok

end Registry

namespace Lifecycle

open LifecycleEvent (constructed)

/-- Between two successes of the first hook of an instance there is a release of it; and where
initializing all services has succeeded, each that is registered has been constructed with no
release behind. -/
theorem constructed_once_per_stay (config : DispatchConfig) (app : σ) (ops : List (ServiceOp σ)) :
    let l := after config app ops
    (∀ (id : Nat) (pre mid post : List LifecycleEvent),
      l.events = pre ++ constructed id :: mid ++ constructed id :: post →
        ∃ e ∈ mid, e.Releases id) ∧
    ((l.registry.initServices ⟨l.app, []⟩).1 = .ok () →
      ∀ s ∈ (l.next .initServices).registry.services,
        ∃ pre post, (l.next .initServices).events = pre ++ constructed s.id :: post ∧
          ∀ e ∈ post, ¬e.Releases s.id) := by
  have htracks := tracks_after config app ops
  refine ⟨fun id pre mid post heq => ?_, fun hok s hs => ?_⟩
  · have hstanding := htracks.standing id
    rw [heq] at hstanding
    exact LifecycleEvent.exists_releases_between hstanding
  · have hnext := (htracks.next .initServices).standing s.id
    have hservices : ((after config app ops).next .initServices).registry.services =
        (after config app ops).registry.services :=
      Registry.services_of_snapshot_eq (Registry.snapshot_initAll _ _ _)
    refine LifecycleEvent.exists_constructed (hnext.trans (congrArg some ?_))
    exact Registry.contains_initAll hok (hservices ▸ hs)

end Lifecycle

end ServiceDispatch
