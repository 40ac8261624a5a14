import DarwinNet.Proxy.Teardown

/-!
The runs of the watcher with what its anti-entropy passes have repaired (`antientropy.go`:
`repairService`, `settleRepaired`, `relist`), in any interleaving of the handlers, the passes and
the relists of `WatchRace`.

`repairMachine` keeps the Services that a repair has installed and the store has not held since,
and whether the last pass found a divergence. `KeepsPorts` and `RepairRun.Heard` are conditions on
its steps. Every Service object in a run was brought in by a step (`mentions_of_step`).
-/

namespace DarwinNet.Proxy

open Lib Netip Api

/-! ## The machine -/

def ServiceNote.service : ServiceNote → Service
  | .changed svc | .deleted svc => svc

def ServiceNote.isDeleted : ServiceNote → Bool
  | .changed _ => false
  | .deleted _ => true

def Job.waitsToDelete (key : ObjectKey) : Job → Bool
  | .waiting (.teardown svc) | .waiting (.relistDelete svc) => svc.key = key
  | _ => false

def Job.waitsToReconcile : Job → Option Service
  | .waiting (.reconcile svc) => some svc
  | _ => none

def RaceStep.objects : RaceStep → List Service
  | .setService svc => [svc]
  | .startPass l _ _ => l.svcs
  | .swap fresh => storeList fresh.services ++ fresh.notes.map (·.service) ++ fresh.old
  | _ => []

/-- The watcher with what its passes have done: `unseen` are the Services that a repair has
installed and the store has not held since, and `clean` says that the last pass found no
divergence. -/
structure RepairRun where
  race : WatchRace
  unseen : List ObjectKey
  clean : Bool

section

variable (api : Netv1) (static : StaticBackends)

def WatchRace.found (s : WatchRace) (l : LiveLists) : List (ObjectKey × List Divergence) :=
  divergences api static (listLive l) (storeView s.services s.slices)

/-- The Service that a repair begins to install in this step. -/
def WatchRace.repairsNow (s : WatchRace) : RaceStep → List ObjectKey
  | .read g => match s.job g, s.entropy with
    | .locked (.repair key ds), .pass l _ _ _ =>
      if s.skips (.repair key ds) = false ∧ ((listLive l).svcs.lookup key).isSome then [key]
      else []
    | _, _ => []
  | _ => []

namespace RepairRun

def next (s : RepairRun) (a : RaceStep) (race : WatchRace) : RepairRun where
  race
  unseen := (s.race.repairsNow a ++ s.unseen).filter fun k => (race.services.lookup k).isNone
  clean := match a with
    | .startPass l _ _ => decide (s.race.found api static l = [])
    | _ => s.clean

def step (s : RepairRun) (a : RaceStep) : Option RepairRun :=
  (s.race.step api static a).map (s.next api static a)

end RepairRun

def repairMachine : Machine RepairRun RaceStep where
  init s := s = ⟨watchRaceStart, [], false⟩
  step s a := s.step api static a

/-! ## The conditions -/

/-- Every object that enters the run serves the ports of its Service. -/
def KeepsPorts (ports : ObjectKey → List PortKey) (a : RaceStep) : Prop :=
  ∀ svc ∈ a.objects, servedKeys api svc = ports svc.key

namespace WatchRace

/-- The store holds the Service, or the Service handler has yet to tear it down. -/
def HeldOrPending (s : WatchRace) (key : ObjectKey) : Prop :=
  (s.services.lookup key).isSome = true ∨ (lastNote s.notes key).any ServiceNote.isDeleted = true ∨
    (s.job .serviceHandler).waitsToDelete key = true

/-- What the relist has of a Service: it is listed, or the old store ends with it. -/
def KeptBy (fresh : FreshSet) (key : ObjectKey) : Prop :=
  (fresh.services.lookup key).isSome = true ∨ key ∈ fresh.old.map (·.key)

end WatchRace

/-- The condition on a step. A goroutine that gets the stripe to reconcile a Service finds it
stored or its teardown still to come. A pass that starts while the store has not held a
repaired Service lists it with a Ready backend. A swap drops no deletion, and the old store
ends with what it held. -/
def RepairRun.Heard (s : RepairRun) : RaceStep → Prop
  | .acquire g => ∀ svc ∈ (s.race.job g).waitsToReconcile, s.race.HeldOrPending svc.key
  | .startPass l _ _ => ∀ k ∈ s.unseen,
      anyBackend (viewBackendSets api static k (listLive l)) = true
  | .swap fresh => (∀ svc ∈ storeList s.race.services, WatchRace.KeptBy fresh svc.key) ∧
      ∀ n ∈ s.race.notes, n.isDeleted = true → WatchRace.KeptBy fresh n.key
  | _ => True

end

/-! ## The objects in a run -/

def Task.service : Task → Option Service
  | .reconcile svc | .teardown svc | .relistDelete svc => some svc
  | .repair _ _ => none

def EntropyPhase.services : EntropyPhase → List Service
  | .idle => []
  | .pass l settle _ _ => l.svcs ++ settle
  | .swapped old => old
  | .deleting todo | .applying todo => todo

namespace WatchRace

variable {api : Netv1} {static : StaticBackends} {s s' : WatchRace} {a : RaceStep} {g : Goroutine}
  {t : Task} {svc : Service}

/-- The object is in the store, in a queue, in a task or in a list of a pass or relist. -/
def Mentions (s : WatchRace) (svc : Service) : Prop :=
  svc ∈ storeList s.services ∨ svc ∈ s.notes.map (·.service) ∨
    (∃ g, ∃ t ∈ (s.job g).task, t.service = some svc) ∨ svc ∈ s.entropy.services

lemma Mentions.of_job (h : (s.setJob g (.waiting t)).Mentions svc) :
    s.Mentions svc ∨ t.service = some svc := by
  rcases h with h | h | ⟨g', t', ht', hsvc⟩ | h
  · exact .inl (.inl h)
  · exact .inl (.inr (.inl h))
  · by_cases hg : g' = g
    · subst hg
      rw [setJob_self] at ht'
      cases ht'
      exact .inr hsvc
    · rw [setJob_ne _ hg] at ht'
      exact .inl (.inr (.inr (.inl ⟨g', t', ht', hsvc⟩)))
  · exact .inl (.inr (.inr (.inr h)))

lemma Mentions.of_begin (h : (s.begin api g t).Mentions svc) :
    s.Mentions svc ∨ t.service = some svc := by
  unfold begin at h
  split_ifs at h
  · exact h.of_job
  · exact .inl h

lemma Mentions.of_same (h : s'.Mentions svc) (hservices : s'.services = s.services)
    (hnotes : s'.notes = s.notes) (hentropy : s'.entropy = s.entropy)
    (hjob : ∀ g, ∀ t ∈ (s'.job g).task, t ∈ (s.job g).task) : s.Mentions svc := by
  rcases h with h | h | ⟨g, t, ht, hsvc⟩ | h
  · exact .inl (hservices ▸ h)
  · exact .inr (.inl (hnotes ▸ h))
  · exact .inr (.inr (.inl ⟨g, t, hjob g t ht, hsvc⟩))
  · exact .inr (.inr (.inr (hentropy ▸ h)))

lemma Mentions.of_entropy {e : EntropyPhase} (h : (s.setEntropy e).Mentions svc)
    (he : svc ∈ e.services → s.Mentions svc) : s.Mentions svc := by
  rcases h with h | h | h | h
  · exact .inl h
  · exact .inr (.inl h)
  · exact .inr (.inr (.inl h))
  · exact he h

lemma mentions_entropy {e : EntropyPhase} (he : s.entropy = e) (h : svc ∈ e.services) :
    s.Mentions svc := .inr (.inr (.inr (he ▸ h)))

lemma setJob_task {j : Job} (hj : j.task = (s.job g).task ∨ j.task = none) :
    ∀ g', ∀ t ∈ ((s.setJob g j).job g').task, t ∈ (s.job g').task := by
  intro g' t ht
  by_cases hg : g' = g
  · subst hg
    rw [setJob_self] at ht
    rcases hj with hj | hj
    · rwa [hj] at ht
    · rw [hj] at ht
      cases ht
  · rwa [setJob_ne _ hg] at ht

lemma mentions_takeSlice {sl : EndpointSlice} {rest : List EndpointSlice}
    (h : (s.takeSliceNote api sl rest).Mentions svc) : s.Mentions svc := by
  unfold takeSliceNote at h
  split_ifs at h
  · exact h
  cases hown : s.services.lookup sl.owner with
  | none =>
    rw [hown] at h
    exact h
  | some b =>
    rw [hown] at h
    rcases h.of_begin with h | h
    · exact h
    · cases h
      exact .inl (mem_storeList.mpr ⟨_, hown⟩)

lemma mentions_putService {b : Service} (h : (s.putService b).Mentions svc) :
    s.Mentions svc ∨ svc = b := by
  rcases h with h | h | h | h
  · obtain ⟨k, hk⟩ := mem_storeList.mp h
    rw [putService, GoMap.lookup_insert_ite] at hk
    split_ifs at hk
    · cases hk
      exact .inr rfl
    · exact .inl (.inl (mem_storeList.mpr ⟨k, hk⟩))
  · rw [putService, List.map_append, List.mem_append] at h
    rcases h with h | h
    · exact .inl (.inr (.inl h))
    · exact .inr (List.mem_singleton.mp h)
  · exact .inl (.inr (.inr (.inl h)))
  · exact .inl (.inr (.inr (.inr h)))

lemma mentions_dropService {key : ObjectKey} {old : Service}
    (hold : s.services.lookup key = some old) (h : (s.dropService key old).Mentions svc) :
    s.Mentions svc := by
  rcases h with h | h | h | h
  · obtain ⟨k, hk⟩ := mem_storeList.mp h
    rw [dropService, GoMap.lookup_erase_ite] at hk
    split_ifs at hk
    exact .inl (mem_storeList.mpr ⟨k, hk⟩)
  · rw [dropService, List.map_append, List.mem_append] at h
    rcases h with h | h
    · exact .inr (.inl h)
    · have heq : svc = old := List.mem_singleton.mp h
      exact .inl (mem_storeList.mpr ⟨key, heq ▸ hold⟩)
  · exact .inr (.inr (.inl h))
  · exact .inr (.inr (.inr h))

lemma mem_of_settle {settle : List ObjectKey}
    (h : svc ∈ settle.filterMap (storeView s.services s.slices).svcs.lookup) :
    svc ∈ storeList s.services := by
  obtain ⟨k, -, hk⟩ := List.mem_filterMap.mp h
  exact (ServiceView.svcs_key _ hk).2

lemma startPass_eq {l : LiveLists} {settle : List ObjectKey}
    {repairs : List (ObjectKey × List Divergence)}
    (h : s.step api static (.startPass l settle repairs) = some s') :
    s.job .antiEntropy = .idle ∧ s.entropy = .idle ∧ repairs.Perm (s.found api static l) ∧
      ∃ repaired repairs', (repairs' = [] ∨ repairs' = repairs) ∧ s' = { s with
          repairedFromLive := repaired
          entropy := .pass l (settle.filterMap (storeView s.services s.slices).svcs.lookup) repairs'
            (s.found api static l ≠ []) } := by
  simp only [step] at h
  split at h
  next hjob =>
    simp only [entropyStep] at h
    split at h
    next he =>
      simp only [startPass, Option.ite_none_right_eq_some, Option.some.injEq] at h
      obtain ⟨⟨-, hperm⟩, rfl⟩ := h
      refine ⟨hjob, he, hperm, _, _, ?_, rfl⟩
      split
      · exact .inl rfl
      · exact .inr rfl
    · cases h
  · cases h

lemma relistView_eq (h : s.step api static .relistView = some s') :
    ∃ old, s.entropy = .swapped old ∧
      s' = s.setEntropy (.deleting (old.filter fun svc => (s.services.lookup svc.key).isNone)) := by
  simp only [step, entropyStep] at h
  (repeat' split at h) <;> cases h
  next he => exact ⟨_, he, rfl⟩

lemma mentions_of_step (hst : s.step api static a = some s') (h : s'.Mentions svc) :
    s.Mentions svc ∨ svc ∈ a.objects := by
  have hmoves := moves_of_step hst
  cases hmoves with
  | setService b =>
    rcases mentions_putService h with h | rfl
    · exact .inl h
    · exact .inr List.mem_cons_self
  | deleteService hold => exact .inl (mentions_dropService hold h)
  | setSlice | deleteSlice => exact .inl h
  | @takeService n rest hjob hnotes =>
    left
    rcases h.of_begin with h | h
    · rcases h with h | h | h | h
      · exact .inl h
      · exact .inr (.inl (by rw [hnotes]; exact List.mem_cons_of_mem _ h))
      · exact .inr (.inr (.inl h))
      · exact .inr (.inr (.inr h))
    · refine .inr (.inl ?_)
      rw [hnotes, List.map_cons]
      cases n <;> cases h <;> exact List.mem_cons_self
  | takeSlice hjob => exact .inl (mentions_takeSlice h)
  | acquire hjob hfree =>
    exact .inl (h.of_same rfl rfl rfl (setJob_task (.inl (by rw [hjob]; rfl))))
  | read hjob =>
    exact .inl (h.of_same rfl rfl rfl (setJob_task (.inl (by rw [hjob]; rfl))))
  | call hjob =>
    exact .inl (h.of_same rfl rfl rfl (setJob_task (.inl (by rw [hjob]; rfl))))
  | release hjob => exact .inl (h.of_same rfl rfl rfl (setJob_task (.inr rfl)))
  | @startPass l settle repairs =>
    obtain ⟨-, -, -, repaired, repairs', -, heq⟩ := startPass_eq hst
    rw [heq] at h
    rcases h with h | h | h | h
    · exact .inl (.inl h)
    · exact .inl (.inr (.inl h))
    · exact .inl (.inr (.inr (.inl h)))
    · rcases List.mem_append.mp h with h | h
      · exact .inr h
      · exact .inl (.inl (mem_of_settle h))
  | settleNext hjob he =>
    left
    rcases h.of_begin with h | h
    · refine h.of_entropy fun h => mentions_entropy he ?_
      rcases List.mem_append.mp h with h | h
      · exact List.mem_append_left _ h
      · exact List.mem_append_right _ (List.mem_cons_of_mem _ h)
    · cases h
      exact mentions_entropy he (List.mem_append_right _ List.mem_cons_self)
  | repairNext hjob he =>
    left
    rcases h.of_begin with h | h
    · exact h.of_entropy fun h => mentions_entropy he h
    · cases h
  | endPass hjob he => exact .inl (h.of_entropy fun h => by cases h)
  | @swap l fresh hjob he hcan =>
    rcases h with h | h | ⟨g, t, ht, hsvc⟩ | h
    · exact .inr (List.mem_append_left _ (List.mem_append_left _ h))
    · exact .inr (List.mem_append_left _ (List.mem_append_right _ h))
    · exact .inl (.inr (.inr (.inl ⟨g, t, ht, hsvc⟩)))
    · exact .inr (List.mem_append_right _ h)
  | relistView hjob he =>
    obtain ⟨old, he', heq⟩ := relistView_eq hst
    rw [heq] at h
    exact .inl (h.of_entropy fun h => mentions_entropy he' (List.mem_of_mem_filter h))
  | deleteNext hjob he =>
    left
    rcases h.of_begin with h | h
    · exact h.of_entropy fun h => mentions_entropy he (List.mem_cons_of_mem _ h)
    · cases h
      exact mentions_entropy he List.mem_cons_self
  | applyStore hjob he horder =>
    exact .inl (h.of_entropy fun h => .inl (horder.mem_iff.mp h))
  | applyNext hjob he =>
    left
    rcases h.of_begin with h | h
    · exact h.of_entropy fun h => mentions_entropy he (List.mem_cons_of_mem _ h)
    · cases h
      exact mentions_entropy he List.mem_cons_self
  | endRelist hjob he =>
    exact .inl (Mentions.of_entropy (s := s) (e := .idle) h fun h => by cases h)

end WatchRace

end DarwinNet.Proxy
