import DarwinNet.Proxy.RepairAccount

/-!
Ports installed from a live list and the Services they belong to.

A repair may install a Service the informer store has never held. When it is gone before the
store hears of it, no notification tears its ports down; a later pass finds no divergence and
forgets the repair, and so does a relist (`repaired_port_outlives`). Where every pass still lists
the repaired Services the store has not held, no goroutine reconciles a Service that has already
been torn down, and a relist drops no deletion, the keys installed after a clean pass are those of
stored Services (`installed_keys_served`).
-/

namespace DarwinNet.Proxy

open Lib Netip Api

section

variable {api : Netv1} {static : StaticBackends} {ports : ObjectKey → List PortKey}
  {s : RepairRun} {w w' : WatchRace} {u : List ObjectKey} {key : ObjectKey} {p : PortKey}
  {a : RaceStep} {g : Goroutine}

/-! ## A clean pass -/

namespace WatchRace

variable {l : LiveLists} {x : Task}

lemma mem_found (hlive : anyBackend (viewBackendSets api static key (listLive l)) = true)
    (hnone : w.services.lookup key = none) : w.found api static l ≠ [] := by
  obtain ⟨set, hset, hne⟩ := List.any_eq_true.mp hlive
  obtain ⟨p, hp⟩ := mem_storeList.mp hset
  obtain ⟨b, hb⟩ := List.exists_mem_of_ne_nil set (of_decide_eq_true hne)
  have hstore : viewBackendSets api static key (storeView w.services w.slices) = ∅ := by
    unfold viewBackendSets
    cases hk : (storeView w.services w.slices).svcs.lookup key with
    | none => rfl
    | some svc =>
      obtain ⟨hkey, hmem⟩ := ServiceView.svcs_key _ hk
      obtain ⟨k, hsvc⟩ := mem_storeList.mp hmem
      rw [← w.service_key k svc hsvc, hkey, hnone] at hsvc
      cases hsvc
  have hview : key ∈ viewKeys (listLive l) (storeView w.services w.slices) := by
    refine List.mem_append_left _ (GoMap.mem_keys_iff.mpr ?_)
    cases hk : (listLive l).svcs.lookup key with
    | some svc => exact ⟨svc, rfl⟩
    | none =>
      simp only [viewBackendSets, hk, AList.lookup_empty] at hp
      cases hp
  have hdiff : diffBackendSets (viewBackendSets api static key (listLive l))
      (viewBackendSets api static key (storeView w.services w.slices)) ≠ [] := by
    intro hnil
    have hb' := (diffBackendSets_eq_nil.mp hnil p b).mp (by rw [setAt, hp]; exact hb)
    rw [hstore, setAt, AList.lookup_empty] at hb'
    cases hb'
  intro hnil
  have hall := List.filterMap_eq_nil_iff.mp hnil key hview
  split at hall
  next h => exact hdiff h
  · cases hall

lemma begin_task {y : Task} {g' : Goroutine} (h : x ∈ ((w.begin api g y).job g').task) :
    x ∈ (w.job g').task ∨ g' = g ∧ x = y := by
  unfold begin at h
  split_ifs at h
  · by_cases hg : g' = g
    · subst hg
      rw [setJob_self] at h
      cases h
      exact .inr ⟨rfl, rfl⟩
    · rw [setJob_ne _ hg] at h
      exact .inl h
  · exact .inl h

lemma task_of_moves (hm : w.Moves api static a w') (hx : x ∈ (w'.job g).task) :
    x ∈ (w.job g).task ∨ x.isRepair = false ∨ g = .antiEntropy ∧ w.repairsLeft ≠ [] := by
  cases hm with
  | setService | deleteService | setSlice | deleteSlice | startPass | endPass | swap | relistView
  | applyStore | endRelist => exact .inl hx
  | @takeService n rest hjob hnotes =>
    rcases begin_task hx with hold | ⟨-, rfl⟩
    · exact .inl hold
    · exact .inr (.inl (by cases n <;> rfl))
  | @takeSlice sl rest hjob =>
    rcases w.takeSliceNote_cases api sl rest with heq | ⟨svc, heq⟩
    · rw [heq] at hx
      exact .inl hx
    rw [heq] at hx
    rcases begin_task hx with hold | ⟨-, rfl⟩
    · exact .inl hold
    · exact .inr (.inl rfl)
  | acquire hjob | read hjob | call hjob =>
    exact .inl (setJob_task (.inl (by rw [hjob]; rfl)) g x hx)
  | release hjob => exact .inl (setJob_task (.inr rfl) g x hx)
  | settleNext hjob he | deleteNext hjob he | applyNext hjob he =>
    rcases begin_task hx with hold | ⟨-, rfl⟩
    · exact .inl hold
    · exact .inr (.inl rfl)
  | repairNext hjob he =>
    rcases begin_task hx with hold | ⟨hg, -⟩
    · exact .inl hold
    · refine .inr (.inr ⟨hg, ?_⟩)
      simp [repairsLeft, he]

lemma repairsLeft_of_eq (hentropy : w'.entropy = w.entropy) (h : w.repairsLeft = []) :
    w'.repairsLeft = [] := by
  rwa [repairsLeft, hentropy]

lemma repairsLeft_of_moves (hm : w.Moves api static a w')
    (ha : ∀ l settle repairs, a ≠ .startPass l settle repairs) (h : w.repairsLeft = []) :
    w'.repairsLeft = [] := by
  cases hm with
  | setService | deleteService | setSlice | deleteSlice | acquire | read | call | release =>
    exact repairsLeft_of_eq rfl h
  | takeService => exact repairsLeft_of_eq (w.takeNote_frame api _ _).2.2.2.1 h
  | takeSlice => exact repairsLeft_of_eq (w.takeSliceNote_frame api _ _).2.2.2.1 h
  | startPass => exact absurd rfl (ha _ _ _)
  | @settleNext l svc rest repairs r hjob he =>
    refine repairsLeft_of_eq (w := w.setEntropy (.pass l rest repairs r))
      (begin_frame api _ _ _).2.2.2.1 ?_
    rw [repairsLeft, he] at h
    exact h
  | repairNext hjob he =>
    rw [repairsLeft, he] at h
    cases h
  | endPass | swap | relistView | applyStore | endRelist => rfl
  | deleteNext | applyNext =>
    rw [repairsLeft, (begin_frame api _ _ _).2.2.2.1]
    rfl

lemma repairsNow_eq_nil (h : ∀ g, ∀ x ∈ (w.job g).task, x.isRepair = false) (a : RaceStep) :
    w.repairsNow a = [] := by
  unfold repairsNow
  split
  next g =>
    split
    next key ds l _ _ _ hjob he =>
      have hx := h g (.repair key ds) (by rw [hjob]; rfl)
      cases hx
    · rfl
  · rfl

end WatchRace

/-- What a clean pass leaves: no repaired Service the store has not held, and no repair to do. -/
structure Settled (s : RepairRun) : Prop where
  unstored : ∀ k ∈ s.unseen, s.race.services.lookup k = none
  repairer : ∀ g, ∀ x ∈ (s.race.job g).task, x.isRepair = true → g = .antiEntropy
  clean : s.clean = true → s.unseen = [] ∧ s.race.repairsLeft = [] ∧
    ∀ g, ∀ x ∈ (s.race.job g).task, x.isRepair = false

lemma Settled.startPass (h : Settled s) {l : LiveLists} {settle : List ObjectKey}
    {repairs : List (ObjectKey × List Divergence)}
    (hheard : s.Heard api static (.startPass l settle repairs))
    (hst : s.race.step api static (.startPass l settle repairs) = some w')
    (hclean : s.race.found api static l = []) :
    s.unseen = [] ∧ w'.repairsLeft = [] ∧ ∀ g, ∀ x ∈ (w'.job g).task, x.isRepair = false := by
  obtain ⟨hjob, -, hperm, repaired, repairs', hrepairs', rfl⟩ := WatchRace.startPass_eq hst
  refine ⟨?_, ?_, ?_⟩
  · refine List.eq_nil_iff_forall_not_mem.mpr fun k hk => ?_
    exact WatchRace.mem_found (hheard k hk) (h.unstored k hk) hclean
  · rw [hclean] at hperm
    have hnil : repairs' = [] := by
      rcases hrepairs' with rfl | rfl
      · rfl
      · exact hperm.eq_nil
    simp [WatchRace.repairsLeft, hnil]
  · intro g x hx
    by_contra hrepair
    have hg := h.repairer g x hx (Bool.eq_true_of_not_eq_false hrepair)
    subst hg
    rw [hjob] at hx
    cases hx

/-- A step keeps what a clean pass leaves. -/
lemma settled_of_step (h : Settled s) (hheard : s.Heard api static a)
    (hst : s.race.step api static a = some w') : Settled (s.next api static a w') := by
  have hmoves := WatchRace.moves_of_step hst
  refine ⟨?_, ?_, ?_⟩
  · intro k hk
    exact Option.isNone_iff_eq_none.mp (List.mem_filter.mp hk).2
  · intro g x hx hrepair
    rcases WatchRace.task_of_moves hmoves hx with hold | hnot | ⟨hg, -⟩
    · exact h.repairer g x hold hrepair
    · rw [hnot] at hrepair
      cases hrepair
    · exact hg
  · intro hclean
    -- a pass starts clean, or nothing has been repaired since it did
    by_cases ha : ∃ l settle repairs, a = .startPass l settle repairs
    · obtain ⟨l, settle, repairs, rfl⟩ := ha
      obtain ⟨hu, hleft, htasks⟩ := h.startPass hheard hst (of_decide_eq_true hclean)
      refine ⟨?_, hleft, htasks⟩
      simp [RepairRun.next, WatchRace.repairsNow, hu]
    · have hsame : s.clean = true := by
        cases a with
        | startPass l settle repairs => exact absurd ⟨l, settle, repairs, rfl⟩ ha
        | _ => exact hclean
      obtain ⟨hu, hleft, htasks⟩ := h.clean hsame
      refine ⟨?_, ?_, ?_⟩
      · simp [RepairRun.next, WatchRace.repairsNow_eq_nil htasks, hu]
      · exact WatchRace.repairsLeft_of_moves hmoves
          (fun l settle repairs heq => ha ⟨l, settle, repairs, heq⟩) hleft
      · intro g x hx
        rcases WatchRace.task_of_moves hmoves hx with hold | hnot | ⟨-, hne⟩
        · exact htasks g x hold
        · exact hnot
        · exact absurd hleft hne

lemma accountable_start : Accountable api ports ⟨watchRaceStart, [], false⟩ where
  notes _ hn := by cases hn
  objects svc hsvc := by
    rcases hsvc with h | h | ⟨g, x, hx, -⟩ | h
    · cases h
    · cases h
    · cases hx
    · cases h
  apart _ _ _ _ hx := by cases hx
  calls _ _ _ hcalling := by cases hcalling
  holder _ _ hinst _ := by
    obtain ⟨x, hx, -⟩ := hinst.holding
    cases hx
  table _ _ hd := by cases hd

lemma settled_start : Settled ⟨watchRaceStart, [], false⟩ where
  unstored _ hk := by cases hk
  repairer _ _ hx := by cases hx
  clean hclean := by cases hclean

lemma WatchRace.Excused.quiescent (h : w.Excused u key) (hq : w.Quiescent) (hu : u = []) :
    (w.services.lookup key).isSome = true := by
  obtain ⟨⟨hservice, hslice, hnotes, -⟩, hjob, he⟩ := hq
  rcases h with h | h | h | ⟨g, h⟩ | h
  · exact h
  · rw [hu] at h
    cases h
  · rw [hnotes] at h
    cases h
  · cases g with
    | serviceHandler => rw [hservice] at h; cases h
    | sliceHandler => rw [hslice] at h; cases h
    | antiEntropy => rw [hjob] at h; cases h
  · exact absurd h (not_toDelete he rfl)

lemma WatchRace.Quiescent.not_deleting (hq : w.Quiescent) (g : Goroutine) :
    ¬ (w.job g).Deleting key p := by
  obtain ⟨⟨hservice, hslice, -, -⟩, hjob, -⟩ := hq
  intro h
  cases g with
  | serviceHandler => exact h.holding (by rw [hservice]; rfl)
  | sliceHandler => exact h.holding (by rw [hslice]; rfl)
  | antiEntropy => exact h.holding (by rw [hjob]; rfl)

lemma WatchRace.exists_install {exemptVIPs : Finset Addr} {cfg : TableConfig}
    (hp : ((w.applied api exemptVIPs cfg).table.metas.lookup p).isSome = true) :
    ∃ d svc eps, w.lastOn p = some d ∧ d.call = .install svc p eps := by
  have habsent : ¬ (w.applied api exemptVIPs cfg).table.Holds api p .absent := by
    rintro ⟨hnone, -⟩
    rw [hnone] at hp
    cases hp
  cases hd : w.lastOn p with
  | none =>
    refine absurd ?_ habsent
    exact ProxyState.holds_deliverAll_other api (lastWrite_events_none hd) ⟨rfl, rfl⟩
  | some d =>
    obtain ⟨d', -, heq⟩ := List.mem_map.mp (GoMap.mem_of_lastWrite hd)
    cases heq
    cases hcall : d.call with
    | delete q =>
      refine absurd (w.applied_of_deleted exemptVIPs cfg hd ?_) habsent
      rw [hcall]
      rfl
    | install svc q eps => exact ⟨d, svc, eps, rfl, hcall⟩

end

/-- After a clean pass, with nothing under way, the keys installed are those of stored Services,
where the repaired Services are heard of and no port list changes. -/
theorem installed_keys_served (api : Netv1) (static : StaticBackends)
    (ports : ObjectKey → List PortKey) (hapi : api.Lawful) {s : RepairRun}
    (h : (repairMachine api static).Reach
      (fun s a => KeepsPorts api ports a ∧ s.Heard api static a) s)
    (hclean : s.clean = true) (hq : s.race.Quiescent) (exemptVIPs : Finset Addr)
    (cfg : TableConfig) {p : PortKey}
    (hp : ((s.race.applied api exemptVIPs cfg).table.metas.lookup p).isSome = true) :
    ∃ svc ∈ storeList s.race.services, p ∈ servedKeys api svc := by
  have hinv : Accountable api ports s ∧ Settled s := by
    refine h.invariant (I := fun s => Accountable api ports s ∧ Settled s) ?_ ?_
    · rintro s rfl
      exact ⟨accountable_start, settled_start⟩
    · rintro s a t ⟨hacc, hset⟩ ⟨hports, hheard⟩ hstep
      obtain ⟨w, hw, rfl⟩ := Option.map_eq_some_iff.mp hstep
      exact ⟨accountable_of_step hapi hacc hports hheard hw, settled_of_step hset hheard hw⟩
  obtain ⟨hacc, hset⟩ := hinv
  obtain ⟨d, svc, eps, hd, hcall⟩ := WatchRace.exists_install hp
  obtain ⟨hmem, hwhy⟩ := hacc.table p d hd svc eps hcall
  have hexc := hwhy.resolve_right fun ⟨g, hdel⟩ => hq.not_deleting g hdel
  obtain ⟨b, hb⟩ := Option.isSome_iff_exists.mp (hexc.quiescent hq (hset.clean hclean).1)
  have hstored : b ∈ storeList s.race.services := mem_storeList.mpr ⟨_, hb⟩
  refine ⟨b, hstored, ?_⟩
  rwa [hacc.objects b (.inl hstored), s.race.service_key _ b hb]

/-! ## A Service the store never held -/

instance WatchRace.decidableHeldOrPending (s : WatchRace) (key : ObjectKey) :
    Decidable (s.HeldOrPending key) :=
  inferInstanceAs (Decidable ((s.services.lookup key).isSome = true ∨
    (lastNote s.notes key).any ServiceNote.isDeleted = true ∨
    (s.job .serviceHandler).waitsToDelete key = true))

instance WatchRace.decidableKeptBy (fresh : FreshSet) (key : ObjectKey) :
    Decidable (KeptBy fresh key) :=
  inferInstanceAs (Decidable ((fresh.services.lookup key).isSome = true ∨
    key ∈ fresh.old.map (·.key)))

instance decidableKeepsPorts (api : Netv1) (ports : ObjectKey → List PortKey) (a : RaceStep) :
    Decidable (KeepsPorts api ports a) :=
  inferInstanceAs (Decidable (∀ svc ∈ a.objects, servedKeys api svc = ports svc.key))

instance RepairRun.decidableHeard (api : Netv1) (static : StaticBackends) (s : RepairRun)
    (a : RaceStep) : Decidable (s.Heard api static a) :=
  match a with
  | .acquire g => inferInstanceAs (Decidable
      (∀ svc ∈ (s.race.job g).waitsToReconcile, s.race.HeldOrPending svc.key))
  | .startPass l _ _ => inferInstanceAs (Decidable
      (∀ k ∈ s.unseen, anyBackend (viewBackendSets api static k (listLive l)) = true))
  | .swap fresh => inferInstanceAs (Decidable
      ((∀ svc ∈ storeList s.race.services, WatchRace.KeptBy fresh svc.key) ∧
        ∀ n ∈ s.race.notes, n.isDeleted = true → WatchRace.KeptBy fresh n.key))
  | .setService _ | .deleteService _ | .setSlice _ | .deleteSlice _ | .takeService | .takeSlice
  | .read _ | .call _ | .release _ | .settleNext | .repairNext | .endPass | .relistView
  | .deleteNext | .applyStore _ | .applyNext | .endRelist => isTrue trivial

def webName : ObjectKey := ⟨"default", "web"⟩

def webPorts (key : ObjectKey) : List PortKey := if key = webName then [key80] else []

def liveWeb : LiveLists := ⟨[webService [80]], "7", [podSlice "web" "80"], "7"⟩

def liveNothing : LiveLists := ⟨[], "9", [], "9"⟩

def webMissing : ObjectKey × List Divergence :=
  (webName, [⟨key80, ["10.42.0.5:8080"], [], ["10.42.0.5:8080"], []⟩])

def missedRun : List RaceStep :=
  ([.applyStore [], .endRelist, .startPass liveWeb [] [webMissing], .repairNext] :
    List RaceStep) ++ serveOne .antiEntropy

/-- The Service is deleted before the store hears of it; the next pass is clean. -/
def forgottenRun : List RaceStep :=
  missedRun ++ [.endPass, .startPass liveNothing [webName] [], .endPass]

def relistedRun : List RaceStep :=
  missedRun ++ [.swap ⟨∅, ∅, keyed_empty, [], [], []⟩, .relistView, .applyStore [], .endRelist,
    .startPass liveNothing [] [], .endPass]

def lateRun : List RaceStep :=
  missedRun ++ ([.endPass, .setService (webService [80]), .setSlice (podSlice "web" "80"),
    .takeService] : List RaceStep) ++ serveOne .serviceHandler ++
    ([.takeSlice] : List RaceStep) ++ serveOne .sliceHandler ++
    ([.startPass liveWeb [webName] [], .settleNext] : List RaceStep) ++ serveOne .antiEntropy ++
    ([.endPass] : List RaceStep)

def repairStart : RepairRun := ⟨watchRaceStart, [], false⟩

/-- What a run ends with: whether the last pass was clean and nothing is left to do, the
stored Services, and whether the port of `webService` is installed. -/
def RepairRun.outcome (s : RepairRun) : Bool × List Service × Bool :=
  (s.clean && decide s.race.Quiescent, storeList s.race.services,
    ((s.race.applied Netv1.standard ∅ (defaultConfig .zero)).table.metas.lookup key80).isSome)

lemma RepairRun.of_outcome {s : RepairRun} {stored : List Service}
    (h : s.outcome = (true, stored, true)) :
    s.clean = true ∧ s.race.Quiescent ∧ storeList s.race.services = stored ∧
      ((s.race.applied Netv1.standard ∅ (defaultConfig .zero)).table.metas.lookup key80).isSome =
        true := by
  simp only [outcome, Prod.mk.injEq, Bool.and_eq_true, decide_eq_true_eq] at h
  obtain ⟨⟨hclean, hq⟩, hstored, hp⟩ := h
  exact ⟨hclean, hq, hstored, hp⟩

theorem installed_keys_served_late :
    ∃ s, (repairMachine Netv1.standard ∅).run repairStart lateRun = some s ∧
      storeList s.race.services = [webService [80]] ∧
      ((s.race.applied Netv1.standard ∅ (defaultConfig .zero)).table.metas.lookup key80).isSome =
        true ∧
      ∃ svc ∈ storeList s.race.services, key80 ∈ servedKeys Netv1.standard svc := by
  have hrun : ((repairMachine Netv1.standard ∅).run repairStart lateRun).map
      RepairRun.outcome = some (true, [webService [80]], true) := by decide +kernel
  obtain ⟨s, hs, hout⟩ := Option.map_eq_some_iff.mp hrun
  obtain ⟨hclean, hq, hstored, hp⟩ := RepairRun.of_outcome hout
  refine ⟨s, hs, hstored, hp, ?_⟩
  exact installed_keys_served Netv1.standard ∅ webPorts Netv1.standard_lawful
    (.of_run lateRun rfl (by decide +kernel) hs) hclean hq ∅ (defaultConfig .zero) hp

/-- A Service that was only ever repaired is deleted unheard of, or swapped away, and its port
stays. -/
theorem repaired_port_outlives : (∃ s, (repairMachine Netv1.standard ∅).Reach
        (fun _ a => KeepsPorts Netv1.standard webPorts a) s ∧
      (repairMachine Netv1.standard ∅).run repairStart forgottenRun = some s ∧
      s.clean = true ∧ s.race.Quiescent ∧ storeList s.race.services = [] ∧
      ((s.race.applied Netv1.standard ∅ (defaultConfig .zero)).table.metas.lookup key80).isSome =
        true) ∧
    ∃ s, (repairMachine Netv1.standard ∅).Reach
        (fun _ a => KeepsPorts Netv1.standard webPorts a) s ∧
      (repairMachine Netv1.standard ∅).run repairStart relistedRun = some s ∧
      s.clean = true ∧ s.race.Quiescent ∧ storeList s.race.services = [] ∧
      ((s.race.applied Netv1.standard ∅ (defaultConfig .zero)).table.metas.lookup key80).isSome =
        true := by
  constructor
  · exact Machine.Reach.exists_run_of (P := fun s => s.outcome = (true, [], true)) rfl
      (by decide +kernel) (by decide +kernel) fun s => RepairRun.of_outcome
  · exact Machine.Reach.exists_run_of (P := fun s => s.outcome = (true, [], true)) rfl
      (by decide +kernel) (by decide +kernel) fun s => RepairRun.of_outcome

end DarwinNet.Proxy
