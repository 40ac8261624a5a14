import DarwinNet.Proxy.StaleService

/-!
Deletions and the keys of other Services. A ClusterIP can pass from a deleted Service
to a new one, and a deletion names a port key and not the Service that owns it.

A deletion by the Service handler is harmless where every other stored Service that
serves the key has a notification queued, and one by a repair where every other live
one is repaired later in the same pass and its repair is not skipped
(`RivalsServedLater`); a relist's are followed by `applyStore`. With these orders no
deletion is the last delivery for a key that another Service serves
(`teardown_spares_others`); the opposite ones leave the new Service uninstalled
(`teardown_hits_new_owner`).
-/

namespace DarwinNet.Proxy

open Lib Netip Api

def Task.isRepair : Task → Bool
  | .repair _ _ => true
  | _ => false

section

variable (api : Netv1)

/-! ## The deliveries as the table sees them -/

/-- What reaches a port worker: an install is dropped where the proxy does not own the
ClusterIP. -/
def PortCall.event (exemptVIPs : Finset Addr) : PortCall → Option (PortKey × Desired)
  | .install svc key eps =>
    (serviceToVIP api svc).bind fun v =>
      if ownsVIP exemptVIPs v.vip.clusterIP then
        some (key, .install svc.key v.policy v.affinity eps)
      else none
  | .delete key => some (key, .absent)

namespace WatchRace

def applied (exemptVIPs : Finset Addr) (cfg : TableConfig) (s : WatchRace) : ProxyState :=
  (newProxy exemptVIPs cfg).deliverAll api (s.log.filterMap (·.call.event api exemptVIPs))

def lastOn (s : WatchRace) (p : PortKey) : Option Delivery :=
  GoMap.lastWrite p (s.log.map fun d => (d.call.key, d))

/-! ## The property and its condition -/

/-- Whether the Service still serves the key: for a repair its live object is what
counts, otherwise the store. -/
def StillServes (s : WatchRace) (t : Task) (key : ObjectKey) (p : PortKey) : Prop :=
  t.isRepair = true ∨ ∃ b, s.services.lookup key = some b ∧ p ∈ servedKeys api b

/-- No deletion is the last delivery for a key that another Service, in view when it
was made, serves. -/
def SparesOthers (s : WatchRace) : Prop :=
  ∀ p d, s.lastOn p = some d → d.call = .delete p →
    ∀ b ∈ d.seen, b.key ≠ d.task.owner → p ∈ servedKeys api b → ¬ s.StillServes api d.task b.key p

/-- No goroutine has anything left to do. -/
def Quiescent (s : WatchRace) : Prop :=
  s.HandlersIdle ∧ s.job .antiEntropy = .idle ∧ s.entropy = .idle

def deletion (s : WatchRace) : RaceStep → Option (Task × PortKey)
  | .call g => match s.job g with
    | .calling t (.delete p :: _) => some (t, p)
    | _ => none
  | _ => none

def repairsLeft (s : WatchRace) : List ObjectKey :=
  match s.entropy with
  | .pass _ _ repairs _ => repairs.map Prod.fst
  | _ => []

/-- A Service is going to be delivered after this deletion: it has a notification
queued, or the pass repairs it later. A relist applies its whole store afterwards, and
a reconcile deletes nothing. -/
def servedLater (s : WatchRace) (t : Task) (key : ObjectKey) : Bool :=
  match t with
  | .repair _ _ => s.repairsLeft.contains key
  | .relistDelete _ => true
  | .teardown _ | .reconcile _ => (lastNote s.notes key).isSome

/-- Every other Service with the port, as the task sees them, is served after it. -/
def RivalsLater (s : WatchRace) (t : Task) (p : PortKey) : Prop :=
  ∀ b ∈ s.seenBy t, b.key ≠ t.owner → p ∈ servedKeys api b → s.servedLater t b.key = true

def skippedPorts (s : WatchRace) : RaceStep → List PortKey
  | .read g => match s.job g, s.entropy with
    | .locked (.repair key ds), .pass l _ _ _ =>
      if s.skips (.repair key ds) then
        ((listLive l).svcs.lookup key).elim [] (servedKeys api)
      else []
    | _, _ => []
  | _ => []

/-- The condition on the orders: see `RivalsLater`; and where a repair is skipped, no
port of the live Service was deleted by a repair before. -/
def RivalsServedLater (s : WatchRace) (a : RaceStep) : Prop :=
  (∀ x ∈ s.deletion a, s.RivalsLater api x.1 x.2) ∧ ∀ p ∈ s.skippedPorts api a, ∀ d ∈ s.lastOn p,
      d.task.isRepair = true → d.call ≠ .delete p

instance (s : WatchRace) (t : Task) (p : PortKey) : Decidable (s.RivalsLater api t p) :=
  inferInstanceAs (Decidable (∀ b ∈ s.seenBy t, _ → _ → _ = true))

instance (s : WatchRace) (a : RaceStep) : Decidable (s.RivalsServedLater api a) :=
  inferInstanceAs (Decidable ((∀ x ∈ s.deletion a, _) ∧ ∀ p ∈ s.skippedPorts api a, _))

end WatchRace

end

/-! ## A deleted key is not in the table -/

section

variable {api : Netv1} {s s' : WatchRace} {p : PortKey} {d : Delivery} {exemptVIPs : Finset Addr}

lemma PortCall.event_key {c : PortCall} {e : PortKey × Desired}
    (h : c.event api exemptVIPs = some e) : e.1 = c.key := by
  cases c with
  | install svc key eps =>
    obtain ⟨v, -, hv⟩ := Option.bind_eq_some_iff.mp h
    split_ifs at hv
    cases hv
    rfl
  | delete key =>
    cases h
    rfl

lemma lastWrite_events_none {log : List Delivery}
    (h : GoMap.lastWrite p (log.map fun d => (d.call.key, d)) = none) :
    GoMap.lastWrite p (log.filterMap (·.call.event api exemptVIPs)) = none := by
  rw [GoMap.lastWrite_eq_none_iff] at h ⊢
  intro hmem
  obtain ⟨x, hx, hxp⟩ := List.mem_map.mp hmem
  obtain ⟨e, he, hev⟩ := List.mem_filterMap.mp hx
  refine h (List.mem_map.mpr ⟨(e.call.key, e), List.mem_map.mpr ⟨e, he, rfl⟩, ?_⟩)
  rw [← hxp, PortCall.event_key hev]

lemma lastWrite_events {log : List Delivery} {want : Desired}
    (h : GoMap.lastWrite p (log.map fun d => (d.call.key, d)) = some d)
    (hd : d.call.event api exemptVIPs = some (p, want)) :
    GoMap.lastWrite p (log.filterMap (·.call.event api exemptVIPs)) = some want := by
  induction log with
  | nil => cases h
  | cons e log ih =>
    rw [List.map_cons, GoMap.lastWrite] at h
    cases hrest : GoMap.lastWrite p (log.map fun d => (d.call.key, d)) with
    | some d' =>
      rw [hrest, Option.some_or] at h
      have hlog := ih (hrest.trans h)
      rw [List.filterMap_cons]
      split
      · exact hlog
      · rw [GoMap.lastWrite, hlog, Option.some_or]
    | none =>
      rw [hrest, Option.none_or] at h
      split_ifs at h
      cases h
      have hnone : GoMap.lastWrite p (log.filterMap (·.call.event api exemptVIPs)) = none :=
        lastWrite_events_none hrest
      have hcons : (e :: log).filterMap (·.call.event api exemptVIPs) =
          (p, want) :: log.filterMap (·.call.event api exemptVIPs) := List.filterMap_cons_some hd
      rw [hcons, GoMap.lastWrite, hnone, Option.none_or, if_pos rfl]

lemma WatchRace.applied_of_deleted (exemptVIPs : Finset Addr) (cfg : TableConfig)
    (h : s.lastOn p = some d) (hd : d.call = .delete p) :
    (s.applied api exemptVIPs cfg).table.Holds api p .absent :=
  ProxyState.holds_deliverAll_last api (lastWrite_events h (by rw [hd]; rfl))

lemma WatchRace.lastOn_append (s' : WatchRace) (d : Delivery) (hlog : s'.log = s.log ++ [d])
    (p : PortKey) : s'.lastOn p = if d.call.key = p then some d else s.lastOn p := by
  rw [lastOn, hlog, List.map_append, GoMap.lastWrite_append]
  by_cases h : d.call.key = p
  · simp [GoMap.lastWrite, h]
  · simp [GoMap.lastWrite, h, lastOn]

end

/-! ## What is still to be delivered -/

section

variable (api : Netv1)

def Job.WillInstall (j : Job) (p : PortKey) : Prop :=
  (∃ svc, (j = .waiting (.reconcile svc) ∨ j = .locked (.reconcile svc)) ∧ p ∈ servedKeys api svc) ∨
  ∃ t todo svc eps, j = .calling t todo ∧ .install svc p eps ∈ todo

/-- The goroutine of `Run` is going to reconcile every stored Service. -/
def EntropyPhase.BeforeApply (e : EntropyPhase) : Prop :=
  (∃ old, e = .swapped old) ∨ ∃ todo, e = .deleting todo

namespace WatchRace

/-- Some job is going to install the port. -/
def Coming (s : WatchRace) (p : PortKey) : Prop := ∃ g, (s.job g).WillInstall api p

def Owed (s : WatchRace) (key : ObjectKey) (p : PortKey) : Prop :=
  s.Coming api p ∨ lastNote s.notes key ≠ none ∨ s.entropy.BeforeApply ∨
    ∃ todo svc, s.entropy = .applying todo ∧ svc ∈ todo ∧ p ∈ servedKeys api svc

def OwedLive (s : WatchRace) (b : Service) (p : PortKey) : Prop :=
  s.Coming api p ∨ ∃ l settle repairs r, s.entropy = .pass l settle repairs r ∧
    (listLive l).svcs.lookup b.key = some b ∧
    (b.key ∈ repairs.map Prod.fst ∨ ∃ ds, s.job .antiEntropy = .waiting (.repair b.key ds) ∨
        s.job .antiEntropy = .locked (.repair b.key ds))

/-- What carries the argument: where the last delivery for a key is a deletion, every
other Service that serves it is owed an install. -/
structure Orderly (s : WatchRace) : Prop where
  notes : NotesMatch s.services s.notes
  relist : ∀ g svc, .relistDelete svc ∈ (s.job g).task →
    g = .antiEntropy ∧ ∃ todo, s.entropy = .deleting todo
  stored : ∀ p d, s.lastOn p = some d → d.call = .delete p → d.task.isRepair = false →
    ∀ b, s.services.lookup b.key = some b → b.key ≠ d.task.owner → p ∈ servedKeys api b →
      s.Owed api b.key p
  live : ∀ p d, s.lastOn p = some d → d.call = .delete p → d.task.isRepair = true →
    ∀ b ∈ d.seen, b.key ≠ d.task.owner → p ∈ servedKeys api b → s.OwedLive api b p

end WatchRace

end

namespace WatchRace

section

variable {api : Netv1} {static : StaticBackends} {s s' : WatchRace} {a : RaceStep} {g : Goroutine}
  {t : Task} {p : PortKey} {svc b : Service} {key : ObjectKey} {e : EntropyPhase}

lemma willInstall_waiting (hp : p ∈ servedKeys api svc) :
    (Job.waiting (.reconcile svc)).WillInstall api p := .inl ⟨svc, .inl rfl, hp⟩

lemma not_willInstall_idle : ¬ Job.idle.WillInstall api p := by
  rintro (⟨svc, hj | hj, -⟩ | ⟨t, todo, svc, eps, hj, -⟩) <;> cases hj

lemma served_of_mem_servedKeys (hp : p ∈ servedKeys api svc) : (Task.reconcile svc).Served api := by
  unfold servedKeys at hp
  cases hv : serviceToVIP api svc with
  | none => simp [hv] at hp
  | some v => simp [Task.Served, hv]

lemma Coming.mono (h : s.Coming api p)
    (hjob : ∀ g, (s.job g).WillInstall api p → (s'.job g).WillInstall api p) : s'.Coming api p :=
  h.imp hjob

lemma Coming.setJob (h : s.Coming api p) {j : Job}
    (hj : (s.job g).WillInstall api p → j.WillInstall api p) : (s.setJob g j).Coming api p := by
  refine h.mono fun g' hw => ?_
  by_cases hg : g' = g
  · subst hg
    rw [setJob_self]
    exact hj hw
  · rwa [setJob_ne j hg]

lemma Coming.begin (h : s.Coming api p) (hidle : s.job g = .idle) :
    (s.begin api g t).Coming api p := by
  unfold WatchRace.begin
  split_ifs
  · refine h.setJob fun hw => absurd hw ?_
    rw [hidle]
    exact not_willInstall_idle
  · exact h

lemma coming_begin (hp : p ∈ servedKeys api svc) :
    (s.begin api g (.reconcile svc)).Coming api p := by
  refine ⟨g, ?_⟩
  rw [begin_job_self (served_of_mem_servedKeys hp)]
  exact willInstall_waiting hp

lemma Orderly.frame (h : s.Orderly api) (hlog : s'.log = s.log)
    (hnotes : NotesMatch s'.services s'.notes)
    (hrelist : ∀ g svc, .relistDelete svc ∈ (s'.job g).task →
      g = .antiEntropy ∧ ∃ todo, s'.entropy = .deleting todo)
    (howed : ∀ b p, s'.services.lookup b.key = some b → p ∈ servedKeys api b →
      (s.services.lookup b.key = some b → s.Owed api b.key p) → s'.Owed api b.key p)
    (hlive : ∀ b p d, s.lastOn p = some d → d.call = .delete p → d.task.isRepair = true →
      p ∈ servedKeys api b → s.OwedLive api b p → s'.OwedLive api b p) : s'.Orderly api := by
  have hlast : ∀ p, s'.lastOn p = s.lastOn p := fun p => by rw [lastOn, hlog, lastOn]
  refine ⟨hnotes, hrelist, ?_, ?_⟩
  · intro p d hd hcall htask b hb ho hp
    rw [hlast] at hd
    exact howed b p hb hp fun hb' => h.stored p d hd hcall htask b hb' ho hp
  · intro p d hd hcall htask b hb ho hp
    rw [hlast] at hd
    exact hlive b p d hd hcall htask hp (h.live p d hd hcall htask b hb ho hp)

lemma Owed.imp (h : s.Owed api key p) (hcoming : s.Coming api p → s'.Coming api p)
    (hnotes : lastNote s.notes key ≠ none → lastNote s'.notes key ≠ none)
    (hentropy : s'.entropy = s.entropy) : s'.Owed api key p := by
  rcases h with h | h | h | h
  · exact .inl (hcoming h)
  · exact .inr (.inl (hnotes h))
  · exact .inr (.inr (.inl (hentropy ▸ h)))
  · exact .inr (.inr (.inr (hentropy ▸ h)))

lemma OwedLive.imp (h : s.OwedLive api b p) (hcoming : s.Coming api p → s'.Coming api p)
    (hentropy : s'.entropy = s.entropy)
    (hjob : ∀ t, s.job .antiEntropy = .waiting t ∨ s.job .antiEntropy = .locked t →
      s'.job .antiEntropy = .waiting t ∨ s'.job .antiEntropy = .locked t) :
    s'.OwedLive api b p := by
  refine Or.imp hcoming ?_ h
  rintro ⟨l, settle, repairs, r, he, hb, hrepair⟩
  exact ⟨l, settle, repairs, r, hentropy.trans he, hb,
    hrepair.imp_right fun hds => hds.imp fun ds => hjob _⟩

lemma OwedLive.idle (h : s.OwedLive api b p) (hjob : s.job .antiEntropy = .idle) :
    s.Coming api p ∨ ∃ l settle repairs r, s.entropy = .pass l settle repairs r ∧
        (listLive l).svcs.lookup b.key = some b ∧ b.key ∈ repairs.map Prod.fst := by
  refine h.imp_right ?_
  rintro ⟨l, settle, repairs, r, he, hb, hk | ⟨ds, hds | hds⟩⟩
  · exact ⟨l, settle, repairs, r, he, hb, hk⟩
  · rw [hjob] at hds
    cases hds
  · rw [hjob] at hds
    cases hds

/-! ## The informers and the handlers -/

lemma Orderly.setService (h : s.Orderly api)
    (hmatch : NotesMatch (s.putService svc).services (s.putService svc).notes) :
    (s.putService svc).Orderly api := by
  have hlast : ∀ k, lastNote (s.putService svc).notes k =
      if svc.key = k then some (.changed svc) else lastNote s.notes k := lastNote_append _ _
  refine h.frame rfl hmatch h.relist ?_ fun b p d _ _ _ _ hl => hl
  intro b p hb _ howed
  by_cases hk : svc.key = b.key
  · exact .inr (.inl (by simp [hlast, hk]))
  have hb' : s.services.lookup b.key = some b :=
    (AList.lookup_insert_ne (Ne.symm hk)).symm.trans hb
  refine (howed hb').imp id (fun hn => ?_) rfl
  rwa [hlast, if_neg hk]

lemma Orderly.deleteService (h : s.Orderly api) {old : Service}
    (hold : s.services.lookup key = some old)
    (hmatch : NotesMatch (s.dropService key old).services (s.dropService key old).notes) :
    (s.dropService key old).Orderly api := by
  have hkey := s.service_key key old hold
  have hlast : ∀ k, lastNote (s.dropService key old).notes k =
      if old.key = k then some (.deleted old) else lastNote s.notes k := lastNote_append _ _
  refine h.frame rfl hmatch h.relist ?_ fun b p d _ _ _ _ hl => hl
  intro b p hb _ howed
  by_cases hk : b.key = key
  · exact .inr (.inl (by simp [hlast, hk, hkey]))
  · have hb' : s.services.lookup b.key = some b := (AList.lookup_erase_ne hk).symm.trans hb
    refine (howed hb').imp id (fun hn => ?_) rfl
    rwa [hlast, hkey, if_neg (Ne.symm hk)]

lemma Orderly.takeService (h : s.Orderly api) {n : ServiceNote} {rest : List ServiceNote}
    (hjob : s.job .serviceHandler = .idle) (hnotes : s.notes = n :: rest)
    (hmatch : NotesMatch (s.takeNote api n rest).services (s.takeNote api n rest).notes) :
    (s.takeNote api n rest).Orderly api := by
  obtain ⟨hservices, hrest, hlog, hentropy, -⟩ := s.takeNote_frame api n rest
  have hothers : ∀ {g}, g ≠ .serviceHandler → (s.takeNote api n rest).job g = s.job g :=
    fun hg => begin_job_ne hg
  have hcoming : ∀ {p}, s.Coming api p → (s.takeNote api n rest).Coming api p := fun hc =>
    Coming.begin (s := { s with notes := rest }) hc hjob
  refine h.frame hlog hmatch ?_ ?_ ?_
  · intro g svc hmem
    by_cases hg : g = .serviceHandler
    · subst hg
      rcases begin_job (s := { s with notes := rest }) api n.task hjob with ⟨hw, -⟩ | ⟨hi, -⟩
      · rw [takeNote, hw] at hmem
        obtain ⟨svc', hn | hn⟩ := n.task_form <;> rw [hn] at hmem <;> cases hmem
      · rw [takeNote, hi] at hmem
        cases hmem
    · rw [hothers hg] at hmem
      rw [hentropy]
      exact h.relist g svc hmem
  · intro b p hb hp howed
    rw [hservices] at hb
    by_cases hr : lastNote rest b.key = none
    · by_cases hk : n.key = b.key
      · have hstored : s.services.lookup n.key = n.stored := (hnotes ▸ h.notes).head (hk ▸ hr)
        rw [hk, hb] at hstored
        cases n with
        | changed svc =>
          cases hstored
          exact .inl (coming_begin hp)
        | deleted svc => cases hstored
      · refine (howed hb).imp hcoming (fun hn => ?_) hentropy
        rw [hnotes, lastNote_cons, hr, if_neg hk] at hn
        exact absurd rfl hn
    · exact .inr (.inl (by rwa [hrest]))
  · intro b p d _ _ _ _ hl
    exact hl.imp hcoming hentropy (by rw [hothers (by decide)]; exact fun _ => id)

lemma Orderly.takeSlice (h : s.Orderly api) {sl : EndpointSlice} {rest : List EndpointSlice}
    (hjob : s.job .sliceHandler = .idle) : (s.takeSliceNote api sl rest).Orderly api := by
  obtain ⟨hservices, hnotes, hlog, hentropy, -⟩ := s.takeSliceNote_frame api sl rest
  have hcoming : ∀ {p}, s.Coming api p → (s.takeSliceNote api sl rest).Coming api p := by
    intro p hc
    refine hc.mono fun g hw => ?_
    by_cases hg : g = .sliceHandler
    · subst hg
      rw [hjob] at hw
      exact absurd hw not_willInstall_idle
    · rwa [takeSliceNote_job_ne hg]
  refine h.frame hlog ?_ ?_ ?_ ?_
  · rw [hservices, hnotes]
    exact h.notes
  · intro g svc hmem
    rw [hentropy]
    by_cases hg : g = .sliceHandler
    · subst hg
      rcases takeSliceNote_job api sl rest hjob with hi | ⟨svc', hw⟩
      · rw [hi] at hmem
        cases hmem
      · rw [hw] at hmem
        cases hmem
    · rw [takeSliceNote_job_ne hg] at hmem
      exact h.relist g svc hmem
  · intro b p hb _ howed
    rw [hservices] at hb
    exact (howed hb).imp hcoming (by rw [hnotes]; exact id) hentropy
  · intro b p d _ _ _ _ hl
    exact hl.imp hcoming hentropy (by rw [takeSliceNote_job_ne (by decide)]; exact fun _ => id)

/-! ## Under the stripe -/

lemma Orderly.setJob (h : s.Orderly api) {j : Job}
    (htask : ∀ svc, .relistDelete svc ∈ j.task → .relistDelete svc ∈ (s.job g).task)
    (hinstall : ∀ p, (s.job g).WillInstall api p → j.WillInstall api p)
    (hlive : ∀ b p d, s.lastOn p = some d → d.call = .delete p → d.task.isRepair = true →
      p ∈ servedKeys api b → s.OwedLive api b p → (s.setJob g j).OwedLive api b p) :
    (s.setJob g j).Orderly api := by
  refine h.frame rfl h.notes ?_ ?_ hlive
  · intro g' svc hmem
    by_cases hg : g' = g
    · subst hg
      rw [setJob_self] at hmem
      exact h.relist g' svc (htask svc hmem)
    · rw [setJob_ne j hg] at hmem
      exact h.relist g' svc hmem
  · intro b p hb _ howed
    exact (howed hb).imp (fun hc => hc.setJob (hinstall p)) id rfl

lemma calling_setJob {todo : List PortCall} (hjob : s.job g = .calling t todo) (j : Job)
    (t' : Task) (h : s.job .antiEntropy = .waiting t' ∨ s.job .antiEntropy = .locked t') :
    (s.setJob g j).job .antiEntropy = .waiting t' ∨
      (s.setJob g j).job .antiEntropy = .locked t' := by
  by_cases hg : g = .antiEntropy
  · subst hg
    rw [hjob] at h
    obtain h | h := h <;> cases h
  · rwa [setJob_ne j (Ne.symm hg)]

lemma Orderly.acquire (h : s.Orderly api) (hjob : s.job g = .waiting t) :
    (s.setJob g (.locked t)).Orderly api := by
  have hinstall : ∀ p, (s.job g).WillInstall api p → (Job.locked t).WillInstall api p := by
    rw [hjob]
    rintro p (⟨svc, hw | hw, hp⟩ | ⟨t', todo, svc, eps, hw, -⟩) <;> cases hw
    exact .inl ⟨svc, .inr rfl, hp⟩
  refine h.setJob ?_ hinstall ?_
  · rintro svc ⟨⟩
    rw [hjob]
    rfl
  · intro b p d _ _ _ _ hl
    refine hl.imp (fun hc => hc.setJob (hinstall p)) rfl fun t' ht' => ?_
    by_cases hg : g = .antiEntropy
    · subst hg
      rw [hjob] at ht'
      obtain ht' | ht' := ht' <;> cases ht'
      exact .inr (setJob_self _)
    · rwa [setJob_ne _ (Ne.symm hg)]

lemma Orderly.read (h : s.Orderly api) (hjob : s.job g = .locked t)
    (hok : ∀ p ∈ s.skippedPorts api (.read g), ∀ d ∈ s.lastOn p,
      d.task.isRepair = true → d.call ≠ .delete p) : (s.readTask api static g t).Orderly api := by
  have hinstall : ∀ p, (s.job g).WillInstall api p →
      (Job.calling t (s.taskCalls api static t)).WillInstall api p := by
    rw [hjob]
    rintro p (⟨svc, hw | hw, hp⟩ | ⟨t', todo, svc, eps, hw, -⟩) <;> cases hw
    obtain ⟨eps, hc⟩ := exists_applyCall static (slicesForService (storeList s.slices) svc.key) hp
    exact .inr ⟨_, _, svc, eps, rfl, hc⟩
  suffices hjob : (s.setJob g (.calling t (s.taskCalls api static t))).Orderly api from
    ⟨hjob.notes, hjob.relist, hjob.stored, hjob.live⟩
  refine h.setJob ?_ hinstall ?_
  · rintro svc ⟨⟩
    rw [hjob]
    rfl
  · rintro b p d hd hcall htask hp (hc | ⟨l, settle, repairs, r, he, hb, hrepair⟩)
    · exact .inl (hc.setJob (hinstall p))
    obtain hk | ⟨ds, hds⟩ := hrepair
    · exact .inr ⟨l, settle, repairs, r, he, hb, .inl hk⟩
    · by_cases hg : g = .antiEntropy
      · -- the repair starts: it installs the port unless it is skipped
        subst hg
        rw [hjob] at hds
        obtain hds | hds := hds <;> cases hds
        by_cases hskip : s.skips (.repair b.key ds) = true
        · refine absurd hcall (hok p ?_ d hd htask)
          simpa only [skippedPorts, hjob, he, hskip, if_true, hb, Option.elim_some] using hp
        · obtain ⟨eps, hc⟩ := exists_repairCall static ds hb hp
          refine .inl ⟨.antiEntropy, .inr ⟨_, _, b, eps, setJob_self _, ?_⟩⟩
          simp only [taskCalls, he, if_neg hskip]
          exact hc
      · refine .inr ⟨l, settle, repairs, r, he, hb, .inr ⟨ds, ?_⟩⟩
        rwa [setJob_ne _ (Ne.symm hg)]

lemma Orderly.release (h : s.Orderly api) (hjob : s.job g = .calling t []) :
    (s.setJob g .idle).Orderly api := by
  have hinstall : ∀ p, (s.job g).WillInstall api p → Job.idle.WillInstall api p := by
    rw [hjob]
    rintro p (⟨svc, hw | hw, hp⟩ | ⟨t', todo, svc, eps, hw, hmem⟩) <;> cases hw
    cases hmem
  refine h.setJob (fun _ hmem => nomatch hmem) hinstall fun b p d _ _ _ _ hl => ?_
  exact hl.imp (fun hc => hc.setJob (hinstall p)) rfl (calling_setJob hjob _)

lemma seenBy_of_not_repair (ht : t.isRepair = false) : s.seenBy t = storeList s.services := by
  cases t with
  | repair => cases ht
  | reconcile | teardown | relistDelete => rfl

lemma repaired_of_servedLater (ht : t.isRepair = true) (hb : b ∈ s.seenBy t)
    (hlater : s.servedLater t b.key = true) : ∃ l settle repairs r,
      s.entropy = .pass l settle repairs r ∧ (listLive l).svcs.lookup b.key = some b ∧
        b.key ∈ repairs.map Prod.fst := by
  cases t with
  | reconcile | teardown | relistDelete => cases ht
  | repair key ds =>
    simp only [seenBy, servedLater, repairsLeft] at hb hlater
    split at hb
    next l settle repairs r he =>
      rw [he] at hlater
      obtain ⟨k, hk⟩ := mem_storeList.mp hb
      obtain rfl := (ServiceView.svcs_key l hk).1
      exact ⟨l, settle, repairs, r, he, hk, by simpa using hlater⟩
    · cases hb

lemma Orderly.call (h : s.Orderly api) {c : PortCall} {todo : List PortCall}
    (hjob : s.job g = .calling t (c :: todo)) (hok : ∀ p, c = .delete p → s.RivalsLater api t p) :
    (s.callPort g t c todo).Orderly api := by
  have hlast := lastOn_append (s.callPort g t c todo) ⟨t, c, s.seenBy t⟩ rfl
  have hcoming : ∀ {p}, c.key ≠ p → s.Coming api p → (s.callPort g t c todo).Coming api p := by
    intro p hk hc
    refine hc.setJob fun hw => ?_
    rw [hjob] at hw
    obtain ⟨svc, hw | hw, -⟩ | ⟨t', todo', svc, eps, hw, hmem⟩ := hw <;> cases hw
    refine .inr ⟨t, todo, svc, eps, rfl, (List.mem_cons.mp hmem).resolve_left ?_⟩
    rintro rfl
    exact hk rfl
  have hentropy : (s.callPort g t c todo).entropy = s.entropy := rfl
  refine ⟨h.notes, ?_, ?_, ?_⟩
  · intro g' svc (hmem : _ ∈ ((s.setJob g _).job g').task)
    by_cases hg : g' = g
    · subst hg
      rw [setJob_self] at hmem
      exact h.relist g' svc (by rw [hjob]; exact hmem)
    · rw [setJob_ne _ hg] at hmem
      exact h.relist g' svc hmem
  · intro p d hd hcall htask b hb ho hp
    rw [hlast] at hd
    split_ifs at hd with hk
    · cases hd
      have hlater := hok p hcall b
        (by rw [seenBy_of_not_repair htask]; exact mem_storeList.mpr ⟨_, hb⟩) ho hp
      cases t with
      | relistDelete svc =>
        obtain ⟨-, todo', he⟩ := h.relist g svc (by rw [hjob]; rfl)
        exact .inr (.inr (.inl (.inr ⟨todo', he⟩)))
      | reconcile svc | teardown svc => exact .inr (.inl (Option.isSome_iff_ne_none.mp hlater))
      | repair => cases htask
    · exact (h.stored p d hd hcall htask b hb ho hp).imp (hcoming hk) id hentropy
  · intro p d hd hcall htask b hb ho hp
    rw [hlast] at hd
    split_ifs at hd with hk
    · cases hd
      obtain ⟨l, settle, repairs, r, he, hlookup, hk'⟩ :=
        repaired_of_servedLater htask hb (hok p hcall b hb ho hp)
      exact .inr ⟨l, settle, repairs, r, he, hlookup, .inl hk'⟩
    · exact (h.live p d hd hcall htask b hb ho hp).imp (hcoming hk) hentropy
        (calling_setJob hjob _)

/-! ## Anti-entropy and relists -/

lemma Orderly.not_relistDelete (h : s.Orderly api) (hjob : s.job .antiEntropy = .idle)
    (g : Goroutine) (svc : Service) : .relistDelete svc ∉ (s.job g).task := by
  intro hmem
  obtain ⟨rfl, -⟩ := h.relist g svc hmem
  rw [hjob] at hmem
  cases hmem

lemma Orderly.setEntropy (h : s.Orderly api) (hjob : s.job .antiEntropy = .idle)
    (howed : ∀ b p, s.services.lookup b.key = some b → p ∈ servedKeys api b →
      s.Owed api b.key p → (s.setEntropy e).Owed api b.key p)
    (hlive : ∀ b p, s.OwedLive api b p → (s.setEntropy e).OwedLive api b p) :
    (s.setEntropy e).Orderly api :=
  h.frame rfl h.notes (fun g svc hmem => absurd hmem (h.not_relistDelete hjob g svc))
    (fun b p hb hp ho => howed b p hb hp (ho hb)) fun b p _ _ _ _ _ => hlive b p

lemma next_frame (api : Netv1) (s : WatchRace) (e : EntropyPhase) (t : Task) :
    ((s.setEntropy e).begin api .antiEntropy t).notes = s.notes ∧
      ((s.setEntropy e).begin api .antiEntropy t).entropy = e := by
  obtain ⟨-, hnotes, -, hentropy, -⟩ := begin_frame api (s.setEntropy e) .antiEntropy t
  exact ⟨hnotes, hentropy⟩

lemma Coming.next (h : s.Coming api p) (hjob : s.job .antiEntropy = .idle) :
    ((s.setEntropy e).begin api .antiEntropy t).Coming api p :=
  Coming.begin (s := s.setEntropy e) h hjob

lemma Orderly.next (h : s.Orderly api) (hjob : s.job .antiEntropy = .idle)
    (hrelist : ∀ svc, t = .relistDelete svc → ∃ todo, e = .deleting todo)
    (howed : ∀ b p, s.services.lookup b.key = some b → p ∈ servedKeys api b →
      s.Owed api b.key p → ((s.setEntropy e).begin api .antiEntropy t).Owed api b.key p)
    (hlive : ∀ b p, s.OwedLive api b p →
      ((s.setEntropy e).begin api .antiEntropy t).OwedLive api b p) :
    ((s.setEntropy e).begin api .antiEntropy t).Orderly api := by
  obtain ⟨hservices, hnotes, hlog, hentropy, -⟩ :=
    begin_frame api (s.setEntropy e) .antiEntropy t
  refine h.frame hlog (hservices ▸ hnotes ▸ h.notes) ?_ ?_ fun b p _ _ _ _ _ => hlive b p
  · intro g svc hmem
    by_cases hg : g = .antiEntropy
    · subst hg
      refine ⟨rfl, hentropy ▸ hrelist svc ?_⟩
      rcases begin_job (s := s.setEntropy e) api t hjob with ⟨hw, -⟩ | ⟨hi, -⟩
      · rw [hw] at hmem
        exact Option.some.inj hmem
      · rw [hi] at hmem
        cases hmem
    · rw [begin_job_ne hg] at hmem
      exact absurd hmem (h.not_relistDelete hjob g svc)
  · intro b p hb hp ho
    rw [hservices] at hb
    exact howed b p hb hp (ho hb)

lemma Owed.outside (h : s.Owed api key p) (hbefore : ¬ s.entropy.BeforeApply)
    (happly : ∀ todo, s.entropy ≠ .applying todo) :
    s.Coming api p ∨ lastNote s.notes key ≠ none := by
  rcases h with h | h | h | ⟨todo, svc, he, -⟩
  · exact .inl h
  · exact .inr h
  · exact absurd h hbefore
  · exact absurd he (happly todo)

lemma not_beforeApply_idle : ¬ EntropyPhase.idle.BeforeApply := by
  rintro (⟨old, he⟩ | ⟨todo, he⟩) <;> cases he

lemma not_beforeApply_pass {l : LiveLists} {settle : List Service}
    {repairs : List (ObjectKey × List Divergence)} {r : Bool} :
    ¬ (EntropyPhase.pass l settle repairs r).BeforeApply := by
  rintro (⟨old, he⟩ | ⟨todo, he⟩) <;> cases he

lemma OwedLive.outside (h : s.OwedLive api b p)
    (hpass : ∀ l settle repairs r, s.entropy ≠ .pass l settle repairs r) : s.Coming api p :=
  h.resolve_right fun ⟨l, settle, repairs, r, he, _⟩ => hpass l settle repairs r he

lemma OwedLive.done {l : LiveLists} {settle : List Service} {r : Bool} (h : s.OwedLive api b p)
    (hjob : s.job .antiEntropy = .idle) (he : s.entropy = .pass l settle [] r) :
    s.Coming api p := by
  refine (h.idle hjob).resolve_right ?_
  rintro ⟨l', settle', repairs, r', he', -, hk⟩
  rw [he] at he'
  cases he'
  cases hk

lemma Owed.keep (h : s.Coming api p ∨ lastNote s.notes key ≠ none)
    (hcoming : s.Coming api p → s'.Coming api p) (hnotes : s'.notes = s.notes) :
    s'.Owed api key p := by
  rcases h with h | h
  · exact .inl (hcoming h)
  · exact .inr (.inl (hnotes ▸ h))

section

variable {l : LiveLists} {svc : Service} {settle rest : List Service} {key : ObjectKey}
  {ds : List Divergence} {repairs : List (ObjectKey × List Divergence)} {r : Bool}

lemma Orderly.startPass (h : s.Orderly api) (hjob : s.job .antiEntropy = .idle)
    (he : s.entropy = .idle) : (s.setEntropy (.pass l settle repairs r)).Orderly api := by
  refine h.setEntropy hjob (fun b p _ _ ho => ?_) fun b p hl => ?_
  · exact .keep (ho.outside (he ▸ not_beforeApply_idle) (by simp [he])) id rfl
  · exact .inl (hl.outside (by simp [he]))

lemma Orderly.settleNext (h : s.Orderly api) (hjob : s.job .antiEntropy = .idle)
    (he : s.entropy = .pass l (svc :: rest) repairs r) :
    ((s.setEntropy (.pass l rest repairs r)).begin api .antiEntropy (.reconcile svc)).Orderly
      api := by
  obtain ⟨hnotes, hentropy⟩ := next_frame api s (.pass l rest repairs r) (.reconcile svc)
  refine h.next hjob (fun _ ht => nomatch ht) (fun b p _ _ ho => ?_) fun b p hl => ?_
  · have howed := ho.outside (he ▸ not_beforeApply_pass) (by simp [he])
    exact .keep howed (fun hc => hc.next hjob) hnotes
  rcases hl.idle hjob with hc | ⟨l', settle', repairs', r', he', hb, hk⟩
  · exact .inl (hc.next hjob)
  · rw [he] at he'
    cases he'
    exact .inr ⟨l, rest, repairs, r, hentropy, hb, .inl hk⟩

lemma Orderly.repairNext (h : s.Orderly api) (hjob : s.job .antiEntropy = .idle)
    (he : s.entropy = .pass l [] ((key, ds) :: repairs) r) :
    ((s.setEntropy (.pass l [] repairs r)).begin api .antiEntropy (.repair key ds)).Orderly
      api := by
  obtain ⟨hnotes, hentropy⟩ := next_frame api s (.pass l [] repairs r) (.repair key ds)
  refine h.next hjob (fun _ ht => nomatch ht) (fun b p _ _ ho => ?_) fun b p hl => ?_
  · have howed := ho.outside (he ▸ not_beforeApply_pass) (by simp [he])
    exact .keep howed (fun hc => hc.next hjob) hnotes
  rcases hl.idle hjob with hc | ⟨l', settle', repairs', r', he', hb, hk⟩
  · exact .inl (hc.next hjob)
  · rw [he] at he'
    cases he'
    refine .inr ⟨l, [], repairs, r, hentropy, hb, ?_⟩
    rcases List.mem_cons.mp hk with hk | hk
    · exact .inr ⟨ds, .inl (hk ▸ begin_job_self trivial)⟩
    · exact .inl hk

lemma Orderly.endPass (h : s.Orderly api) (hjob : s.job .antiEntropy = .idle)
    (he : s.entropy = .pass l [] [] r) : (s.setEntropy .idle).Orderly api := by
  refine h.setEntropy hjob (fun b p _ _ ho => ?_) fun b p hl => .inl (hl.done hjob he)
  exact .keep (ho.outside (he ▸ not_beforeApply_pass) (by simp [he])) id rfl

lemma Orderly.swap (h : s.Orderly api) {fresh : FreshSet} (hjob : s.job .antiEntropy = .idle)
    (he : s.entropy = .pass l [] [] r) (hmatch : NotesMatch fresh.services fresh.notes) :
    (s.swapSet fresh).Orderly api := by
  refine h.frame rfl hmatch (fun g svc hmem => absurd hmem (h.not_relistDelete hjob g svc))
    (fun b p _ _ _ => ?_) fun b p d _ _ _ _ hl => .inl (hl.done hjob he)
  exact .inr (.inr (.inl (.inl ⟨fresh.old, rfl⟩)))

lemma Orderly.relistView (h : s.Orderly api) (hjob : s.job .antiEntropy = .idle)
    (he : s.entropy = .swapped settle) : (s.setEntropy (.deleting rest)).Orderly api := by
  refine h.setEntropy hjob (fun b p _ _ _ => ?_) fun b p hl => .inl (hl.outside (by simp [he]))
  exact .inr (.inr (.inl (.inr ⟨rest, rfl⟩)))

lemma Orderly.deleteNext (h : s.Orderly api) (hjob : s.job .antiEntropy = .idle)
    (he : s.entropy = .deleting (svc :: rest)) :
    ((s.setEntropy (.deleting rest)).begin api .antiEntropy (.relistDelete svc)).Orderly api := by
  obtain ⟨-, hentropy⟩ := next_frame api s (.deleting rest) (.relistDelete svc)
  refine h.next hjob (fun _ _ => ⟨rest, rfl⟩) (fun b p _ _ _ => ?_) fun b p hl => ?_
  · exact .inr (.inr (.inl (.inr ⟨rest, hentropy⟩)))
  · have hc := hl.outside (by simp [he])
    exact .inl (hc.next hjob)

lemma Orderly.applyStore (h : s.Orderly api) (hjob : s.job .antiEntropy = .idle)
    (he : s.entropy = .deleting []) (horder : rest.Perm (storeList s.services)) :
    (s.setEntropy (.applying rest)).Orderly api := by
  refine h.setEntropy hjob (fun b p hb hp _ => ?_) fun b p hl => .inl (hl.outside (by simp [he]))
  exact .inr (.inr (.inr ⟨rest, b, rfl, horder.mem_iff.mpr (mem_storeList.mpr ⟨_, hb⟩), hp⟩))

lemma Owed.applying {todo : List Service} (h : s.Owed api key p) (he : s.entropy = .applying todo) :
    (s.Coming api p ∨ lastNote s.notes key ≠ none) ∨ ∃ svc ∈ todo, p ∈ servedKeys api svc := by
  rcases h with h | h | h | ⟨todo', svc, he', hmem, hp⟩
  · exact .inl (.inl h)
  · exact .inl (.inr h)
  · rw [he] at h
    obtain ⟨old, hold⟩ | ⟨todo, htodo⟩ := h
    · cases hold
    · cases htodo
  · rw [he] at he'
    cases he'
    exact .inr ⟨svc, hmem, hp⟩

lemma Orderly.applyNext (h : s.Orderly api) (hjob : s.job .antiEntropy = .idle)
    (he : s.entropy = .applying (svc :: rest)) :
    ((s.setEntropy (.applying rest)).begin api .antiEntropy (.reconcile svc)).Orderly api := by
  obtain ⟨hnotes, hentropy⟩ := next_frame api s (.applying rest) (.reconcile svc)
  refine h.next hjob (fun _ ht => nomatch ht) (fun b p _ _ ho => ?_) fun b p hl => ?_
  · rcases ho.applying he with ho | ⟨svc', hmem, hp⟩
    · exact .keep ho (fun hc => hc.next hjob) hnotes
    · rcases List.mem_cons.mp hmem with rfl | hmem
      · exact .inl (coming_begin hp)
      · exact .inr (.inr (.inr ⟨rest, svc', hentropy, hmem, hp⟩))
  · have hc := hl.outside (by simp [he])
    exact .inl (hc.next hjob)

lemma Orderly.endRelist (h : s.Orderly api) (hjob : s.job .antiEntropy = .idle)
    (he : s.entropy = .applying []) : (s.setEntropy .idle).Orderly api := by
  refine h.setEntropy hjob (fun b p _ _ ho => ?_) fun b p hl => .inl (hl.outside (by simp [he]))
  rcases ho.applying he with ho | ⟨svc, hmem, -⟩
  · exact .keep ho id rfl
  · cases hmem

lemma Orderly.repaired (h : s.Orderly api) (hservices : s'.services = s.services)
    (hnotes : s'.notes = s.notes) (hjob : s'.job = s.job) (hentropy : s'.entropy = s.entropy)
    (hlog : s'.log = s.log) : s'.Orderly api := by
  obtain ⟨services, slices, hkey, notes, sliceNotes, job, entropy, repaired, log, gone⟩ := s
  subst hservices hnotes hjob hentropy hlog
  exact ⟨h.notes, h.relist, h.stored, h.live⟩

end

lemma orderly_of_moves (h : s.Orderly api) (hm : s.Moves api static a s')
    (hok : s.RivalsServedLater api a) : s'.Orderly api := by
  have hmatch := notesMatch_of_moves h.notes hm
  cases hm with
  | setService => exact h.setService hmatch
  | deleteService hold => exact h.deleteService hold hmatch
  | setSlice | deleteSlice => exact ⟨h.notes, h.relist, h.stored, h.live⟩
  | takeService hjob hnotes => exact h.takeService hjob hnotes hmatch
  | takeSlice hjob => exact h.takeSlice hjob
  | acquire hjob => exact h.acquire hjob
  | read hjob => exact h.read hjob hok.2
  | @call g t c todo hjob =>
    refine h.call hjob fun p hc => hok.1 (t, p) ?_
    simp only [deletion, hjob, hc]
    rfl
  | release hjob => exact h.release hjob
  | startPass hjob he => exact (h.startPass hjob he).repaired rfl rfl rfl rfl rfl
  | settleNext hjob he => exact h.settleNext hjob he
  | repairNext hjob he => exact h.repairNext hjob he
  | endPass hjob he => exact h.endPass hjob he
  | swap hjob he hcan => exact h.swap hjob he hcan.2.2
  | relistView hjob he => exact h.relistView hjob he
  | deleteNext hjob he => exact h.deleteNext hjob he
  | applyStore hjob he horder => exact h.applyStore hjob he horder
  | applyNext hjob he => exact h.applyNext hjob he
  | endRelist hjob he => exact (h.endRelist hjob he).repaired rfl rfl rfl rfl rfl

lemma orderly_start : watchRaceStart.Orderly api where
  notes _ hn := nomatch hn
  relist _ _ hmem := nomatch hmem
  stored _ _ hd := nomatch hd
  live _ _ hd := nomatch hd

lemma Quiescent.not_coming (h : s.Quiescent) : ¬ s.Coming api p := by
  obtain ⟨⟨hservice, hslice, -, -⟩, hjob, -⟩ := h
  rintro ⟨g, hw⟩
  cases g with
  | serviceHandler => exact not_willInstall_idle (hservice ▸ hw)
  | sliceHandler => exact not_willInstall_idle (hslice ▸ hw)
  | antiEntropy => exact not_willInstall_idle (hjob ▸ hw)

lemma Orderly.sparesOthers (h : s.Orderly api) (hq : s.Quiescent) : s.SparesOthers api := by
  intro p d hd hcall b hb ho hp
  cases htask : d.task.isRepair with
  | true =>
    have hl := h.live p d hd hcall htask b hb ho hp
    exact absurd (hl.outside (by simp [hq.2.2])) hq.not_coming
  | false =>
    rintro (hrepair | ⟨b', hb', hp'⟩)
    · rw [htask] at hrepair
      cases hrepair
    have hkey : b'.key = b.key := s.service_key _ _ hb'
    have howed := h.stored p d hd hcall htask b' (hkey ▸ hb') (hkey ▸ ho) hp'
    rcases howed.outside (hq.2.2 ▸ not_beforeApply_idle) (by simp [hq.2.2]) with hc | hn
    · exact absurd hc hq.not_coming
    · rw [hq.1.2.2.1] at hn
      exact hn rfl

end

end WatchRace

/-- No deletion is the last delivery for a key that another stored Service serves, where the
Services that share a key are served again after each deletion. -/
theorem teardown_spares_others (api : Netv1) (static : StaticBackends) {s : WatchRace}
    (h : (watchRaceMachine api static).Reach (fun s a => s.RivalsServedLater api a) s)
    (hq : s.Quiescent) : s.SparesOthers api := by
  refine WatchRace.Orderly.sparesOthers (h.invariant (I := WatchRace.Orderly api) ?_ ?_) hq
  · rintro s rfl
    exact WatchRace.orderly_start
  · intro s a s' hs ha hstep
    exact WatchRace.orderly_of_moves hs (WatchRace.moves_of_step hstep) ha

/-! ## Two Services of one ClusterIP -/

def nextService : Service :=
  ⟨⟨"default", "next"⟩, by decide, "", .tcp "10.43.0.10" [80]⟩

def servedRun : List RaceStep :=
  [.applyStore [], .endRelist, .setService (webService [80]), .takeService] ++
    serveOne .serviceHandler

def deleteFirst : List RaceStep :=
  servedRun ++ [.deleteService ⟨"default", "web"⟩, .setService nextService, .takeService] ++
    serveOne .serviceHandler ++ [.takeService] ++ serveOne .serviceHandler

def addFirst : List RaceStep :=
  servedRun ++ [.setService nextService, .takeService] ++ serveOne .serviceHandler ++
    [.deleteService ⟨"default", "web"⟩, .takeService] ++ serveOne .serviceHandler

def nextSlice : EndpointSlice :=
  .single ⟨"default", "slice-2"⟩ ⟨"default", "next"⟩ "80" 8080 "10.42.0.6"

def dbSlice : EndpointSlice :=
  .single ⟨"default", "slice-3"⟩ ⟨"default", "db"⟩ "5432" 5432 "10.42.0.7"

/-- The API server has replaced `webService` by `nextService`, unseen by the store. -/
def liveAfter : LiveLists where
  svcs := [nextService, dbService [5432]]
  svcRV := "7"
  slices := [nextSlice, dbSlice]
  sliceRV := "7"

def key80 : PortKey := ⟨"10.43.0.10", 80, .TCP⟩

def webLost : ObjectKey × List Divergence :=
  (⟨"default", "web"⟩, [⟨key80, [], ["10.42.0.5:8080"], [], ["10.42.0.5:8080"]⟩])

def nextFound : ObjectKey × List Divergence :=
  (⟨"default", "next"⟩, [⟨key80, ["10.42.0.6:8080"], [], ["10.42.0.6:8080"], []⟩])

def bothServed : List RaceStep :=
  servedRun ++ ([.setSlice (podSlice "web" "80"), .takeSlice] : List RaceStep) ++
    serveOne .sliceHandler ++ ([.setService (dbService [5432]), .takeService] : List RaceStep) ++
    serveOne .serviceHandler ++ ([.setSlice dbSlice, .takeSlice] : List RaceStep) ++
    serveOne .sliceHandler

def repairRun (repairs : List (ObjectKey × List Divergence)) : List RaceStep :=
  bothServed ++ ([.startPass liveAfter [] repairs, .repairNext] : List RaceStep) ++
    serveOne .antiEntropy ++ ([.repairNext] : List RaceStep) ++ serveOne .antiEntropy ++
    ([.endPass] : List RaceStep)

instance WatchRace.decidableQuiescent (s : WatchRace) : Decidable s.Quiescent :=
  have : Decidable (s.entropy = .idle) :=
    match h : s.entropy with
    | .idle => isTrue rfl
    | .pass .. | .swapped _ | .deleting _ | .applying _ => isFalse (by simp)
  inferInstanceAs (Decidable (_ ∧ _ ∧ s.entropy = .idle))

theorem teardown_spares_others_deleteFirst :
    (∃ s, (watchRaceMachine Netv1.standard ∅).run watchRaceStart deleteFirst = some s ∧
      s.Quiescent ∧ s.SparesOthers Netv1.standard) ∧
    ∃ s, (watchRaceMachine Netv1.standard ∅).run watchRaceStart
        (repairRun [webLost, nextFound]) = some s ∧
      s.Quiescent ∧ s.SparesOthers Netv1.standard := by
  constructor
  · exact Machine.exists_run_of (P := WatchRace.Quiescent) rfl (by decide +kernel)
      (by decide +kernel) fun s hreach hq =>
        ⟨hq, teardown_spares_others Netv1.standard ∅ hreach hq⟩
  · exact Machine.exists_run_of (P := WatchRace.Quiescent) rfl (by decide +kernel)
      (by decide +kernel) fun s hreach hq =>
        ⟨hq, teardown_spares_others Netv1.standard ∅ hreach hq⟩

lemma WatchRace.not_sparesOthers {s : WatchRace} {d : Delivery} (hd : s.lastOn key80 = some d)
    (hcall : d.call = .delete key80) (howner : d.task.owner = ⟨"default", "web"⟩)
    (hseen : nextService ∈ d.seen)
    (hstill : s.StillServes Netv1.standard d.task nextService.key key80) :
    ¬ s.SparesOthers Netv1.standard := fun h =>
  h key80 d hd hcall nextService hseen (by rw [howner]; decide) (by decide) hstill

/-- The old owner of a ClusterIP is torn down after the new one was served: by the handler, by a
repair. -/
theorem teardown_hits_new_owner : (∃ s, (watchRaceMachine Netv1.standard ∅).Reach Machine.always s ∧
      (watchRaceMachine Netv1.standard ∅).run watchRaceStart addFirst = some s ∧ s.Quiescent ∧
      (s.applied Netv1.standard ∅ (defaultConfig .zero)).table.Holds Netv1.standard key80 .absent ∧
      ¬ s.SparesOthers Netv1.standard) ∧
    ∃ s, (watchRaceMachine Netv1.standard ∅).Reach Machine.always s ∧
      (watchRaceMachine Netv1.standard ∅).run watchRaceStart
        (repairRun [nextFound, webLost]) = some s ∧ s.Quiescent ∧
      (s.applied Netv1.standard ∅ (defaultConfig .zero)).table.Holds Netv1.standard key80 .absent ∧
      ¬ s.SparesOthers Netv1.standard := by
  constructor
  · refine Machine.Reach.exists_run_of (P := fun s => s.Quiescent ∧
      s.services.lookup nextService.key = some nextService ∧ ∃ d ∈ s.lastOn key80,
        d.call = .delete key80 ∧ d.task.owner = ⟨"default", "web"⟩ ∧ nextService ∈ d.seen) rfl
      (Machine.meets_always _ _) (by decide +kernel) ?_
    rintro s ⟨hq, hstored, d, hd, hcall, howner, hseen⟩
    refine ⟨hq, s.applied_of_deleted ∅ (defaultConfig .zero) hd hcall, ?_⟩
    exact s.not_sparesOthers hd hcall howner hseen (.inr ⟨nextService, hstored, by decide⟩)
  · refine Machine.Reach.exists_run_of (P := fun s => s.Quiescent ∧ ∃ d ∈ s.lastOn key80,
      d.call = .delete key80 ∧ d.task.owner = ⟨"default", "web"⟩ ∧ nextService ∈ d.seen ∧
        d.task.isRepair = true) rfl (Machine.meets_always _ _) (by decide +kernel) ?_
    rintro s ⟨hq, d, hd, hcall, howner, hseen, hrepair⟩
    refine ⟨hq, s.applied_of_deleted ∅ (defaultConfig .zero) hd hcall, ?_⟩
    exact s.not_sparesOthers hd hcall howner hseen (.inl hrepair)

end DarwinNet.Proxy
