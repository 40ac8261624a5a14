import DarwinNet.Proxy.WatchRace

/-!
The two informer handlers without the anti-entropy goroutine: which Service object
the last delivery for a port was made from, once both are idle.

The slice handler reads the Service from the store before it takes the stripe, so
the lock orders the slice snapshots and not the Service objects. Where the object
is still the stored one when it gets the lock, or the Service handler has yet to act
on a newer one (`FreshAtLock`), every delivery left behind is from the stored object
(`last_delivery_from_store`). Otherwise an older object can be delivered last, also
that of a deleted Service (`stale_service_lands`).
-/

namespace DarwinNet.Proxy

open Lib Netip Api

def RaceStep.ofHandlers : RaceStep → Bool
  | .setService _ | .deleteService _ | .setSlice _ | .deleteSlice _ => true
  | .takeService | .takeSlice => true
  | .acquire g | .read g | .call g | .release g => g ≠ .antiEntropy
  | _ => false

section

variable (api : Netv1)

def Task.keys : Task → List PortKey
  | .reconcile svc => servedKeys api svc
  | .teardown svc => deletedKeys api svc
  | .relistDelete _ | .repair _ _ => []

/-- The call that a task makes for a port. -/
def Task.Wants (t : Task) (p : PortKey) (c : PortCall) : Prop :=
  match t with
  | .reconcile svc => ∃ eps, c = .install svc p eps
  | .teardown _ => c = .delete p
  | .relistDelete _ | .repair _ _ => False

namespace WatchRace

def lastFor (s : WatchRace) (owner : ObjectKey) (p : PortKey) : Option Delivery :=
  GoMap.lastWrite (owner, p) (s.log.map fun d => ((d.task.owner, d.call.key), d))

/-- What the store asks of a Service: to serve the object it holds, or to tear down
the last one it held. -/
def Current (s : WatchRace) : Task → Prop
  | .reconcile svc => s.services.lookup svc.key = some svc
  | .teardown svc => s.services.lookup svc.key = none ∧ s.gone.lookup svc.key = some svc
  | .relistDelete _ | .repair _ _ => False

instance (s : WatchRace) (t : Task) : Decidable (s.Current t) :=
  match t with
  | .reconcile _ => inferInstanceAs (Decidable (_ = _))
  | .teardown _ => inferInstanceAs (Decidable (_ = _ ∧ _ = _))
  | .relistDelete _ | .repair _ _ => isFalse id

/-- The Service handler has yet to act on a notification about the Service: it is
queued, or the handler waits for the stripe. -/
def Pending (s : WatchRace) (key : ObjectKey) : Prop :=
  lastNote s.notes key ≠ none ∨ ∃ t ∈ (s.job .serviceHandler).task,
      s.job .serviceHandler = .waiting t ∧ t.owner = key

instance (s : WatchRace) (key : ObjectKey) : Decidable (s.Pending key) :=
  inferInstanceAs (Decidable (_ ≠ _ ∨ ∃ t ∈ (s.job .serviceHandler).task, _))

/-- The task for which the slice handler gets the stripe in this step. -/
def sliceLock (s : WatchRace) : RaceStep → Option Task
  | .acquire .sliceHandler => (s.job .sliceHandler).task
  | _ => none

/-- When the slice handler gets the stripe, the Service it read is still the stored
one or the Service handler has yet to act on a newer one. -/
def FreshAtLock (s : WatchRace) (a : RaceStep) : Prop :=
  ∀ t ∈ s.sliceLock a, s.Current t ∨ s.Pending t.owner

instance (s : WatchRace) (a : RaceStep) : Decidable (s.FreshAtLock a) :=
  inferInstanceAs (Decidable (∀ t ∈ s.sliceLock a, _ ∨ _))

/-- Both handlers are idle and have no notification to come. -/
def HandlersIdle (s : WatchRace) : Prop :=
  s.job .serviceHandler = .idle ∧ s.job .sliceHandler = .idle ∧ s.notes = [] ∧ s.sliceNotes = []

instance (s : WatchRace) : Decidable s.HandlersIdle :=
  inferInstanceAs (Decidable (_ = _ ∧ _ = _ ∧ _ = _ ∧ _ = _))

/-- For each port of a stored Service the last delivery was made from the stored
object, and for each port of a Service no longer stored it was a deletion. -/
def FollowsStore (s : WatchRace) : Prop :=
  (∀ svc, s.services.lookup svc.key = some svc → ∀ p ∈ servedKeys api svc,
    ∃ d eps, s.lastFor svc.key p = some d ∧ d.call = .install svc p eps) ∧
  ∀ svc, s.services.lookup svc.key = none → s.gone.lookup svc.key = some svc →
    ∀ p ∈ deletedKeys api svc, ∃ d, s.lastFor svc.key p = some d ∧ d.call = .delete p

end WatchRace

end

/-! ## Tasks of the handlers -/

section

variable {api : Netv1} {static : StaticBackends} {s s' : WatchRace} {t t' : Task} {p : PortKey}
  {c : PortCall}

lemma Task.key_of_wants (h : t.Wants p c) : c.key = p := by
  cases t with
  | reconcile svc =>
    obtain ⟨eps, rfl⟩ := h
    rfl
  | teardown svc =>
    cases h
    rfl
  | relistDelete | repair => exact h.elim

lemma Task.keys_of_not_served (h : ¬ t.Served api) : t.keys api = [] := by
  cases t with
  | reconcile svc =>
    have hnone : serviceToVIP api svc = none := by simpa [Served] using h
    simp only [keys, servedKeys, hnone]
  | teardown svc =>
    have hnone : serviceToVIP api svc = none := by simpa [Served] using h
    simp only [keys, deletedKeys, hnone]
  | relistDelete | repair => rfl

lemma ServiceNote.task_form (n : ServiceNote) :
    ∃ svc, n.task = .reconcile svc ∨ n.task = .teardown svc := by
  cases n with
  | changed svc => exact ⟨svc, .inl rfl⟩
  | deleted svc => exact ⟨svc, .inr rfl⟩

lemma WatchRace.exists_call (hp : p ∈ t.keys api) :
    ∃ c ∈ s.taskCalls api static t, t.Wants p c := by
  cases t with
  | reconcile svc =>
    obtain ⟨eps, hc⟩ := exists_applyCall static
      (slicesForService (storeList s.slices) svc.key) hp
    exact ⟨_, hc, eps, rfl⟩
  | teardown svc => exact ⟨.delete p, mem_deleteCalls.mpr ⟨p, hp, rfl⟩, rfl⟩
  | relistDelete | repair => cases hp

lemma WatchRace.wants_of_mem_taskCalls (ht : ∃ svc, t = .reconcile svc ∨ t = .teardown svc)
    (hc : c ∈ s.taskCalls api static t) : t.Wants c.key c := by
  obtain ⟨svc, rfl | rfl⟩ := ht
  · obtain ⟨p, eps, rfl, -⟩ := mem_applyCalls hc
    exact ⟨eps, rfl⟩
  · obtain ⟨p, -, rfl⟩ := mem_deleteCalls.mp hc
    rfl

lemma WatchRace.Current.unique (h : s.Current t) (h' : s.Current t') (ho : t.owner = t'.owner) :
    t = t' := by
  cases t <;> cases t' <;> simp only [Current, Task.owner] at h h' ho
  · rw [ho, h'] at h
    cases h
    rfl
  · rw [ho, h'.1] at h
    cases h
  · rw [← ho, h.1] at h'
    cases h'
  · rw [ho, h'.2] at h
    cases h.2
    rfl

lemma WatchRace.lastFor_append (s' : WatchRace) (d : Delivery) (hlog : s'.log = s.log ++ [d])
    (k : ObjectKey) (p : PortKey) : s'.lastFor k p =
      if (d.task.owner, d.call.key) = (k, p) then some d else s.lastFor k p := by
  rw [lastFor, hlog, List.map_append, GoMap.lastWrite_append]
  by_cases h : (d.task.owner, d.call.key) = (k, p)
  · simp [GoMap.lastWrite, h]
  · simp [GoMap.lastWrite, h, lastFor]

end

/-! ## Every port is covered -/

def Job.WillCall (j : Job) (t : Task) (p : PortKey) : Prop :=
  j = .locked t ∨ ∃ todo, j = .calling t todo ∧ ∃ c ∈ todo, t.Wants p c

namespace WatchRace

/-- The last call of the Service for the port is the task's. -/
def Left (s : WatchRace) (t : Task) (p : PortKey) : Prop :=
  ∃ d, s.lastFor t.owner p = some d ∧ t.Wants p d.call

/-- What carries the argument: a Service the Service handler has nothing left to do
about has each of its ports delivered, or about to be, as the store asks; and what
holds its stripe delivers the same. -/
structure Fresh (api : Netv1) (s : WatchRace) : Prop where
  quiet : s.job .antiEntropy = .idle
  notes : NotesMatch s.services s.notes
  gone : ∀ key svc, lastNote s.notes key = some (.deleted svc) → s.gone.lookup key = some svc
  handler : ∀ g, ∀ t ∈ (s.job g).task, ∃ svc, t = .reconcile svc ∨ t = .teardown svc
  told : ∀ t ∈ (s.job .serviceHandler).task, lastNote s.notes t.owner = none → s.Current t
  genuine : ∀ g t todo, s.job g = .calling t todo → ∀ c ∈ todo, t.Wants c.key c
  held : ∀ g, ∀ t₀ ∈ (s.job g).holding, ¬ s.Pending t₀.owner →
    ∀ t, s.Current t → t.owner = t₀.owner → t.keys api ≠ [] → t₀ = t
  covered : ∀ t, s.Current t → ¬ s.Pending t.owner → ∀ p ∈ t.keys api,
    s.Left t p ∨ ∃ g, (s.job g).WillCall t p

section

variable {api : Netv1} {static : StaticBackends} {s s' : WatchRace} {g : Goroutine} {t : Task}
  {n : ServiceNote} {p : PortKey} {j : Job}

lemma current_congr (hs : s'.services.lookup t.owner = s.services.lookup t.owner)
    (hg : s'.gone.lookup t.owner = s.gone.lookup t.owner) : s'.Current t ↔ s.Current t := by
  cases t with
  | reconcile svc => exact Iff.of_eq (congrArg (· = some svc) hs)
  | teardown svc =>
    simp only [Current, Task.owner] at hs hg ⊢
    rw [hs, hg]
  | relistDelete | repair => exact Iff.rfl

lemma left_congr (hlog : s'.log = s.log) : s'.Left t p ↔ s.Left t p := by
  simp only [Left, lastFor, hlog]

lemma current_note (hs : s.services.lookup n.key = n.stored)
    (hg : ∀ svc, n = .deleted svc → s.gone.lookup n.key = some svc) : s.Current n.task := by
  cases n with
  | changed svc => exact hs
  | deleted svc => exact ⟨hs, hg svc rfl⟩

lemma Fresh.write (h : s.Fresh api) (hjob : s'.job = s.job) (hlog : s'.log = s.log)
    (hnotes : s'.notes = s.notes ++ [n]) (hmatch : NotesMatch s'.services s'.notes)
    (hgone : ∀ svc, n = .deleted svc → s'.gone.lookup n.key = some svc)
    (hother : ∀ k, k ≠ n.key → s'.services.lookup k = s.services.lookup k ∧
      s'.gone.lookup k = s.gone.lookup k) : s'.Fresh api := by
  have hlast : ∀ k, lastNote s'.notes k = if n.key = k then some n else lastNote s.notes k := by
    intro k
    rw [hnotes, lastNote_append]
  have hnew : s'.Pending n.key := .inl (by simp [hlast])
  have hne : ∀ {k}, ¬ s'.Pending k → k ≠ n.key := fun hp hk => hp (hk ▸ hnew)
  have hpend : ∀ {k}, ¬ s'.Pending k → ¬ s.Pending k := by
    intro k hp hold
    refine hp (hold.imp (fun hn => ?_) fun hw => ?_)
    · rw [hlast, if_neg (hne hp).symm]
      exact hn
    · rw [hjob]
      exact hw
  have hcur : ∀ {t : Task}, t.owner ≠ n.key → (s'.Current t ↔ s.Current t) := fun hk =>
    current_congr (hother _ hk).1 (hother _ hk).2
  refine ⟨hjob ▸ h.quiet, hmatch, ?_, hjob ▸ h.handler, ?_, hjob ▸ h.genuine, ?_, ?_⟩
  · intro key svc hn
    rw [hlast] at hn
    split_ifs at hn with hk
    · cases hn
      exact hk ▸ hgone svc rfl
    · rw [(hother key (Ne.symm hk)).2]
      exact h.gone key svc hn
  · intro t ht hn
    rw [hjob] at ht
    rw [hlast] at hn
    split_ifs at hn with hk
    exact (hcur (Ne.symm hk)).mpr (h.told t ht hn)
  · intro g t₀ ht₀ hp t ht ho hkeys
    rw [hjob] at ht₀
    exact h.held g t₀ ht₀ (hpend hp) t ((hcur (ho ▸ hne hp)).mp ht) ho hkeys
  · intro t ht hp p hpk
    rw [hjob, left_congr hlog]
    exact h.covered t ((hcur (hne hp)).mp ht) (hpend hp) p hpk

lemma Fresh.congr (h : s.Fresh api) (hjob : s'.job = s.job) (hlog : s'.log = s.log)
    (hnotes : s'.notes = s.notes) (hservices : s'.services = s.services)
    (hgone : s'.gone = s.gone) : s'.Fresh api := by
  have hcur : ∀ t, s'.Current t ↔ s.Current t := fun t =>
    current_congr (by rw [hservices]) (by rw [hgone])
  have hpend : ∀ k, s'.Pending k ↔ s.Pending k := fun k => by
    simp only [Pending, hjob, hnotes]
  refine ⟨hjob ▸ h.quiet, hservices ▸ hnotes ▸ h.notes, hgone ▸ hnotes ▸ h.gone,
    hjob ▸ h.handler, ?_, hjob ▸ h.genuine, ?_, ?_⟩
  · intro t ht hn
    exact (hcur t).mpr (h.told t (hjob ▸ ht) (hnotes ▸ hn))
  · intro g t₀ ht₀ hp t ht
    exact h.held g t₀ (hjob ▸ ht₀) (fun hp' => hp ((hpend _).mpr hp')) t ((hcur t).mp ht)
  · intro t ht hp p hpk
    rw [hjob, left_congr hlog]
    exact h.covered t ((hcur t).mp ht) (fun hp' => hp ((hpend _).mpr hp')) p hpk

lemma Free.owner_ne {key : ObjectKey} (h : s.Free key) (ht : t ∈ (s.job g).holding) :
    t.owner ≠ key := by
  intro heq
  refine h g ?_ t ht (by rw [heq])
  cases g <;> simp

lemma willCall_of_ne {g' : Goroutine} (hg : ¬ (s.job g).WillCall t p)
    (h : (s.job g').WillCall t p) : ((s.setJob g j).job g').WillCall t p := by
  have hne : g' ≠ g := by
    rintro rfl
    exact hg h
  rwa [setJob_ne j hne]

lemma Fresh.setJob (h : s.Fresh api) {log : List Delivery} (hg : g ≠ .antiEntropy)
    (hform : ∀ t ∈ j.task, ∃ svc, t = .reconcile svc ∨ t = .teardown svc)
    (htold : g = .serviceHandler → ∀ t ∈ j.task, lastNote s.notes t.owner = none → s.Current t)
    (hgenuine : ∀ t todo, j = .calling t todo → ∀ c ∈ todo, t.Wants c.key c)
    (hheld : ∀ t₀ ∈ j.holding, ¬ (s.setJob g j).Pending t₀.owner →
      ∀ t, s.Current t → t.owner = t₀.owner → t.keys api ≠ [] → t₀ = t)
    (hothers : ∀ g', g' ≠ g → ∀ t₀ ∈ (s.job g').holding, ¬ (s.setJob g j).Pending t₀.owner →
      ¬ s.Pending t₀.owner)
    (hcovered : ∀ t, s.Current t → ¬ (s.setJob g j).Pending t.owner → ∀ p ∈ t.keys api,
      ((s.setJob g j).withLog log).Left t p ∨ ∃ g', ((s.setJob g j).job g').WillCall t p) :
    ((s.setJob g j).withLog log).Fresh api := by
  refine ⟨?_, h.notes, h.gone, ?_, ?_, ?_, ?_, hcovered⟩
  · exact (setJob_ne j (Ne.symm hg)).trans h.quiet
  · intro g' t (ht : t ∈ ((s.setJob g j).job g').task)
    by_cases hgg : g' = g
    · subst hgg
      rw [setJob_self] at ht
      exact hform t ht
    · rw [setJob_ne j hgg] at ht
      exact h.handler g' t ht
  · intro t (ht : t ∈ ((s.setJob g j).job _).task) hn
    by_cases hgg : g = .serviceHandler
    · subst hgg
      rw [setJob_self] at ht
      exact htold rfl t ht hn
    · rw [setJob_ne j (Ne.symm hgg)] at ht
      exact h.told t ht hn
  · intro g' t todo (hjob : (s.setJob g j).job g' = _)
    by_cases hgg : g' = g
    · subst hgg
      rw [setJob_self] at hjob
      exact hgenuine t todo hjob
    · rw [setJob_ne j hgg] at hjob
      exact h.genuine g' t todo hjob
  · intro g' t₀ (ht₀ : t₀ ∈ ((s.setJob g j).job g').holding) hp t ht ho hkeys
    by_cases hgg : g' = g
    · subst hgg
      rw [setJob_self] at ht₀
      exact hheld t₀ ht₀ hp t ht ho hkeys
    · rw [setJob_ne j hgg] at ht₀
      exact h.held g' t₀ ht₀ (hothers g' hgg t₀ ht₀ hp) t ht ho hkeys

lemma Fresh.acquire (h : s.Fresh api) (hg : g ≠ .antiEntropy) (hjob : s.job g = .waiting t)
    (hfree : s.Free t.owner) (hok : g = .sliceHandler → s.Current t ∨ s.Pending t.owner) :
    (s.setJob g (.locked t)).Fresh api := by
  have hother : ∀ {k}, k ≠ t.owner → ¬ (s.setJob g (.locked t)).Pending k → ¬ s.Pending k := by
    rintro k hk hp (hn | ⟨t', ht', hw, rfl⟩)
    · exact hp (.inl hn)
    by_cases hgg : g = .serviceHandler
    · subst hgg
      rw [hjob] at hw
      cases hw
      exact hk rfl
    · refine hp (.inr ⟨t', ?_⟩)
      rw [setJob_ne _ (Ne.symm hgg)]
      exact ⟨ht', hw, rfl⟩
  -- without a newer notification, the object brought to the lock is the stored one
  have hcur : ¬ (s.setJob g (.locked t)).Pending t.owner → s.Current t := by
    intro hp
    cases g with
    | serviceHandler =>
      refine h.told t (by rw [hjob]; rfl) ?_
      by_contra hn
      exact hp (.inl hn)
    | sliceHandler =>
      refine (hok rfl).resolve_right fun hold => hp (hold.imp_right ?_)
      rw [setJob_ne _ (by decide)]
      exact id
    | antiEntropy => exact absurd rfl hg
  have hwait : ∀ t' p, ¬ (s.job g).WillCall t' p := by
    rintro t' p (hl | ⟨todo, hl, -⟩) <;> rw [hjob] at hl <;> cases hl
  refine h.setJob hg ?_ ?_ ?_ ?_ ?_ ?_
  · rintro t' ⟨⟩
    exact h.handler g t (by rw [hjob]; rfl)
  · rintro rfl t' ⟨⟩ hn
    exact h.told t (by rw [hjob]; rfl) hn
  · rintro t' todo ⟨⟩
  · rintro _ ⟨⟩ hp t' ht' ho _
    exact (hcur hp).unique ht' ho.symm
  · intro g' _ t₀ ht₀ hp
    exact hother (hfree.owner_ne ht₀) hp
  · intro t' ht' hp p hpk
    by_cases ho : t'.owner = t.owner
    · have heq : t' = t := ht'.unique (hcur (ho ▸ hp)) ho
      refine .inr ⟨g, .inl ?_⟩
      rw [setJob_self, heq]
    · rcases h.covered t' ht' (hother ho hp) p hpk with hl | ⟨g', hw⟩
      · exact .inl hl
      · exact .inr ⟨g', willCall_of_ne (hwait t' p) hw⟩

lemma pending_of_setJob (hjob : ∀ t, s.job g ≠ .waiting t) {k : ObjectKey}
    (hp : ¬ (s.setJob g j).Pending k) : ¬ s.Pending k := by
  rintro (hn | ⟨t, ht, hw, rfl⟩)
  · exact hp (.inl hn)
  have hne : Goroutine.serviceHandler ≠ g := by
    rintro rfl
    exact hjob t hw
  refine hp (.inr ⟨t, ?_⟩)
  rw [setJob_ne j hne]
  exact ⟨ht, hw, rfl⟩

lemma Fresh.read (h : s.Fresh api) (hg : g ≠ .antiEntropy) (hjob : s.job g = .locked t) :
    (s.readTask api static g t).Fresh api := by
  have hpend : ∀ {k}, ¬ (s.setJob g (.calling t (s.taskCalls api static t))).Pending k →
      ¬ s.Pending k :=
    pending_of_setJob (by simp [hjob])
  refine Fresh.congr (s := s.setJob g (.calling t (s.taskCalls api static t))) ?_
    rfl rfl rfl rfl rfl
  have hform := h.handler g t (by rw [hjob]; rfl)
  refine h.setJob hg ?_ ?_ ?_ ?_ ?_ ?_
  · rintro _ ⟨⟩
    exact hform
  · rintro rfl _ ⟨⟩
    exact h.told t (by rw [hjob]; rfl)
  · rintro _ _ ⟨⟩ c hc
    exact wants_of_mem_taskCalls hform hc
  · rintro _ ⟨⟩ hp
    exact h.held g t (by rw [hjob]; rfl) (hpend hp)
  · exact fun _ _ _ _ hp => hpend hp
  · intro t' ht' hp p hpk
    rcases h.covered t' ht' (hpend hp) p hpk with hl | ⟨g', hw⟩
    · exact .inl hl
    by_cases hgw : (s.job g).WillCall t' p
    · refine .inr ⟨g, .inr ⟨s.taskCalls api static t, ?_⟩⟩
      obtain hl | ⟨todo, hl, -⟩ := hgw <;> rw [hjob] at hl <;> cases hl
      exact ⟨setJob_self _, exists_call hpk⟩
    · exact .inr ⟨g', willCall_of_ne hgw hw⟩

lemma Fresh.release (h : s.Fresh api) (hg : g ≠ .antiEntropy) (hjob : s.job g = .calling t []) :
    (s.setJob g .idle).Fresh api := by
  have hpend : ∀ {k}, ¬ (s.setJob g .idle).Pending k → ¬ s.Pending k :=
    pending_of_setJob (by simp [hjob])
  have hdone : ∀ t' p, ¬ (s.job g).WillCall t' p := by
    rintro t' p (hl | ⟨todo, hl, c, hc, -⟩) <;> rw [hjob] at hl <;> cases hl
    cases hc
  refine h.setJob hg (fun _ ht => nomatch ht) (fun _ _ ht => nomatch ht)
    (fun _ _ hj => nomatch hj) (fun _ ht => nomatch ht) (fun _ _ _ _ hp => hpend hp) ?_
  intro t' ht' hp p hpk
  rcases h.covered t' ht' (hpend hp) p hpk with hl | ⟨g', hw⟩
  · exact .inl hl
  · exact .inr ⟨g', willCall_of_ne (hdone t' p) hw⟩

lemma Fresh.call (h : s.Fresh api) (hg : g ≠ .antiEntropy) {c : PortCall} {todo : List PortCall}
    (hjob : s.job g = .calling t (c :: todo)) : (s.callPort g t c todo).Fresh api := by
  have hpend : ∀ {k}, ¬ (s.setJob g (.calling t todo)).Pending k → ¬ s.Pending k :=
    pending_of_setJob (by simp [hjob])
  have hwants := h.genuine g t _ hjob
  have hlast := lastFor_append (s.callPort g t c todo) ⟨t, c, s.seenBy t⟩ rfl
  refine h.setJob hg ?_ ?_ ?_ ?_ ?_ ?_
  · rintro _ ⟨⟩
    exact h.handler g t (by rw [hjob]; rfl)
  · rintro rfl _ ⟨⟩
    exact h.told t (by rw [hjob]; rfl)
  · rintro _ _ ⟨⟩ c' hc'
    exact hwants c' (List.mem_cons_of_mem _ hc')
  · rintro _ ⟨⟩ hp
    exact h.held g t (by rw [hjob]; rfl) (hpend hp)
  · exact fun _ _ _ _ hp => hpend hp
  · intro t' ht' hp p hpk
    by_cases ho : t'.owner = t.owner
    · -- the holder of the stripe works for the stored object
      have heq : t = t' := h.held g t (by rw [hjob]; rfl) (ho ▸ hpend hp) t' ht' ho
        (List.ne_nil_of_mem hpk)
      subst heq
      by_cases hp' : c.key = p
      · left
        refine ⟨_, (hlast _ _).trans (if_pos (by rw [hp'])), ?_⟩
        exact hp' ▸ hwants c List.mem_cons_self
      · rcases h.covered t ht' (hpend hp) p hpk with ⟨d, hd, hdw⟩ | ⟨g', hw⟩
        · left
          refine ⟨d, ?_, hdw⟩
          rw [← hd]
          exact (hlast _ _).trans (if_neg fun he => hp' (congrArg Prod.snd he))
        · right
          by_cases hgg : g' = g
          · subst hgg
            obtain hl | ⟨todo', hl, c', hc', hcw⟩ := hw <;> rw [hjob] at hl <;> cases hl
            refine ⟨g', .inr ⟨todo, setJob_self _, c', ?_, hcw⟩⟩
            refine (List.mem_cons.mp hc').resolve_left ?_
            rintro rfl
            exact hp' (Task.key_of_wants hcw)
          · exact ⟨g', by rwa [setJob_ne _ hgg]⟩
    · rcases h.covered t' ht' (hpend hp) p hpk with ⟨d, hd, hdw⟩ | ⟨g', hw⟩
      · left
        refine ⟨d, ?_, hdw⟩
        rw [← hd]
        exact (hlast _ _).trans (if_neg fun he => ho (congrArg Prod.fst he).symm)
      · refine .inr ⟨g', willCall_of_ne ?_ hw⟩
        rintro (hl | ⟨todo', hl, -⟩) <;> rw [hjob] at hl <;> cases hl
        exact ho rfl

lemma not_willCall_idle : ¬ Job.idle.WillCall t p := by
  rintro (hl | ⟨todo, hl, -⟩) <;> cases hl

lemma Fresh.takeService (h : s.Fresh api) {rest : List ServiceNote}
    (hjob : s.job .serviceHandler = .idle) (hnotes : s.notes = n :: rest) :
    (s.takeNote api n rest).Fresh api := by
  obtain ⟨hservices, hrest, hlog, -, hgone⟩ := s.takeNote_frame api n rest
  have hjob' : (s.takeNote api n rest).job .serviceHandler = .waiting n.task ∧ n.task.Served api ∨
      (s.takeNote api n rest).job .serviceHandler = .idle ∧ ¬ n.task.Served api :=
    begin_job (s := { s with notes := rest }) api n.task hjob
  have hothers : ∀ {g}, g ≠ .serviceHandler → (s.takeNote api n rest).job g = s.job g :=
    fun hg => begin_job_ne hg
  have hcur : ∀ t, (s.takeNote api n rest).Current t ↔ s.Current t := fun t =>
    current_congr (by rw [hservices]) (by rw [hgone])
  have hlast : ∀ k, lastNote s.notes k =
      (lastNote rest k).or (if n.key = k then some n else none) := by
    intro k
    rw [hnotes, lastNote_cons]
  have hnone : lastNote rest n.key = none → s.Current n.task := by
    intro hr
    have hn : lastNote s.notes n.key = some n := by rw [hlast, hr, Option.none_or, if_pos rfl]
    exact current_note (h.notes.stored hn) fun svc hd => h.gone n.key svc (hd ▸ hn)
  -- a notification that ends here was about a Service that serves nothing
  have hdone : ¬ (s.takeNote api n rest).Pending n.key →
      ∀ t, s.Current t → t.owner = n.key → t.keys api = [] := by
    intro hp t ht ho
    have hr : lastNote rest n.key = none := by
      by_contra hr
      exact hp (.inl (by rwa [hrest]))
    rcases hjob' with ⟨hw, -⟩ | ⟨-, hserved⟩
    · exact absurd (.inr ⟨n.task, by rw [hw]; rfl, hw, n.owner_task⟩) hp
    · rw [ht.unique (hnone hr) (ho.trans n.owner_task.symm)]
      exact Task.keys_of_not_served hserved
  have hpend : ∀ {k}, k ≠ n.key → ¬ (s.takeNote api n rest).Pending k → ¬ s.Pending k := by
    rintro k hk hp (hn | ⟨t, ht, -⟩)
    · rw [hlast, if_neg (Ne.symm hk), Option.or_none] at hn
      exact hp (.inl (by rwa [hrest]))
    · rw [hjob] at ht
      cases ht
  refine ⟨(hothers (by decide)).trans h.quiet, ?_, ?_, ?_, ?_, ?_, ?_, ?_⟩
  · rw [hservices, hrest]
    exact (hnotes ▸ h.notes).tail
  · intro key svc hr
    rw [hrest] at hr
    rw [hgone]
    exact h.gone key svc (by rw [hlast, hr, Option.some_or])
  · intro g t ht
    by_cases hg : g = .serviceHandler
    · subst hg
      rcases hjob' with ⟨hw, -⟩ | ⟨hi, -⟩
      · rw [hw] at ht
        cases ht
        exact n.task_form
      · rw [hi] at ht
        cases ht
    · rw [hothers hg] at ht
      exact h.handler g t ht
  · intro t ht hr
    rw [hrest] at hr
    rcases hjob' with ⟨hw, -⟩ | ⟨hi, -⟩
    · rw [hw] at ht
      cases ht
      exact (hcur _).mpr (hnone (by rwa [n.owner_task] at hr))
    · rw [hi] at ht
      cases ht
  · intro g t todo hcall
    by_cases hg : g = .serviceHandler
    · subst hg
      rcases hjob' with ⟨hw, -⟩ | ⟨hi, -⟩
      · rw [hw] at hcall
        cases hcall
      · rw [hi] at hcall
        cases hcall
    · rw [hothers hg] at hcall
      exact h.genuine g t todo hcall
  · intro g t₀ ht₀ hp t ht ho hkeys
    have hg : g ≠ .serviceHandler := by
      rintro rfl
      rcases hjob' with ⟨hw, -⟩ | ⟨hi, -⟩
      · rw [hw] at ht₀
        cases ht₀
      · rw [hi] at ht₀
        cases ht₀
    by_cases hk : t₀.owner = n.key
    · exact absurd (hdone (hk ▸ hp) t ((hcur t).mp ht) (ho.trans hk)) hkeys
    · rw [hothers hg] at ht₀
      exact h.held g t₀ ht₀ (hpend hk hp) t ((hcur t).mp ht) ho hkeys
  · intro t ht hp p hpk
    by_cases hk : t.owner = n.key
    · rw [hdone (hk ▸ hp) t ((hcur t).mp ht) hk] at hpk
      cases hpk
    rcases h.covered t ((hcur t).mp ht) (hpend hk hp) p hpk with hl | ⟨g, hw⟩
    · exact .inl ((left_congr hlog).mpr hl)
    · refine .inr ⟨g, ?_⟩
      rw [hothers]
      · exact hw
      · rintro rfl
        rw [hjob] at hw
        exact not_willCall_idle hw

lemma Fresh.takeSlice (h : s.Fresh api) {sl : EndpointSlice} {rest : List EndpointSlice}
    (hjob : s.job .sliceHandler = .idle) : (s.takeSliceNote api sl rest).Fresh api := by
  rcases s.takeSliceNote_cases api sl rest with heq | ⟨svc, heq⟩ <;> rw [heq]
  · exact h.congr rfl rfl rfl rfl rfl
  have h' : ({ s with sliceNotes := rest } : WatchRace).Fresh api := h.congr rfl rfl rfl rfl rfl
  unfold begin
  split_ifs
  · refine h'.setJob (by decide) ?_ (fun hg => absurd hg (by decide))
      (fun _ _ hj => by cases hj) (fun _ ht => by cases ht)
      (fun _ _ _ _ hp => pending_of_setJob (by simp [hjob]) hp) ?_
    · rintro _ ⟨⟩
      exact ⟨svc, .inl rfl⟩
    · intro t ht hp p hpk
      rcases h'.covered t ht (pending_of_setJob (by simp [hjob]) hp) p hpk with hl | ⟨g, hw⟩
      · exact .inl hl
      · refine .inr ⟨g, willCall_of_ne ?_ hw⟩
        rw [hjob]
        exact not_willCall_idle
  · exact h'

variable {a : RaceStep}

lemma fresh_of_moves (h : s.Fresh api) (hm : s.Moves api static a s') (ha : a.ofHandlers = true)
    (hok : s.FreshAtLock a) : s'.Fresh api := by
  have hmatch := notesMatch_of_moves h.notes hm
  have hgor : ∀ {g : Goroutine}, decide (g ≠ .antiEntropy) = true → g ≠ .antiEntropy :=
    of_decide_eq_true
  cases hm with
  | setService svc =>
    exact h.write (n := .changed svc) rfl rfl rfl hmatch (fun _ hd => nomatch hd)
      fun k hk => ⟨AList.lookup_insert_ne hk, rfl⟩
  | @deleteService key old hold =>
    have hkey : old.key = key := s.service_key key old hold
    refine h.write (n := .deleted old) rfl rfl rfl hmatch ?_ fun k hk =>
      ⟨AList.lookup_erase_ne (hkey ▸ hk), AList.lookup_insert_ne (hkey ▸ hk)⟩
    rintro _ ⟨⟩
    exact hkey ▸ AList.lookup_insert _
  | setSlice | deleteSlice => exact h.congr rfl rfl rfl rfl rfl
  | takeService hjob hnotes => exact h.takeService hjob hnotes
  | takeSlice hjob => exact h.takeSlice hjob
  | acquire hjob hfree =>
    refine h.acquire (hgor ha) hjob hfree ?_
    rintro rfl
    exact hok _ (congrArg Job.task hjob)
  | read hjob => exact h.read (hgor ha) hjob
  | call hjob => exact h.call (hgor ha) hjob
  | release hjob => exact h.release (hgor ha) hjob
  | startPass | settleNext | repairNext | endPass | swap | relistView | deleteNext | applyStore
  | applyNext | endRelist => cases ha

lemma fresh_start : watchRaceStart.Fresh api where
  quiet := rfl
  notes _ hn := nomatch hn
  gone _ _ hn := nomatch hn
  handler _ _ ht := nomatch ht
  told _ ht := nomatch ht
  genuine _ _ _ hj := nomatch hj
  held _ _ ht := nomatch ht
  covered t ht := by
    cases t <;> simp [Current, watchRaceStart] at ht

lemma Fresh.followsStore (h : s.Fresh api) (hidle : s.HandlersIdle) : s.FollowsStore api := by
  obtain ⟨hservice, hslice, hnotes, -⟩ := hidle
  have hpend : ∀ k, ¬ s.Pending k := by
    rintro k (hn | ⟨t, ht, -⟩)
    · rw [hnotes] at hn
      exact hn rfl
    · rw [hservice] at ht
      cases ht
  have hleft : ∀ t, s.Current t → ∀ p ∈ t.keys api, s.Left t p := by
    intro t ht p hp
    refine (h.covered t ht (hpend _) p hp).resolve_right ?_
    rintro ⟨g, hw⟩
    cases g with
    | serviceHandler => exact not_willCall_idle (hservice ▸ hw)
    | sliceHandler => exact not_willCall_idle (hslice ▸ hw)
    | antiEntropy => exact not_willCall_idle (h.quiet ▸ hw)
  constructor
  · intro svc hsvc p hp
    obtain ⟨d, hd, eps, hcall⟩ := hleft (.reconcile svc) hsvc p hp
    exact ⟨d, eps, hd, hcall⟩
  · intro svc hnone hgone p hp
    exact hleft (.teardown svc) ⟨hnone, hgone⟩ p hp

end

end WatchRace

/-- Once both handlers are idle, the last delivery for each port of a stored Service is from the
stored object, if every slice handler that gets the stripe holds it, or the Service handler is still
to follow. -/
theorem last_delivery_from_store (api : Netv1) (static : StaticBackends) {s : WatchRace}
    (h : (watchRaceMachine api static).Reach
      (fun s a => a.ofHandlers = true ∧ s.FreshAtLock a) s)
    (hidle : s.HandlersIdle) : s.FollowsStore api := by
  refine WatchRace.Fresh.followsStore (h.invariant (I := WatchRace.Fresh api) ?_ ?_) hidle
  · rintro s rfl
    exact WatchRace.fresh_start
  · intro s a s' hs ha hstep
    exact WatchRace.fresh_of_moves hs (WatchRace.moves_of_step hstep) ha.1 ha.2

def serveOne (g : Goroutine) : List RaceStep := [.acquire g, .read g, .call g, .release g]

def webLocal : Service :=
  ⟨⟨"default", "web"⟩, web_named, "",
    { ServiceSpec.tcp "10.43.0.10" [80] with internalTrafficPolicy := some .localPolicy }⟩

/-- The slice handler has read the Service while its update waits to be handled. -/
def freshRun : List RaceStep :=
  [.setService (webService [80]), .takeService] ++ serveOne .serviceHandler ++
    [.setSlice (podSlice "web" "80"), .takeSlice, .setService webLocal] ++
    serveOne .sliceHandler ++ [.takeService] ++ serveOne .serviceHandler

theorem last_delivery_from_store_freshRun :
    ∃ s, (watchRaceMachine Netv1.standard ∅).run watchRaceStart freshRun = some s ∧
      s.HandlersIdle ∧ s.FollowsStore Netv1.standard := by
  exact Machine.exists_run_of (P := WatchRace.HandlersIdle) rfl (by decide) (by decide)
    fun s hreach hidle => ⟨hidle, last_delivery_from_store Netv1.standard ∅ hreach hidle⟩

/-- The slice handler reads the Service; before it gets the stripe the Service handler
delivers the update, or the deletion. -/
def overtakenRun (change : RaceStep) : List RaceStep :=
  [.setService (webService [80]), .takeService] ++ serveOne .serviceHandler ++
    [.setSlice (podSlice "web" "80"), .takeSlice, change, .takeService] ++
    serveOne .serviceHandler ++ serveOne .sliceHandler

/-- A slice handler that read the Service before its update, or its deletion, delivers after it. -/
theorem stale_service_lands :
    (∃ s, (watchRaceMachine Netv1.standard ∅).Reach (fun _ a => a.ofHandlers = true) s ∧
      (watchRaceMachine Netv1.standard ∅).run watchRaceStart
        (overtakenRun (.setService webLocal)) = some s ∧
      s.HandlersIdle ∧ ¬ s.FollowsStore Netv1.standard) ∧
    ∃ s, (watchRaceMachine Netv1.standard ∅).Reach (fun _ a => a.ofHandlers = true) s ∧
      (watchRaceMachine Netv1.standard ∅).run watchRaceStart
        (overtakenRun (.deleteService ⟨"default", "web"⟩)) = some s ∧
      s.HandlersIdle ∧ ¬ s.FollowsStore Netv1.standard := by
  constructor
  · refine Machine.Reach.exists_run_of (P := fun s => s.HandlersIdle ∧
      s.services.lookup webLocal.key = some webLocal ∧
      (s.lastFor webLocal.key ⟨"10.43.0.10", 80, .TCP⟩).map (·.call) = some (.install
        (webService [80]) ⟨"10.43.0.10", 80, .TCP⟩ [⟨"10.42.0.5", 8080, true⟩])) rfl
      (by decide) (by decide) ?_
    rintro s ⟨hidle, hstored, hlast⟩
    refine ⟨hidle, fun hfollows => ?_⟩
    obtain ⟨d, eps, hd, hcall⟩ := hfollows.1 webLocal hstored ⟨"10.43.0.10", 80, .TCP⟩ (by decide)
    rw [hd, Option.map_some, hcall] at hlast
    simp only [Option.some.injEq, PortCall.install.injEq] at hlast
    exact absurd hlast.1 (by decide)
  · refine Machine.Reach.exists_run_of (P := fun s => s.HandlersIdle ∧
      s.services.lookup (webService [80]).key = none ∧
      s.gone.lookup (webService [80]).key = some (webService [80]) ∧
      (s.lastFor (webService [80]).key ⟨"10.43.0.10", 80, .TCP⟩).map (·.call) = some (.install
        (webService [80]) ⟨"10.43.0.10", 80, .TCP⟩ [⟨"10.42.0.5", 8080, true⟩])) rfl
      (by decide) (by decide) ?_
    rintro s ⟨hidle, hstored, hgone, hlast⟩
    refine ⟨hidle, fun hfollows => ?_⟩
    obtain ⟨d, hd, hcall⟩ := hfollows.2 (webService [80]) hstored hgone
      ⟨"10.43.0.10", 80, .TCP⟩ (by decide)
    rw [hd, Option.map_some, hcall] at hlast
    cases hlast

end DarwinNet.Proxy
