import DarwinNet.Proxy.RepairRun

/-!
Why a port may be in the table: its Service is stored, or a repair installed it and the store has
not held it since, or its ports are going to be deleted. In the runs that meet the conditions
every installed port has such an excuse, step by step (`accountable_of_step`).
-/

namespace DarwinNet.Proxy

open Lib Netip Api

/-! ## Why a key may be installed -/

def Task.deletes (key : ObjectKey) : Task → Prop
  | .teardown svc | .relistDelete svc => svc.key = key
  | .reconcile _ | .repair _ _ => False

/-- The job is about to delete the port. -/
def Job.Deleting (j : Job) (key : ObjectKey) (p : PortKey) : Prop :=
  (∃ t, j = .locked t ∧ t.deletes key) ∨ ∃ t todo, j = .calling t todo ∧ .delete p ∈ todo

/-- The job is about to install a port of the Service. -/
def Job.Installing (j : Job) (key : ObjectKey) : Prop :=
  (∃ svc, j = .locked (.reconcile svc) ∧ svc.key = key) ∨
    ∃ t todo svc p eps, j = .calling t todo ∧ .install svc p eps ∈ todo ∧ t.owner = key

def EntropyPhase.toDelete : EntropyPhase → List Service
  | .swapped old => old
  | .deleting todo => todo
  | .idle | .pass .. | .applying _ => []

namespace WatchRace

/-- The ports of the Service are going to be deleted by a task that has no stripe yet. -/
def ToDelete (s : WatchRace) (key : ObjectKey) : Prop :=
  (lastNote s.notes key).any ServiceNote.isDeleted = true ∨
    (∃ g, (s.job g).waitsToDelete key = true) ∨ key ∈ s.entropy.toDelete.map (·.key)

/-- The ports of the Service may be in the table: it is stored, it was repaired and the store
has not held it since, or they are going to be deleted. -/
def Excused (s : WatchRace) (unseen : List ObjectKey) (key : ObjectKey) : Prop :=
  (s.services.lookup key).isSome = true ∨ key ∈ unseen ∨ s.ToDelete key

end WatchRace

/-- What carries the argument: every port in the table, and every one about to be installed,
has an excuse or is about to be deleted. -/
structure Accountable (api : Netv1) (ports : ObjectKey → List PortKey) (s : RepairRun) : Prop where
  notes : NotesMatch s.race.services s.race.notes
  objects : ∀ svc, s.race.Mentions svc → servedKeys api svc = ports svc.key
  apart : ∀ g g', g ≠ g' → ∀ t ∈ (s.race.job g).holding, ∀ t' ∈ (s.race.job g').holding,
    t.owner ≠ t'.owner
  calls : ∀ g t todo, s.race.job g = .calling t todo → ∀ svc p eps, .install svc p eps ∈ todo →
    svc.key = t.owner ∧ p ∈ ports t.owner
  holder : ∀ g key, (s.race.job g).Installing key → ports key ≠ [] → s.race.Excused s.unseen key
  table : ∀ p d, s.race.lastOn p = some d → ∀ svc eps, d.call = .install svc p eps →
    p ∈ ports svc.key ∧ (s.race.Excused s.unseen svc.key ∨ ∃ g, (s.race.job g).Deleting svc.key p)

section

variable {api : Netv1} {static : StaticBackends} {ports : ObjectKey → List PortKey}
  {s t : RepairRun} {w w' : WatchRace} {u u' : List ObjectKey} {j j' : Job} {key : ObjectKey}
  {p : PortKey} {a : RaceStep} {g : Goroutine}

lemma Job.Deleting.holding (h : j.Deleting key p) : j.holding ≠ none := by
  rcases h with ⟨t, rfl, -⟩ | ⟨t, todo, rfl, -⟩ <;> simp [Job.holding]

lemma Job.Installing.holding (h : j.Installing key) : ∃ t ∈ j.holding, t.owner = key := by
  rcases h with ⟨svc, rfl, hkey⟩ | ⟨t, todo, svc, p, eps, rfl, -, hkey⟩
  · exact ⟨_, rfl, hkey⟩
  · exact ⟨_, rfl, hkey⟩

lemma Task.owner_of_deletes {t : Task} (h : t.deletes key) : t.owner = key := by
  cases t with
  | teardown svc => exact h
  | relistDelete svc => exact h
  | reconcile | repair => exact h.elim

lemma Job.waitsToDelete_iff : j.waitsToDelete key = true ↔ ∃ t, j = .waiting t ∧ t.deletes key := by
  constructor
  · intro h
    cases j with
    | waiting t => cases t <;> simp_all [Job.waitsToDelete, Task.deletes]
    | idle | locked | calling => cases h
  · rintro ⟨t, rfl, h⟩
    cases t with
    | teardown svc => exact decide_eq_true h
    | relistDelete svc => exact decide_eq_true h
    | reconcile | repair => exact h.elim

lemma Accountable.frame (h : Accountable api ports s) (hlog : t.race.log = s.race.log)
    (hjobs : ∀ g, t.race.job g = s.race.job g ∨
      (s.race.job g).holding = none ∧ (t.race.job g).holding = none)
    (hnotes : NotesMatch t.race.services t.race.notes)
    (hobjects : ∀ svc, t.race.Mentions svc → servedKeys api svc = ports svc.key)
    (hexcused : ∀ key, ports key ≠ [] → s.race.Excused s.unseen key →
      t.race.Excused t.unseen key) : Accountable api ports t := by
  -- a goroutine with a stripe is where it was
  have hold : ∀ g, ∀ x ∈ (t.race.job g).holding, t.race.job g = s.race.job g := by
    intro g x hx
    refine (hjobs g).resolve_right fun hnone => ?_
    rw [hnone.2] at hx
    cases hx
  refine ⟨hnotes, hobjects, ?_, ?_, ?_, ?_⟩
  · intro g g' hne x hx x' hx'
    rw [hold g x hx] at hx
    rw [hold g' x' hx'] at hx'
    exact h.apart g g' hne x hx x' hx'
  · intro g x todo hjob
    have hsame := hold g x (by rw [hjob]; rfl)
    exact h.calls g x todo (hsame ▸ hjob)
  · intro g key hinst hports
    obtain ⟨x, hx, -⟩ := hinst.holding
    rw [hold g x hx] at hinst
    exact hexcused key hports (h.holder g key hinst hports)
  · intro p d hd svc eps hcall
    rw [WatchRace.lastOn, hlog] at hd
    obtain ⟨hp, hwhy⟩ := h.table p d hd svc eps hcall
    refine ⟨hp, hwhy.imp (hexcused _ (List.ne_nil_of_mem hp)) ?_⟩
    rintro ⟨g, hdel⟩
    refine ⟨g, ?_⟩
    rcases hjobs g with hsame | ⟨hnone, -⟩
    · rwa [hsame]
    · exact absurd hnone hdel.holding

lemma excused_unseen (hk : key ∈ u)
    (hu : ∀ k ∈ u, (w'.services.lookup k).isNone → k ∈ u') : w'.Excused u' key := by
  cases hstored : w'.services.lookup key with
  | some svc => exact .inl (by rw [hstored]; rfl)
  | none => exact .inr (.inl (hu key hk (by rw [hstored]; rfl)))

lemma RepairRun.unseen_next (s : RepairRun) (a : RaceStep) (w' : WatchRace) :
    ∀ k ∈ s.unseen, (w'.services.lookup k).isNone → k ∈ (s.next api static a w').unseen := by
  intro k hk hnone
  exact List.mem_filter.mpr ⟨List.mem_append_right _ hk, hnone⟩

lemma WatchRace.Excused.mono (h : w.Excused u key) (hservices : w'.services = w.services)
    (hnotes : w'.notes = w.notes)
    (hwaits : ∀ g, (w.job g).waitsToDelete key = true → (w'.job g).waitsToDelete key = true)
    (hphase : key ∈ w.entropy.toDelete.map (·.key) → w'.Excused u' key)
    (hu : ∀ k ∈ u, (w'.services.lookup k).isNone → k ∈ u') : w'.Excused u' key := by
  rcases h with h | h | h | ⟨g, h⟩ | h
  · exact .inl (hservices ▸ h)
  · exact excused_unseen h hu
  · exact .inr (.inr (.inl (hnotes ▸ h)))
  · exact .inr (.inr (.inr (.inl ⟨g, hwaits g h⟩)))
  · exact hphase h

lemma WatchRace.excused_of_phase (hentropy : w'.entropy = w.entropy)
    (h : key ∈ w.entropy.toDelete.map (·.key)) : w'.Excused u' key :=
  .inr (.inr (.inr (.inr (hentropy ▸ h))))

lemma WatchRace.not_toDelete {e : EntropyPhase} (he : w.entropy = e) (hnil : e.toDelete = []) :
    key ∉ w.entropy.toDelete.map (·.key) := by
  rw [he, hnil]
  exact List.not_mem_nil

/-! ## Steps without a stripe -/

lemma WatchRace.begin_waits {t : Task} (hidle : w.job g = .idle) (g' : Goroutine)
    (h : (w.job g').waitsToDelete key = true) :
    ((w.begin api g t).job g').waitsToDelete key = true := by
  by_cases hg : g' = g
  · subst hg
    rw [hidle] at h
    cases h
  · rwa [begin_job_ne hg]

lemma WatchRace.begin_holding {t : Task} (hidle : w.job g = .idle) (g' : Goroutine) :
    (w.begin api g t).job g' = w.job g' ∨
      (w.job g').holding = none ∧ ((w.begin api g t).job g').holding = none := by
  by_cases hg : g' = g
  · subst hg
    refine .inr ⟨by rw [hidle]; rfl, ?_⟩
    rcases begin_job api t hidle with ⟨hj, -⟩ | ⟨hj, -⟩ <;> rw [hj] <;> rfl
  · exact .inl (begin_job_ne hg)

lemma WatchRace.excused_begin {t : Task} {svc : Service} (hserved : servedKeys api svc ≠ [])
    (ht : t = .teardown svc ∨ t = .relistDelete svc) : (w.begin api g t).Excused u' svc.key := by
  obtain ⟨p, hp⟩ := List.exists_mem_of_ne_nil _ hserved
  have hvip : (serviceToVIP api svc).isSome = true := served_of_mem_servedKeys hp
  refine .inr (.inr (.inr (.inl ⟨g, ?_⟩)))
  rcases ht with rfl | rfl
  · rw [begin_job_self (t := .teardown svc) hvip]
    exact decide_eq_true rfl
  · rw [begin_job_self (t := .relistDelete svc) hvip]
    exact decide_eq_true rfl

namespace WatchRace

lemma Excused.setService {svc : Service} (h : w.Excused u key)
    (hu : ∀ k ∈ u, ((w.putService svc).services.lookup k).isNone → k ∈ u') :
    (w.putService svc).Excused u' key := by
  by_cases hkey : key = svc.key
  · refine .inl ?_
    rw [hkey, putService, AList.lookup_insert]
    rfl
  · have hne : (ServiceNote.changed svc).key ≠ key := Ne.symm hkey
    rcases h with h | h | h | h
    · refine .inl ?_
      rwa [putService, AList.lookup_insert_ne hkey]
    · exact excused_unseen h hu
    · refine .inr (.inr (.inl ?_))
      rwa [putService, lastNote_append, if_neg hne]
    · exact .inr (.inr (.inr h))

lemma Excused.deleteService {k : ObjectKey} {old : Service} (h : w.Excused u key)
    (hold : w.services.lookup k = some old)
    (hu : ∀ x ∈ u, ((w.dropService k old).services.lookup x).isNone → x ∈ u') :
    (w.dropService k old).Excused u' key := by
  have hk : (ServiceNote.deleted old).key = k := w.service_key k old hold
  by_cases hkey : key = k
  · refine .inr (.inr (.inl ?_))
    rw [hkey, dropService, lastNote_append, if_pos hk]
    rfl
  · rcases h with h | h | h | h
    · refine .inl ?_
      rwa [dropService, AList.lookup_erase_ne hkey]
    · exact excused_unseen h hu
    · refine .inr (.inr (.inl ?_))
      rwa [dropService, lastNote_append, if_neg (fun heq => hkey (heq.symm.trans hk))]
    · exact .inr (.inr (.inr h))

lemma Excused.takeService {n : ServiceNote} {rest : List ServiceNote} (h : w.Excused u key)
    (hjob : w.job .serviceHandler = .idle) (hnotes : w.notes = n :: rest)
    (hserved : n.key = key → servedKeys api n.service ≠ [])
    (hu : ∀ k ∈ u, ((w.takeNote api n rest).services.lookup k).isNone → k ∈ u') :
    (w.takeNote api n rest).Excused u' key := by
  obtain ⟨hservices, hnotes', -, hentropy, -⟩ := w.takeNote_frame api n rest
  rcases h with h | h | h | ⟨g, h⟩ | h
  · exact .inl (hservices ▸ h)
  · exact excused_unseen h hu
  · rw [hnotes, lastNote_cons] at h
    cases hlast : lastNote rest key with
    | some m =>
      refine .inr (.inr (.inl ?_))
      rw [hnotes', hlast]
      rwa [hlast] at h
    | none =>
      rw [hlast, Option.none_or] at h
      split_ifs at h with hkey
      · cases n with
        | changed svc => cases h
        | deleted svc =>
          rw [← show svc.key = key from hkey]
          exact excused_begin (w := { w with notes := rest }) (hserved hkey) (.inl rfl)
      · cases h
  · exact .inr (.inr (.inr (.inl ⟨g, begin_waits (w := { w with notes := rest }) hjob g h⟩)))
  · exact excused_of_phase hentropy h

lemma Excused.swap {fresh : FreshSet} (h : w.Excused u key) (hcan : w.CanSwap fresh)
    (hjob : w.job .antiEntropy = .idle) (hnil : w.entropy.toDelete = [])
    (hstored : ∀ svc ∈ storeList w.services, KeptBy fresh svc.key)
    (hnotes : ∀ n ∈ w.notes, n.isDeleted = true → KeptBy fresh n.key)
    (hu : ∀ k ∈ u, ((w.swapSet fresh).services.lookup k).isNone → k ∈ u') :
    (w.swapSet fresh).Excused u' key := by
  have hkept : KeptBy fresh key → (w.swapSet fresh).Excused u' key := by
    rintro (h | h)
    · exact .inl h
    · exact .inr (.inr (.inr (.inr h)))
  rcases h with h | h | h | ⟨g, h⟩ | h
  · obtain ⟨svc, hsvc⟩ := Option.isSome_iff_exists.mp h
    have hk := hstored svc (mem_storeList.mpr ⟨key, hsvc⟩)
    rw [w.service_key key svc hsvc] at hk
    exact hkept hk
  · exact excused_unseen h hu
  · obtain ⟨n, hn, hdel⟩ := (Option.any_eq_true _ _).mp h
    obtain ⟨hmem, hk⟩ := mem_of_lastNote hn
    exact hkept (hk ▸ hnotes n hmem hdel)
  · obtain ⟨t, ht, -⟩ := Job.waitsToDelete_iff.mp h
    exfalso
    cases g with
    | serviceHandler =>
      have hnone := hcan.1
      rw [ht] at hnone
      cases hnone
    | sliceHandler =>
      have hnone := hcan.2.1
      rw [ht] at hnone
      cases hnone
    | antiEntropy =>
      rw [hjob] at ht
      cases ht
  · exact absurd h (not_toDelete rfl hnil)

lemma excused_relistView {old : List Service} (he : w.entropy = .swapped old)
    (h : key ∈ w.entropy.toDelete.map (·.key)) :
    (w.setEntropy (.deleting (old.filter fun svc => (w.services.lookup svc.key).isNone))).Excused
      u' key := by
  rw [he] at h
  obtain ⟨svc, hmem, rfl⟩ := List.mem_map.mp h
  cases hstored : w.services.lookup svc.key with
  | some b =>
    refine .inl ?_
    rw [setEntropy, hstored]
    rfl
  | none =>
    refine .inr (.inr (.inr (.inr (List.mem_map.mpr ⟨svc, List.mem_filter.mpr ⟨hmem, ?_⟩, rfl⟩))))
    rw [hstored]
    rfl

lemma excused_deleteNext {svc : Service} {rest : List Service}
    (he : w.entropy = .deleting (svc :: rest)) (hserved : svc.key = key → servedKeys api svc ≠ [])
    (h : key ∈ w.entropy.toDelete.map (·.key)) :
    ((w.setEntropy (.deleting rest)).begin api g (.relistDelete svc)).Excused u' key := by
  rw [he] at h
  rcases List.mem_cons.mp h with h | h
  · subst h
    exact excused_begin (hserved rfl) (.inr rfl)
  · refine excused_of_phase (w := w.setEntropy (.deleting rest)) ?_ h
    exact (begin_frame api _ _ _).2.2.2.1

end WatchRace

/-! ## Steps under a stripe -/

lemma WatchRace.Excused.moveJob (h : w.Excused u key) (hservices : w'.services = w.services)
    (hnotes : w'.notes = w.notes) (hentropy : w'.entropy = w.entropy)
    (hjob : w'.job = Function.update w.job g j) (hg : (w.job g).waitsToDelete key = false)
    (hu : ∀ k ∈ u, (w'.services.lookup k).isNone → k ∈ u') : w'.Excused u' key := by
  refine h.mono hservices hnotes (fun g' hw => ?_) (excused_of_phase hentropy) hu
  have hne : g' ≠ g := by
    rintro rfl
    rw [hg] at hw
    cases hw
  rwa [hjob, Function.update_of_ne hne]

lemma Accountable.moveJob (h : Accountable api ports s)
    (hnotes : NotesMatch t.race.services t.race.notes)
    (hobjects : ∀ svc, t.race.Mentions svc → servedKeys api svc = ports svc.key)
    (hself : t.race.job g = j) (hne : ∀ g', g' ≠ g → t.race.job g' = s.race.job g')
    (hapart : ∀ x ∈ j.holding, ∀ g', g' ≠ g → ∀ y ∈ (s.race.job g').holding, x.owner ≠ y.owner)
    (hcalls : ∀ x todo, j = .calling x todo → ∀ svc p eps, .install svc p eps ∈ todo →
      svc.key = x.owner ∧ p ∈ ports x.owner)
    (hinst : ∀ key, j.Installing key → ports key ≠ [] → t.race.Excused t.unseen key)
    (hothers : ∀ g' key, g' ≠ g → (s.race.job g').Installing key →
      s.race.Excused s.unseen key → t.race.Excused t.unseen key)
    (htable : ∀ p d, t.race.lastOn p = some d → ∀ svc eps, d.call = .install svc p eps →
      p ∈ ports svc.key ∧
        (t.race.Excused t.unseen svc.key ∨ ∃ g, (t.race.job g).Deleting svc.key p)) :
    Accountable api ports t := by
  refine ⟨hnotes, hobjects, ?_, ?_, ?_, htable⟩
  · intro g₁ g₂ hdiff x hx y hy
    by_cases hg₁ : g₁ = g
    · subst hg₁
      rw [hself] at hx
      rw [hne g₂ (Ne.symm hdiff)] at hy
      exact hapart x hx g₂ (Ne.symm hdiff) y hy
    · rw [hne g₁ hg₁] at hx
      by_cases hg₂ : g₂ = g
      · subst hg₂
        rw [hself] at hy
        exact Ne.symm (hapart y hy g₁ hg₁ x hx)
      · rw [hne g₂ hg₂] at hy
        exact h.apart g₁ g₂ hdiff x hx y hy
  · intro g' x todo hcalling
    by_cases hg : g' = g
    · subst hg
      exact hcalls x todo (hself ▸ hcalling)
    · exact h.calls g' x todo (hne g' hg ▸ hcalling)
  · intro g' key hkey hports
    by_cases hg : g' = g
    · subst hg
      exact hinst key (hself ▸ hkey) hports
    · rw [hne g' hg] at hkey
      exact hothers g' key hg hkey (h.holder g' key hkey hports)

section

variable {x : Task} {c : PortCall} {todo : List PortCall}

lemma Accountable.underStripe (h : Accountable api ports s)
    (hold : (s.race.job g).holding = some x) (hj : j.holding = some x ∨ j.holding = none)
    (hservices : t.race.services = s.race.services) (hnotes : t.race.notes = s.race.notes)
    (hentropy : t.race.entropy = s.race.entropy)
    (hupdate : t.race.job = Function.update s.race.job g j)
    (hu : ∀ k ∈ s.unseen, (t.race.services.lookup k).isNone → k ∈ t.unseen)
    (hobjects : ∀ svc, t.race.Mentions svc → servedKeys api svc = ports svc.key)
    (hcalls : ∀ y todo, j = .calling y todo → ∀ svc p eps, .install svc p eps ∈ todo →
      svc.key = y.owner ∧ p ∈ ports y.owner)
    (hinst : ∀ key, j.Installing key → (s.race.job g).Installing key ∨ t.race.Excused t.unseen key)
    (hlast : ∀ p d, t.race.lastOn p = some d → ∀ svc eps, d.call = .install svc p eps →
      p ∈ ports svc.key ∧ (s.race.job g).Installing svc.key ∨
        s.race.lastOn p = some d ∧ (p ∈ ports svc.key →
          (s.race.job g).Deleting svc.key p → j.Deleting svc.key p)) : Accountable api ports t := by
  have hself : t.race.job g = j := by rw [hupdate, Function.update_self]
  have hne : ∀ g', g' ≠ g → t.race.job g' = s.race.job g' := by
    intro g' hg
    rw [hupdate, Function.update_of_ne hg]
  have hkeep : ∀ {key}, s.race.Excused s.unseen key → t.race.Excused t.unseen key := by
    intro key hexc
    refine hexc.moveJob hservices hnotes hentropy hupdate ?_ hu
    cases hjob : s.race.job g with
    | waiting y =>
      rw [hjob] at hold
      cases hold
    | idle | locked | calling => rfl
  refine h.moveJob (by rw [hservices, hnotes]; exact h.notes) hobjects hself hne ?_ hcalls ?_
    (fun _ _ _ _ => hkeep) ?_
  · intro y hy g' hg z hz
    rcases hj with hj | hj
    · rw [hj] at hy
      cases hy
      exact h.apart g g' (Ne.symm hg) x hold z hz
    · rw [hj] at hy
      cases hy
  · intro key hkey hports
    rcases hinst key hkey with hbefore | hexc
    · exact hkeep (h.holder g key hbefore hports)
    · exact hexc
  · intro p d hd svc eps hcall
    rcases hlast p d hd svc eps hcall with ⟨hp, hbefore⟩ | ⟨hd, hdeleting⟩
    · exact ⟨hp, .inl (hkeep (h.holder g _ hbefore (List.ne_nil_of_mem hp)))⟩
    obtain ⟨hp, hwhy⟩ := h.table p d hd svc eps hcall
    refine ⟨hp, hwhy.imp hkeep ?_⟩
    rintro ⟨g', hdel⟩
    by_cases hg : g' = g
    · subst hg
      exact ⟨g', hself ▸ hdeleting hp hdel⟩
    · exact ⟨g', hne g' hg ▸ hdel⟩

lemma Accountable.acquire (h : Accountable api ports s) (hjob : s.race.job g = .waiting x)
    (hfree : s.race.Free x.owner) (hheard : s.Heard api static (.acquire g))
    (ht : t = s.next api static (.acquire g) (s.race.setJob g (.locked x)))
    (hobjects : ∀ svc, t.race.Mentions svc → servedKeys api svc = ports svc.key) :
    Accountable api ports t := by
  have hu : ∀ k ∈ s.unseen, (t.race.services.lookup k).isNone → k ∈ t.unseen :=
    ht ▸ s.unseen_next _ _
  have hself : t.race.job g = .locked x := ht ▸ WatchRace.setJob_self _
  have hne : ∀ g', g' ≠ g → t.race.job g' = s.race.job g' :=
    fun g' hg => ht ▸ WatchRace.setJob_ne _ hg
  have hkeep : ∀ {key}, ¬ x.deletes key → s.race.Excused s.unseen key →
      t.race.Excused t.unseen key := by
    intro key hx hexc
    have hupdate : t.race.job = Function.update s.race.job g (.locked x) := by rw [ht]; rfl
    refine hexc.moveJob (ht ▸ rfl) (ht ▸ rfl) (ht ▸ rfl) hupdate ?_ hu
    rw [Bool.eq_false_iff, Ne, Job.waitsToDelete_iff]
    rintro ⟨y, hy, hdel⟩
    rw [hjob] at hy
    cases hy
    exact hx hdel
  refine h.moveJob (ht ▸ h.notes) hobjects hself hne ?_ ?_ ?_ ?_ ?_
  · rintro y hy g' hg z hz
    cases hy
    exact Ne.symm (hfree.owner_ne hz)
  · rintro y todo hcalling
    cases hcalling
  · rintro key (⟨svc, hlocked, rfl⟩ | ⟨_, _, _, _, _, hcalling, -⟩) -
    · cases hlocked
      refine hkeep id ?_
      rcases hheard svc (by rw [hjob]; rfl) with hp | hp | hp
      · exact .inl hp
      · exact .inr (.inr (.inl hp))
      · exact .inr (.inr (.inr (.inl ⟨_, hp⟩)))
    · cases hcalling
  · intro g' key hg hinst
    -- the stripe was free, so another holder works for another Service
    obtain ⟨y, hy, rfl⟩ := hinst.holding
    exact hkeep fun hdel => hfree.owner_ne hy (Task.owner_of_deletes hdel).symm
  · intro p d hd svc eps hcall
    rw [ht] at hd
    obtain ⟨hp, hwhy⟩ := h.table p d hd svc eps hcall
    refine ⟨hp, ?_⟩
    by_cases hx : x.deletes svc.key
    · exact .inr ⟨g, .inl ⟨x, hself, hx⟩⟩
    refine hwhy.imp (hkeep hx) ?_
    rintro ⟨g', hdel⟩
    have hg : g' ≠ g := by
      rintro rfl
      exact hdel.holding (by rw [hjob]; rfl)
    exact ⟨g', hne g' hg ▸ hdel⟩

lemma install_of_repair {v : ServiceView} {ds : List Divergence} {svc : Service}
    {eps : List Endpoint} (hc : .install svc p eps ∈ repairCalls api static key v ds) :
    v.svcs.lookup key = some svc ∧ p ∈ servedKeys api svc := by
  rcases List.mem_append.mp hc with hc | hc
  · cases hlive : v.svcs.lookup key with
    | none =>
      rw [hlive] at hc
      cases hc
    | some b =>
      rw [hlive] at hc
      obtain ⟨p', eps', heq, hp⟩ := mem_applyCalls hc
      cases heq
      exact ⟨rfl, hp⟩
  · obtain ⟨_, -, heq⟩ := List.mem_map.mp hc
    cases heq

lemma Accountable.taskCalls (h : Accountable api ports s) (hjob : s.race.job g = .locked x)
    {svc : Service} {eps : List Endpoint}
    (hc : .install svc p eps ∈ s.race.taskCalls api static x) :
    svc.key = x.owner ∧ p ∈ ports x.owner ∧
      (x = .reconcile svc ∨ x.owner ∈ s.race.repairsNow (.read g)) := by
  cases x with
  | reconcile b =>
    obtain ⟨p', eps', heq, hp⟩ := mem_applyCalls hc
    cases heq
    have hserved := h.objects svc (.inr (.inr (.inl ⟨g, _, by rw [hjob]; rfl, rfl⟩)))
    exact ⟨rfl, hserved ▸ hp, .inl rfl⟩
  | teardown b | relistDelete b =>
    obtain ⟨_, -, heq⟩ := mem_deleteCalls.mp hc
    cases heq
  | repair key ds =>
    simp only [WatchRace.taskCalls] at hc
    split at hc
    next l _ _ _ he =>
      split_ifs at hc with hskip
      · cases hc
      obtain ⟨hlive, hp⟩ := install_of_repair hc
      obtain ⟨hkey, hmem⟩ := ServiceView.svcs_key l hlive
      have hserved := h.objects svc
        (WatchRace.mentions_entropy he (List.mem_append_left _ hmem))
      refine ⟨hkey, by rwa [Task.owner, ← hkey, ← hserved], .inr ?_⟩
      simp [WatchRace.repairsNow, hjob, he, hskip, hlive, Task.owner]
    · cases hc

lemma Accountable.delete_mem (hapi : api.Lawful) (h : Accountable api ports s)
    (hjob : s.race.job g = .locked x) (hx : x.deletes key) (hp : p ∈ ports key) :
    .delete p ∈ s.race.taskCalls api static x := by
  cases x with
  | teardown svc | relistDelete svc =>
    have hkey : svc.key = key := hx
    have hserved := h.objects svc (.inr (.inr (.inl ⟨g, _, by rw [hjob]; rfl, rfl⟩)))
    refine mem_deleteCalls.mpr ⟨p, ?_, rfl⟩
    rwa [deletedKeys_eq api hapi, hserved, hkey]
  | reconcile | repair => exact hx.elim

lemma Accountable.read (hapi : api.Lawful) (h : Accountable api ports s)
    (hjob : s.race.job g = .locked x)
    (ht : t = s.next api static (.read g) (s.race.readTask api static g x))
    (hobjects : ∀ svc, t.race.Mentions svc → servedKeys api svc = ports svc.key) :
    Accountable api ports t := by
  have hupdate : t.race.job =
      Function.update s.race.job g (.calling x (s.race.taskCalls api static x)) := by rw [ht]; rfl
  refine h.underStripe (x := x) (by rw [hjob]; rfl) (.inl rfl) (ht ▸ rfl) (ht ▸ rfl)
    (ht ▸ rfl) hupdate (ht ▸ s.unseen_next _ _) hobjects ?_ ?_ ?_
  · rintro y todo hcalling svc p eps hc
    cases hcalling
    obtain ⟨hkey, hp, -⟩ := h.taskCalls hjob hc
    exact ⟨hkey, hp⟩
  · rintro key (⟨svc, hlocked, -⟩ | ⟨y, todo, svc, p, eps, hcalling, hc, rfl⟩)
    · cases hlocked
    cases hcalling
    obtain ⟨-, -, rfl | hrepair⟩ := h.taskCalls hjob hc
    · exact .inl (.inl ⟨svc, hjob, rfl⟩)
    · -- the repair of a Service that is not stored puts it among the unseen
      refine .inr (excused_unseen hrepair fun k hk hnone => ?_)
      rw [ht] at hnone ⊢
      exact List.mem_filter.mpr ⟨List.mem_append_left _ hk, hnone⟩
  · intro p d hd svc eps hcall
    rw [ht] at hd
    refine .inr ⟨hd, fun hp hdel => .inr ⟨x, _, rfl, ?_⟩⟩
    rcases hdel with ⟨y, hy, hdel⟩ | ⟨y, todo, hy, -⟩
    · rw [hjob] at hy
      cases hy
      exact h.delete_mem hapi hjob hdel hp
    · rw [hjob] at hy
      cases hy

lemma Accountable.call (h : Accountable api ports s) (hjob : s.race.job g = .calling x (c :: todo))
    (ht : t = s.next api static (.call g) (s.race.callPort g x c todo))
    (hobjects : ∀ svc, t.race.Mentions svc → servedKeys api svc = ports svc.key) :
    Accountable api ports t := by
  have hupdate : t.race.job = Function.update s.race.job g (.calling x todo) := by rw [ht]; rfl
  have hlog : t.race.log = s.race.log ++ [⟨x, c, s.race.seenBy x⟩] := by rw [ht]; rfl
  refine h.underStripe (x := x) (by rw [hjob]; rfl) (.inl rfl) (ht ▸ rfl) (ht ▸ rfl)
    (ht ▸ rfl) hupdate (ht ▸ s.unseen_next _ _) hobjects ?_ ?_ ?_
  · rintro y rest hcalling svc p eps hc
    cases hcalling
    exact h.calls g x _ hjob svc p eps (List.mem_cons_of_mem _ hc)
  · rintro key (⟨svc, hlocked, -⟩ | ⟨y, rest, svc, p, eps, hcalling, hc, rfl⟩)
    · cases hlocked
    · cases hcalling
      exact .inl (.inr ⟨x, _, svc, p, eps, hjob, List.mem_cons_of_mem _ hc, rfl⟩)
  · intro p d hd svc eps hcall
    rw [WatchRace.lastOn_append t.race _ hlog] at hd
    split_ifs at hd with hcp
    · cases hd
      have hcall : c = .install svc p eps := hcall
      have hmem : .install svc p eps ∈ c :: todo := hcall ▸ List.mem_cons_self
      obtain ⟨hkey, hp⟩ := h.calls g x _ hjob svc p eps hmem
      exact .inl ⟨hkey ▸ hp, .inr ⟨x, _, svc, p, eps, hjob, hmem, hkey.symm⟩⟩
    · refine .inr ⟨hd, fun _ hdel => .inr ⟨x, _, rfl, ?_⟩⟩
      rcases hdel with ⟨y, hy, -⟩ | ⟨y, rest, hy, hdel⟩
      · rw [hjob] at hy
        cases hy
      rw [hjob] at hy
      cases hy
      -- the call just made is for another key
      refine (List.mem_cons.mp hdel).resolve_left fun heq => hcp ?_
      rw [← heq]
      rfl

lemma Accountable.release (h : Accountable api ports s) (hjob : s.race.job g = .calling x [])
    (ht : t = s.next api static (.release g) (s.race.setJob g .idle))
    (hobjects : ∀ svc, t.race.Mentions svc → servedKeys api svc = ports svc.key) :
    Accountable api ports t := by
  have hupdate : t.race.job = Function.update s.race.job g .idle := by rw [ht]; rfl
  refine h.underStripe (x := x) (by rw [hjob]; rfl) (.inr rfl) (ht ▸ rfl) (ht ▸ rfl)
    (ht ▸ rfl) hupdate (ht ▸ s.unseen_next _ _) hobjects ?_ ?_ ?_
  · rintro y rest hcalling
    cases hcalling
  · rintro key (⟨svc, hlocked, -⟩ | ⟨y, rest, svc, p, eps, hcalling, -⟩)
    · cases hlocked
    · cases hcalling
  · intro p d hd svc eps hcall
    rw [ht] at hd
    refine .inr ⟨hd, fun _ hdel => ?_⟩
    rcases hdel with ⟨y, hy, -⟩ | ⟨y, rest, hy, hdel⟩
    · rw [hjob] at hy
      cases hy
    · rw [hjob] at hy
      cases hy
      cases hdel

end

/-! ## A step keeps the account -/

lemma Accountable.next (h : Accountable api ports s) {e : EntropyPhase} {x : Task}
    (hjob : s.race.job .antiEntropy = .idle)
    (ht : t = s.next api static a ((s.race.setEntropy e).begin api .antiEntropy x))
    (hobjects : ∀ svc, t.race.Mentions svc → servedKeys api svc = ports svc.key)
    (hphase : ∀ key, ports key ≠ [] → key ∈ s.race.entropy.toDelete.map (·.key) →
      t.race.Excused t.unseen key) : Accountable api ports t := by
  obtain ⟨hservices, hnotes, hlog, -⟩ :=
    WatchRace.begin_frame api (s.race.setEntropy e) .antiEntropy x
  subst ht
  refine h.frame hlog (WatchRace.begin_holding (w := s.race.setEntropy e) hjob) ?_ hobjects ?_
  · simp only [RepairRun.next, hservices, hnotes]
    exact h.notes
  · intro key hports hexc
    exact hexc.mono hservices hnotes (WatchRace.begin_waits (w := s.race.setEntropy e) hjob)
      (hphase key hports) (s.unseen_next _ _)

lemma Accountable.phase (h : Accountable api ports s)
    (hservices : t.race.services = s.race.services) (hnotes : t.race.notes = s.race.notes)
    (hjob : t.race.job = s.race.job) (hlog : t.race.log = s.race.log)
    (hobjects : ∀ svc, t.race.Mentions svc → servedKeys api svc = ports svc.key)
    (hphase : ∀ key, key ∈ s.race.entropy.toDelete.map (·.key) → t.race.Excused t.unseen key)
    (hu : ∀ k ∈ s.unseen, (t.race.services.lookup k).isNone → k ∈ t.unseen) :
    Accountable api ports t := by
  refine h.frame hlog (fun g => .inl (by rw [hjob])) (by rw [hservices, hnotes]; exact h.notes)
    hobjects fun key _ hexc => ?_
  exact hexc.mono hservices hnotes (fun g hw => by rwa [hjob]) (hphase key) hu

lemma Accountable.swap {fresh : FreshSet} (h : Accountable api ports s)
    (hcan : s.race.CanSwap fresh) (hjob : s.race.job .antiEntropy = .idle)
    (hnil : s.race.entropy.toDelete = []) (hheard : s.Heard api static (.swap fresh))
    (ht : t = s.next api static (.swap fresh) (s.race.swapSet fresh))
    (hobjects : ∀ svc, t.race.Mentions svc → servedKeys api svc = ports svc.key) :
    Accountable api ports t := by
  subst ht
  refine h.frame rfl (fun _ => .inl rfl) hcan.2.2 hobjects fun key _ hexc => ?_
  exact hexc.swap hcan hjob hnil hheard.1 hheard.2 (s.unseen_next _ _)

/-- A step leaves no port without an excuse. -/
lemma accountable_of_step (hapi : api.Lawful) (h : Accountable api ports s)
    (hports : KeepsPorts api ports a) (hheard : s.Heard api static a)
    (hst : s.race.step api static a = some w') :
    Accountable api ports (s.next api static a w') := by
  have hobjects : ∀ svc, w'.Mentions svc → servedKeys api svc = ports svc.key := by
    intro svc hsvc
    rcases WatchRace.mentions_of_step hst hsvc with hold | hnew
    · exact h.objects svc hold
    · exact hports svc hnew
  have hmoves := WatchRace.moves_of_step hst
  have hmatch := WatchRace.notesMatch_of_moves h.notes hmoves
  have hu : ∀ k ∈ s.unseen, (w'.services.lookup k).isNone →
      k ∈ (s.next api static a w').unseen := s.unseen_next a w'
  cases hmoves with
  | setService svc =>
    exact h.frame rfl (fun _ => .inl rfl) hmatch hobjects fun key _ hexc => hexc.setService hu
  | deleteService hold =>
    exact h.frame rfl (fun _ => .inl rfl) hmatch hobjects fun key _ hexc =>
      hexc.deleteService hold hu
  | setSlice | deleteSlice =>
    exact h.phase rfl rfl rfl rfl hobjects (fun key => WatchRace.excused_of_phase rfl) hu
  | @takeService n rest hjob hnotes =>
    refine h.frame (s.race.takeNote_frame api n rest).2.2.1
      (WatchRace.begin_holding (w := { s.race with notes := rest }) hjob) hmatch hobjects ?_
    intro key hkey hexc
    refine hexc.takeService hjob hnotes (fun hn => ?_) hu
    have hmention : s.race.Mentions n.service := by
      refine .inr (.inl ?_)
      rw [hnotes]
      exact List.mem_cons_self
    have hn' : n.service.key = key := by cases n <;> exact hn
    rwa [h.objects _ hmention, hn']
  | @takeSlice sl rest hjob =>
    obtain ⟨hservices, hnotes, hlog, hentropy, -⟩ := s.race.takeSliceNote_frame api sl rest
    refine h.frame hlog (fun g => ?_) hmatch hobjects fun key _ hexc => ?_
    · rcases s.race.takeSliceNote_cases api sl rest with heq | ⟨svc, heq⟩
      · exact .inl (by simp only [RepairRun.next, heq])
      · simp only [RepairRun.next, heq]
        exact WatchRace.begin_holding (w := { s.race with sliceNotes := rest }) hjob g
    · refine hexc.mono hservices hnotes (fun g hw => ?_) (WatchRace.excused_of_phase hentropy) hu
      have hne : g ≠ .sliceHandler := by
        rintro rfl
        rw [hjob] at hw
        cases hw
      rwa [show (s.next api static .takeSlice (s.race.takeSliceNote api sl rest)).race.job g =
        s.race.job g from WatchRace.takeSliceNote_job_ne hne]
  | acquire hjob hfree => exact h.acquire hjob hfree hheard rfl hobjects
  | read hjob => exact h.read hapi hjob rfl hobjects
  | call hjob => exact h.call hjob rfl hobjects
  | release hjob => exact h.release hjob rfl hobjects
  | startPass hjob he | endPass hjob he | applyStore hjob he | endRelist hjob he =>
    exact h.phase rfl rfl rfl rfl hobjects
      (fun key hkey => absurd hkey (WatchRace.not_toDelete he rfl)) hu
  | settleNext hjob he | repairNext hjob he | applyNext hjob he =>
    exact h.next hjob rfl hobjects fun key _ hkey =>
      absurd hkey (WatchRace.not_toDelete he rfl)
  | swap hjob he hcan => exact h.swap hcan hjob (by rw [he]; rfl) hheard rfl hobjects
  | relistView hjob he =>
    obtain ⟨old, he', heq⟩ := WatchRace.relistView_eq hst
    rw [heq] at hobjects hu ⊢
    exact h.phase rfl rfl rfl rfl hobjects (fun key => WatchRace.excused_relistView he') hu
  | @deleteNext svc rest hjob he =>
    refine h.next hjob rfl hobjects fun key hkey => WatchRace.excused_deleteNext he fun hsvc => ?_
    have hmention : s.race.Mentions svc := WatchRace.mentions_entropy he List.mem_cons_self
    rwa [h.objects svc hmention, hsvc]

end

end DarwinNet.Proxy
