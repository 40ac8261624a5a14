import DarwinNet.Lib.Machine
import DarwinNet.Netd.Executor

/-!
The pod addresses the mesh device takes for allocated (`localPods`), and what `RemoveAlias`
remembers of a teardown that did not finish (`aliasBlackholePending`).

An address becomes pending whenever the blackhole install fails, also when that is because the
`-alias` before it failed and the alias is still there: the retry then takes the live address
out of the set (`allocated_misses_pod`) and can never finish (`pending_while_aliased`). If no
`-alias` of a live pod alias fails, the set covers the pods on lo0 (`allocated_covers_lo0`) and
a retried teardown finishes (`retried_teardown_finishes`).
-/

namespace DarwinNet.Netd

open Lib Netip Podnet
open Mesh (isNodeCIDR)

/-- `allocated`: in the set, or the set is not known. -/
def LocalPods.allocated (l : LocalPods) (ip : Addr) : Bool :=
  match l with
  | none => true
  | some set => ip ∈ set

inductive ExecLabel
  | ensureAlias (o : Outcomes) (ip : Addr)
  | removeAlias (o : Outcomes) (ip : Addr)
  | configureMesh (o : MeshOutcomes)
  | removeMesh (o : MeshOutcomes)
  | setNodePodCIDR (o : MeshOutcomes) (cidr : Prefix)

namespace DarwinApplier

def step (a : DarwinApplier) : ExecLabel → DarwinApplier
  | .ensureAlias o ip => (a.ensureAlias o ip).1
  | .removeAlias o ip => (a.removeAlias o ip).1
  | .configureMesh o => (a.configureMesh o).1
  | .removeMesh o => (a.removeMesh o).1
  | .setNodePodCIDR o cidr => (a.setNodePodCIDR o cidr).1

/-- An executor before its first call. -/
structure New (a : DarwinApplier) : Prop where
  dev : a.dev = none
  meshUp : a.meshUp = false
  aliased : a.aliased = ∅
  pods : a.pods = none

def machine : Machine DarwinApplier ExecLabel where
  init := New
  step := fun a l => some (a.step l)

/-! ## The set and the tracking after each call -/

variable (a : DarwinApplier)

lemma ensureUTUN_pods (o : Outcomes) (ip : Addr) : (a.ensureUTUN o ip).1.pods = a.pods := by
  unfold ensureUTUN
  split
  · rfl
  · split <;> rfl

lemma ensureAlias_pods (o : Outcomes) (ip : Addr) : (a.ensureAlias o ip).1.pods =
      if isPodAddress a.nodePodCIDR ip then a.pods.add ip else a.pods := by
  unfold ensureAlias
  by_cases hpod : isPodAddress a.nodePodCIDR ip = true
  · simp only [hpod, if_true]
    split
    · rfl
    · split
      · rfl
      · rw [ensureUTUN_pods]
  · simp only [hpod]
    split
    · rfl
    · split <;> rfl

lemma configureMesh_pods (o : MeshOutcomes) : (a.configureMesh o).1.pods = a.seedPods o := by
  have hup : ∀ b : DarwinApplier, (b.bringUp o).1.pods = b.pods := by
    intro b
    unfold bringUp
    split
    · rfl
    · split <;> rfl
  have hutun : ∀ b : DarwinApplier, (b.reconcileUTUNAliases o).1.pods = b.pods := by
    intro b
    unfold reconcileUTUNAliases
    split <;> rfl
  unfold configureMesh
  simp only
  split
  · rfl
  have hdev : (if a.dev.isNone then { a with pods := a.seedPods o, dev := some "" }
      else { a with pods := a.seedPods o }).pods = a.seedPods o := by
    split <;> rfl
  generalize (if a.dev.isNone then { a with pods := a.seedPods o, dev := some "" }
    else { a with pods := a.seedPods o }) = b at hdev ⊢
  have hb := hup b
  split
  · rename_i c err hbring
    rw [hbring] at hb
    exact hb.trans hdev
  · rename_i c hbring
    rw [hbring] at hb
    exact (hutun c).trans (hb.trans hdev)

lemma removeMesh_pods (o : MeshOutcomes) : (a.removeMesh o).1.pods = a.pods := by
  unfold removeMesh
  split
  · rfl
  · simp only
    split <;> rfl

lemma setNodePodCIDR_pods (o : MeshOutcomes) (cidr : Prefix) :
    ((a.setNodePodCIDR o cidr).1.nodePodCIDR = a.nodePodCIDR ∧
      (a.setNodePodCIDR o cidr).1.pods = a.pods ∧
      (a.setNodePodCIDR o cidr).1.aliased = a.aliased) ∨
    ((a.setNodePodCIDR o cidr).1.pods = none ∧ ∀ ip, (a.setNodePodCIDR o cidr).1.aliased.lookup ip =
        if isPodAddress a.nodePodCIDR ip then none else a.aliased.lookup ip) := by
  unfold setNodePodCIDR
  split
  · exact .inl ⟨rfl, rfl, rfl⟩
  split
  · exact .inl ⟨rfl, rfl, rfl⟩
  · simp only
    split
    · rename_i heq
      exact .inl ⟨heq.symm, rfl, rfl⟩
    · refine .inr ⟨rfl, ?_⟩
      intro ip
      rw [GoMap.lookup_eraseAll]
      by_cases hpod : isPodAddress a.nodePodCIDR ip = true
      · rw [if_pos hpod]
        split
        · rfl
        · rename_i hmem
          cases hlook : a.aliased.lookup ip with
          | none => rfl
          | some st =>
            refine absurd (List.mem_filter.mpr ⟨?_, hpod⟩) hmem
            exact (GoMap.mem_keys_iff).mpr (by simp [hlook])
      · rw [if_neg hpod, if_neg]
        intro hmem
        exact hpod (List.mem_filter.mp hmem).2

/-! ## Teardowns of pod addresses -/

/-- The blackhole step over the addresses `lo0`: it fails on a live alias. -/
inductive InstallEffect (o : Outcomes) (ip : Addr) (lo0 : Finset Addr)
    (al al' : GoMap Addr AliasState) (err : Option String) : Prop
  | failed (hal : al' = al.insert ip .blackholePending) (herr : err ≠ none)
      (hwhy : o.install ≠ none ∨ ip ∈ lo0)
  | done (hal : al' = al.erase ip) (herr : err = none) (hgone : ip ∉ lo0)

inductive Teardown (o : Outcomes) (ip : Addr) (a a' : DarwinApplier) (err : Option String) : Prop
  /-- Not tracked, and there was no alias to remove. -/
  | skipped (htracked : a.aliased.lookup ip = none) (hwhy : o.lo0Unalias ≠ none ∨ ip ∉ a.kernel.lo0)
      (hlo0 : a'.kernel.lo0 = a.kernel.lo0) (hpods : a'.pods = a.pods)
      (hal : a'.aliased = a.aliased) (herr : err = none)
  | unaliased (htracked : a.aliased.lookup ip ≠ some .blackholePending)
      (hlo0 : a'.kernel.lo0 = a.kernel.lo0.erase ip) (hpods : a'.pods = a.pods.remove ip)
      (hinstall : InstallEffect o ip a'.kernel.lo0 a.aliased a'.aliased err)
  /-- Tracked as live, and the `-alias` fails: the address stays in the set. -/
  | kept (htracked : a.aliased.lookup ip = some .live)
      (hwhy : o.lo0Unalias ≠ none ∨ ip ∉ a.kernel.lo0)
      (hlo0 : a'.kernel.lo0 = a.kernel.lo0) (hpods : a'.pods = a.pods)
      (hinstall : InstallEffect o ip a.kernel.lo0 a.aliased a'.aliased err)
  /-- Pending: no `-alias`, and the address leaves the set. -/
  | retried (htracked : a.aliased.lookup ip = some .blackholePending)
      (hlo0 : a'.kernel.lo0 = a.kernel.lo0) (hpods : a'.pods = a.pods.remove ip)
      (hinstall : InstallEffect o ip a.kernel.lo0 a.aliased a'.aliased err)

variable {a} {o : Outcomes} {ip : Addr}

lemma blackhole_install {al : GoMap Addr AliasState} {lo0 : Finset Addr} {pods : LocalPods}
    (hpod : isPodAddress a.nodePodCIDR ip = true) (hal : a.aliased = al) (hlo0 : a.kernel.lo0 = lo0)
    (hpods : a.pods = pods) (tracked : Option AliasState) (removed : Bool)
    (howed : tracked ≠ none ∨ removed = true) :
    (a.blackhole o ip tracked removed).1.kernel.lo0 = lo0 ∧
    (a.blackhole o ip tracked removed).1.pods =
      (if removed || tracked = some .blackholePending then pods.remove ip else pods) ∧
    InstallEffect o ip lo0 al (a.blackhole o ip tracked removed).1.aliased
      (a.blackhole o ip tracked removed).2 := by
  subst hal hlo0 hpods
  have hskip : (tracked.isNone && !removed) = false := by
    rcases howed with h | h
    · cases tracked with
      | none => exact absurd rfl h
      | some st => rfl
    · simp [h]
  unfold blackhole
  simp only [hpod, hskip, Bool.not_true, Bool.false_eq_true, if_false]
  generalize hb : (if removed || tracked = some .blackholePending then
    { a with pods := a.pods.remove ip } else a) = b
  have hframe : b.kernel = a.kernel ∧ b.aliased = a.aliased ∧ b.pods =
      if removed || tracked = some .blackholePending then a.pods.remove ip else a.pods := by
    rw [← hb]
    split <;> exact ⟨rfl, rfl, rfl⟩
  obtain ⟨hk, hal, hpods⟩ := hframe
  rw [← hpods, ← hk, ← hal]
  unfold Kernel.install
  split
  · rename_i k err h
    split at h
    · rename_i e he
      cases h
      exact ⟨rfl, rfl, .failed rfl (by simp) (.inl (by simp [he]))⟩
    · split at h
      · rename_i hin
        cases h
        exact ⟨rfl, rfl, .failed rfl (by simp) (.inr hin)⟩
      · cases h
  · rename_i k h
    split at h
    · cases h
    split at h
    · cases h
    · rename_i hout
      cases h
      exact ⟨rfl, rfl, .done rfl rfl hout⟩

lemma unaliasLo0_why {k k' : Kernel} {err : Option String} (h : k.unaliasLo0 o ip = (k', err))
    (herr : err ≠ none) : o.lo0Unalias ≠ none ∨ ip ∉ k.lo0 := by
  unfold Kernel.unaliasLo0 at h
  split at h
  · rename_i e he
    exact .inl (by simp [he])
  split at h
  · cases h
    exact absurd rfl herr
  · rename_i hout
    exact .inr hout

lemma removeUTUN_pods (o : Outcomes) (ip : Addr) : (a.removeUTUN o ip).pods = a.pods := by
  unfold removeUTUN
  split
  · split <;> rfl
  · rfl

lemma removeAlias_teardown (hpod : isPodAddress a.nodePodCIDR ip = true) :
    Teardown o ip a (a.removeAlias o ip).1 (a.removeAlias o ip).2 := by
  obtain ⟨hal, hcidr, hlo0, -⟩ := removeUTUN_frame a o ip
  have hpods : (a.removeUTUN o ip).pods = a.pods := removeUTUN_pods o ip
  unfold removeAlias
  generalize a.removeUTUN o ip = b at hal hcidr hlo0 hpods ⊢
  have hpod' : isPodAddress b.nodePodCIDR ip = true := by
    rw [hcidr]
    exact hpod
  have hlook : b.aliased.lookup ip = a.aliased.lookup ip := by rw [hal]
  unfold removeLo0
  rw [hlook]
  split
  rename_i b' removed hremove
  split at hremove
  · rename_i hpend
    cases hremove
    obtain ⟨h1, h2, h3⟩ := blackhole_install (o := o) hpod' hal hlo0 hpods
      (a.aliased.lookup ip) false (.inl (by simp [hpend]))
    exact .retried hpend h1 (h2.trans (by simp [hpend])) h3
  · rename_i hpend
    split at hremove
    rename_i k err hunalias
    cases hremove
    rcases Kernel.unaliasLo0_cases hunalias with ⟨herr, rfl⟩ | ⟨rfl, rfl⟩
    · have hwhy : o.lo0Unalias ≠ none ∨ ip ∉ a.kernel.lo0 := hlo0 ▸ unaliasLo0_why hunalias herr
      have hnone : err.isNone = false := by
        cases err with
        | none => exact absurd rfl herr
        | some e => rfl
      rw [hnone]
      cases htracked : a.aliased.lookup ip with
      | none =>
        rw [blackhole_skip hpod']
        exact .skipped htracked hwhy hlo0 hpods hal rfl
      | some st =>
        obtain ⟨h1, h2, h3⟩ := blackhole_install (o := o) hpod' hal hlo0 hpods
          (some st) false (.inl (by simp))
        cases st with
        | blackholePending => exact absurd htracked hpend
        | live => exact .kept htracked hwhy h1 (h2.trans (by simp)) h3
    · have herased : b.kernel.lo0.erase ip = a.kernel.lo0.erase ip := by rw [hlo0]
      obtain ⟨h1, h2, h3⟩ := blackhole_install (o := o)
        (a := { b with kernel := { b.kernel with lo0 := b.kernel.lo0.erase ip } })
        hpod' hal herased hpods (a.aliased.lookup ip) true (.inr rfl)
      exact .unaliased hpend h1 h2 (h1.symm ▸ h3)

lemma removeAlias_other (hpod : isPodAddress a.nodePodCIDR ip = false) :
    (a.removeAlias o ip).1.pods = a.pods ∧ (a.removeAlias o ip).1.aliased = a.aliased.erase ip := by
  have hutun : a.removeUTUN o ip = a := by simp [removeUTUN, hpod]
  unfold removeAlias removeLo0
  rw [hutun]
  split
  rename_i b removed hremove
  split at hremove
  · cases hremove
    simp [blackhole, hpod]
  · split at hremove
    cases hremove
    simp [blackhole, hpod]

/-- A `-alias` of a pod address that is tracked as live, and on lo0, does not fail. -/
def UnaliasOk (a : DarwinApplier) : ExecLabel → Prop
  | .removeAlias o ip => isPodAddress a.nodePodCIDR ip = true → a.aliased.lookup ip = some .live →
      ip ∈ a.kernel.lo0 → o.lo0Unalias = none
  | _ => True

instance decidableUnaliasOk (a : DarwinApplier) (l : ExecLabel) : Decidable (UnaliasOk a l) := by
  unfold UnaliasOk
  split <;> infer_instance

/-- Pending teardowns have no alias, and a pod alias is in the allocated set. -/
structure Covering (a : DarwinApplier) : Prop where
  pending : ∀ ip, a.aliased.lookup ip = some .blackholePending →
    isPodAddress a.nodePodCIDR ip = true ∧ ip ∉ a.kernel.lo0
  pods : ∀ set, a.pods = some set → ∀ ip, isPodAddress a.nodePodCIDR ip = true →
    ip ∈ a.kernel.lo0 → ip ∈ set

namespace Covering

variable {a' : DarwinApplier}

lemma samePods (hs : Covering a) (h : SamePods a a')
    (hpods : ∀ set, a'.pods = some set → ∀ ip, isPodAddress a.nodePodCIDR ip = true →
      ip ∈ a.kernel.lo0 → ip ∈ set) : Covering a' := by
  constructor
  · intro ip hip
    rw [h.aliased] at hip
    obtain ⟨hpod, hout⟩ := hs.pending ip hip
    rw [h.nodePodCIDR, h.lo0 _ ip hpod]
    exact ⟨hpod, hout⟩
  · intro set hset ip hpod hin
    rw [h.nodePodCIDR] at hpod
    exact hpods set hset ip hpod ((h.lo0 _ ip hpod).mp hin)

lemma ensureAlias (hs : Covering a) (o : Outcomes) (ip : Addr) :
    Covering (a.ensureAlias o ip).1 := by
  have hmesh := a.ensureAlias_sameMesh o ip
  have hpods := a.ensureAlias_pods o ip
  obtain ⟨hplumbs, hfails⟩ := a.ensureAlias_spec o ip
  constructor
  · intro x hx
    rw [hmesh.nodePodCIDR]
    cases hp : a.plumbs o ip with
    | false =>
      obtain ⟨hlo0, hal, -⟩ := hfails hp
      rw [hal] at hx
      rw [hlo0]
      exact hs.pending x hx
    | true =>
      obtain ⟨hlo0, hal, -⟩ := hplumbs hp
      rw [hal, GoMap.lookup_insert_ite] at hx
      split at hx
      · cases hx
      rename_i hne
      obtain ⟨hpod, hout⟩ := hs.pending x hx
      rw [hlo0]
      exact ⟨hpod, by simp [hne, hout]⟩
  · intro set hset x hpod hin
    rw [hmesh.nodePodCIDR] at hpod
    have hold : x = ip ∨ x ∈ a.kernel.lo0 := by
      cases hp : a.plumbs o ip with
      | false => exact .inr ((hfails hp).1 ▸ hin)
      | true =>
        rw [(hplumbs hp).1] at hin
        exact Finset.mem_insert.mp hin
    rw [hpods] at hset
    split at hset
    · obtain ⟨old, hold', rfl⟩ := Option.map_eq_some_iff.mp hset
      rcases hold with rfl | hold
      · exact Finset.mem_insert_self _ _
      · exact Finset.mem_insert_of_mem (hs.pods old hold' x hpod hold)
    · rename_i hnot
      rcases hold with rfl | hold
      · exact absurd hpod hnot
      · exact hs.pods set hset x hpod hold

lemma remove (hs : Covering a) {ip : Addr} (hcidr : a'.nodePodCIDR = a.nodePodCIDR)
    (hpod : isPodAddress a.nodePodCIDR ip = true) (hlo0 : a'.kernel.lo0 ⊆ a.kernel.lo0)
    (hgone : ip ∉ a'.kernel.lo0) (hpods : a'.pods = a.pods ∨ a'.pods = a.pods.remove ip)
    (hal : ∀ x, x ≠ ip → a'.aliased.lookup x = a.aliased.lookup x) : Covering a' := by
  constructor
  · intro x hx
    rw [hcidr]
    by_cases heq : x = ip
    · rw [heq]
      exact ⟨hpod, hgone⟩
    · rw [hal x heq] at hx
      obtain ⟨hpod', hout⟩ := hs.pending x hx
      exact ⟨hpod', fun hin => hout (hlo0 hin)⟩
  · intro set hset x hpod' hin
    rw [hcidr] at hpod'
    rcases hpods with h | h
    · exact hs.pods set (h ▸ hset) x hpod' (hlo0 hin)
    rw [h] at hset
    obtain ⟨old, hold, rfl⟩ := Option.map_eq_some_iff.mp hset
    refine Finset.mem_erase.mpr ⟨?_, hs.pods old hold x hpod' (hlo0 hin)⟩
    rintro rfl
    exact hgone hin

lemma removeAlias (hs : Covering a) {o : Outcomes} {ip : Addr}
    (hok : UnaliasOk a (.removeAlias o ip)) : Covering (a.removeAlias o ip).1 := by
  have hcidr := (a.removeAlias_sameMesh o ip).nodePodCIDR
  obtain ⟨hlo0, hal⟩ := a.removeAlias_frame o ip
  by_cases hpod : isPodAddress a.nodePodCIDR ip = true
  · -- a failed `-alias` of a live alias is excluded, so the address is off lo0 or untouched
    cases a.removeAlias_teardown (o := o) hpod with
    | skipped htracked hwhy hlo0' hpods' hal' herr =>
      constructor
      · intro x hx
        rw [hal'] at hx
        rw [hcidr, hlo0']
        exact hs.pending x hx
      · intro set hset x hpod' hin
        rw [hpods'] at hset
        rw [hcidr] at hpod'
        exact hs.pods set hset x hpod' (hlo0 hin)
    | unaliased htracked hlo0' hpods' hinstall =>
      refine hs.remove hcidr hpod hlo0 ?_ (.inr hpods') hal
      rw [hlo0']
      exact Finset.notMem_erase _ _
    | kept htracked hwhy hlo0' hpods' hinstall =>
      refine hs.remove hcidr hpod hlo0 ?_ (.inl hpods') hal
      rw [hlo0']
      rcases hwhy with hfail | hout
      · exact fun hin => hfail (hok hpod htracked hin)
      · exact hout
    | retried htracked hlo0' hpods' hinstall =>
      refine hs.remove hcidr hpod hlo0 ?_ (.inr hpods') hal
      rw [hlo0']
      exact (hs.pending ip htracked).2
  · obtain ⟨hpods', hal'⟩ := a.removeAlias_other (o := o) (Bool.eq_false_iff.mpr hpod)
    constructor
    · intro x hx
      rw [hal', GoMap.lookup_erase_ite] at hx
      split_ifs at hx
      obtain ⟨hpod', hout⟩ := hs.pending x hx
      rw [hcidr]
      exact ⟨hpod', fun hin => hout (hlo0 hin)⟩
    · intro set hset x hpod' hin
      rw [hpods'] at hset
      rw [hcidr] at hpod'
      exact hs.pods set hset x hpod' (hlo0 hin)

lemma configureMesh (hs : Covering a) (o : MeshOutcomes) : Covering (a.configureMesh o).1 := by
  refine hs.samePods (a.configureMesh_samePods o) ?_
  rw [a.configureMesh_pods o]
  intro set hset ip hpod hin
  unfold seedPods at hset
  split at hset
  · cases hset
  · cases hset
    exact Finset.mem_union_left _ (Finset.mem_filter.mpr ⟨hin, hpod⟩)

lemma removeMesh (hs : Covering a) (o : MeshOutcomes) : Covering (a.removeMesh o).1 := by
  refine hs.samePods (a.removeMesh_samePods o) ?_
  rw [a.removeMesh_pods o]
  exact hs.pods

lemma setNodePodCIDR (hs : Covering a) (o : MeshOutcomes) (cidr : Prefix) :
    Covering (a.setNodePodCIDR o cidr).1 := by
  obtain ⟨hfail, hdone⟩ := a.setNodePodCIDR_spec o cidr
  cases herr : (a.setNodePodCIDR o cidr).2 with
  | some err =>
    rw [hfail (by simp [herr])]
    exact hs
  | none =>
    obtain ⟨-, -, hlo0⟩ := hdone herr
    rcases a.setNodePodCIDR_pods o cidr with ⟨hcidr, hpods, hal⟩ | ⟨hpods, hal⟩
    · refine hs.samePods ⟨hcidr, hal, hlo0⟩ ?_
      rw [hpods]
      exact hs.pods
    · constructor
      · intro x hx
        rw [hal x] at hx
        split_ifs at hx with hnot
        exact absurd (hs.pending x hx).1 hnot
      · intro set hset
        cases hpods.symm.trans hset

lemma init (h : New a) : Covering a := by
  constructor
  · intro ip hip
    rw [h.aliased] at hip
    cases hip
  · intro set hset
    cases h.pods.symm.trans hset

lemma step {l : ExecLabel} (hs : Covering a) (hok : UnaliasOk a l) : Covering (a.step l) := by
  cases l with
  | ensureAlias o ip => exact hs.ensureAlias o ip
  | removeAlias o ip => exact hs.removeAlias hok
  | configureMesh o => exact hs.configureMesh o
  | removeMesh o => exact hs.removeMesh o
  | setNodePodCIDR o cidr => exact hs.setNodePodCIDR o cidr

/-- The allocated set covers lo0 in every run. -/
lemma reach (h : machine.Reach UnaliasOk a) : Covering a := by
  refine h.invariant (fun _ ha => .init ha) ?_
  intro s l t hs hok hst
  cases hst
  exact hs.step hok

end Covering

/-- A pod address on lo0 is in the set the mesh device takes for allocated, if no `-alias` of a live
pod alias fails. -/
theorem allocated_covers_lo0 (h : machine.Reach UnaliasOk a) {ip : Addr}
    (hpod : isPodAddress a.nodePodCIDR ip = true) (hin : ip ∈ a.kernel.lo0) :
    (∀ set, a.pods = some set → ip ∈ set) ∧ a.pods.allocated ip = true := by
  have hs := Covering.reach h
  refine ⟨fun set hset => hs.pods set hset ip hpod hin, ?_⟩
  unfold LocalPods.allocated
  split
  · rfl
  · rename_i set hset
    simpa using hs.pods set hset ip hpod hin

/-- A pending teardown has its alias off lo0, and a retry whose commands succeed finishes, if no
`-alias` of a live pod alias fails. -/
theorem retried_teardown_finishes (h : machine.Reach UnaliasOk a) (ip : Addr) :
    (a.aliased.lookup ip = some .blackholePending → ip ∉ a.kernel.lo0) ∧
    ∀ o : Outcomes, isPodAddress a.nodePodCIDR ip = true → o.lo0Unalias = none → o.install = none →
      (a.removeAlias o ip).2 = none ∧ ip ∉ (a.removeAlias o ip).1.kernel.lo0 := by
  have hs := Covering.reach h
  refine ⟨fun hpend => (hs.pending ip hpend).2, ?_⟩
  intro o hpod hunalias hinstall
  have hdone : ∀ {lo0 al al' err}, InstallEffect o ip lo0 al al' err → ip ∉ lo0 → err = none := by
    intro lo0 al al' err heff hout
    cases heff with
    | failed hal herr hwhy =>
      rcases hwhy with hwhy | hwhy
      · exact absurd hinstall hwhy
      · exact absurd hwhy hout
    | done hal herr hgone => exact herr
  cases a.removeAlias_teardown (o := o) hpod with
  | skipped htracked hwhy hlo0 hpods hal herr =>
    refine ⟨herr, ?_⟩
    rw [hlo0]
    exact hwhy.resolve_left fun hne => hne hunalias
  | unaliased htracked hlo0 hpods heff =>
    have hout : ip ∉ (a.removeAlias o ip).1.kernel.lo0 := by
      rw [hlo0]
      exact Finset.notMem_erase _ _
    exact ⟨hdone heff hout, hout⟩
  | kept htracked hwhy hlo0 hpods heff =>
    have hout := hwhy.resolve_left fun hne => hne hunalias
    rw [hlo0]
    exact ⟨hdone heff hout, hout⟩
  | retried htracked hlo0 hpods heff =>
    have hout := (hs.pending ip htracked).2
    rw [hlo0]
    exact ⟨hdone heff hout, hout⟩

/-! ## A `-alias` that fails once -/

lemma removeAlias_wedged (hpod : isPodAddress a.nodePodCIDR ip = true)
    (hpend : a.aliased.lookup ip = some .blackholePending) (hin : ip ∈ a.kernel.lo0)
    (o : Outcomes) : (a.removeAlias o ip).2 ≠ none ∧ ip ∈ (a.removeAlias o ip).1.kernel.lo0 := by
  cases a.removeAlias_teardown (o := o) hpod with
  | skipped htracked hwhy hlo0 hpods hal herr => cases hpend.symm.trans htracked
  | unaliased htracked hlo0 hpods heff => exact absurd hpend htracked
  | kept htracked hwhy hlo0 hpods heff => cases hpend.symm.trans htracked
  | retried htracked hlo0 hpods heff =>
    rw [hlo0]
    refine ⟨?_, hin⟩
    cases heff with
    | failed hal herr hwhy => exact herr
    | done hal herr hgone => exact absurd hin hgone

def podIP : Addr := .v4 0x0a2a0005

def labApplier : DarwinApplier := ⟨Prefix.v4 0x0a2a0000 24, none, false, ∅, none, ⟨∅, ∅, ∅⟩⟩

lemma new_labApplier : New labApplier := ⟨rfl, rfl, rfl, rfl⟩

def failedSteps : List ExecLabel :=
  [.configureMesh {}, .ensureAlias {} podIP,
    .removeAlias { lo0Unalias := some "ifconfig: interrupted" } podIP]

/-- After a failed `-alias` the next removal takes the address out of the set; lo0 keeps it. -/
theorem allocated_misses_pod : ∃ a, machine.Reach Machine.always a ∧
    isPodAddress a.nodePodCIDR podIP = true ∧ podIP ∈ a.kernel.lo0 ∧
      a.pods.allocated podIP = false :=
  Machine.Reach.exists_run (failedSteps ++ [.removeAlias {} podIP]) new_labApplier
    (Machine.meets_always _ _) (by decide +kernel)

/-- A failed `-alias` leaves a pending teardown that no retry finishes. -/
theorem pending_while_aliased : ∃ a, machine.Reach Machine.always a ∧
    a.aliased.lookup podIP = some .blackholePending ∧ podIP ∈ a.kernel.lo0 ∧
      ∀ o, (a.removeAlias o podIP).2 ≠ none ∧ podIP ∈ (a.removeAlias o podIP).1.kernel.lo0 := by
  obtain ⟨a, hreach, hpod, hpend, hin⟩ : ∃ a, machine.Reach Machine.always a ∧
      isPodAddress a.nodePodCIDR podIP = true ∧
      a.aliased.lookup podIP = some .blackholePending ∧ podIP ∈ a.kernel.lo0 :=
    Machine.Reach.exists_run failedSteps new_labApplier (Machine.meets_always _ _)
      (by decide +kernel)
  exact ⟨a, hreach, hpend, hin, removeAlias_wedged hpod hpend hin⟩

def returnedSteps : List ExecLabel :=
  [.configureMesh {}, .ensureAlias {} podIP,
    .removeAlias { install := some "write: no buffer space" } podIP, .ensureAlias {} podIP]

theorem allocated_covers_lo0_returned : ∃ a, machine.Reach UnaliasOk a ∧
    a.pods.isSome = true ∧ podIP ∈ a.kernel.lo0 ∧ a.pods.allocated podIP = true := by
  obtain ⟨a, hreach, hpod, hknown, hin⟩ : ∃ a, machine.Reach UnaliasOk a ∧
      isPodAddress a.nodePodCIDR podIP = true ∧ a.pods.isSome = true ∧ podIP ∈ a.kernel.lo0 :=
    Machine.Reach.exists_run returnedSteps new_labApplier (by decide +kernel) (by decide +kernel)
  exact ⟨a, hreach, hknown, hin, (allocated_covers_lo0 hreach hpod hin).2⟩

theorem retried_teardown_finishes_pending : ∃ a, machine.Reach UnaliasOk a ∧
    a.aliased.lookup podIP = some .blackholePending ∧ (a.removeAlias {} podIP).2 = none := by
  obtain ⟨a, hreach, hpod, hpend⟩ : ∃ a, machine.Reach UnaliasOk a ∧
      isPodAddress a.nodePodCIDR podIP = true ∧
      a.aliased.lookup podIP = some .blackholePending :=
    Machine.Reach.exists_run (returnedSteps.take 3) new_labApplier (by decide +kernel)
      (by decide +kernel)
  exact ⟨a, hreach, hpend, ((retried_teardown_finishes hreach podIP).2 {} hpod rfl rfl).1⟩

end DarwinApplier

end DarwinNet.Netd
