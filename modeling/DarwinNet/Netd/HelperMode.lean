import DarwinNet.Netd.Covered
import DarwinNet.Podnet.Network

/-!
The pod network in helper mode: its alias manager is the root executor, so
`Ensure` is `EnsureAlias` and `Remove` is `RemoveAlias`.

The network releases an address when its ensure fails; the executor keeps the lo0
alias when only the utun alias fails, so such a `Setup` leaves an alias no pod holds
(`failedSetup_leaks_alias`). Where no utun alias command fails, every pod address on
lo0 is bound and a failed `Setup` leaves lo0 as it was (`failedSetup_no_leak`).
-/

namespace DarwinNet.Netd

open Lib Netip Podnet

/-! ## What a call does with its manager -/

section Cases

variable {σ : Type} (M : AliasManager σ) (base : BitVec 32) (n : Network) (k : σ) (podID : String)

inductive SetupCase (n' : Network) (k' : σ) (err : Option PodNetError) : Prop
  | refused (hn : n' = n) (hk : k' = k) (herr : err ≠ none)
  | again (e : PodEntry) (hpod : n.byPod.lookup podID = some e) (hn : n' = n)
      (hk : k' = (M.ensure k e.ip).1) (herr : err ≠ none → (M.ensure k e.ip).2 ≠ none)
  | rolledBack (ip : Addr) (hip : Usable base ip) (hn : SameBindings n n')
      (hk : k' = (M.ensure k ip).1) (hensure : (M.ensure k ip).2 ≠ none) (herr : err ≠ none)
  | bound (ip : Addr) (backend : Backend) (hip : Usable base ip)
      (hbyPod : n'.byPod = n.byPod.insert podID ⟨ip, backend⟩)
      (hinverse : n'.inverse = n.inverse.insert ip podID) (hk : k' = (M.ensure k ip).1)
      (hensure : (M.ensure k ip).2 = none) (herr : err = none)

inductive TeardownCase (n' : Network) (k' : σ) : Prop
  | nothing (hn : n' = n) (hk : k' = k)
  | kept (e : PodEntry) (hpod : n.byPod.lookup podID = some e) (hn : n' = n)
      (hk : k' = (M.remove k e.ip).1) (hremove : (M.remove k e.ip).2 ≠ none)
  | unbound (e : PodEntry) (hpod : n.byPod.lookup podID = some e)
      (hbyPod : n'.byPod = n.byPod.erase podID) (hinverse : n'.inverse = n.inverse.erase e.ip)
      (hk : k' = (M.remove k e.ip).1) (hremove : (M.remove k e.ip).2 = none)

variable {base n}

/-- The ways a `Setup` can end, with what it asks of the alias manager. -/
lemma setup_cases (h : n.alloc.Shaped base) (backend : Backend) :
    SetupCase M base n k podID (n.setup M k podID backend).1 (n.setup M k podID backend).2.1
      (errorOf (n.setup M k podID backend).2.2) := by
  unfold Network.setup
  split
  · exact .refused rfl rfl (by simp [errorOf])
  split
  · rename_i e hpod
    split
    · exact .refused rfl rfl (by simp [errorOf])
    · split
      · rename_i k' err hensure
        exact .again e hpod rfl (by rw [hensure]) fun _ => by simp [hensure]
      · rename_i k' hensure
        exact .again e hpod rfl (by rw [hensure]) (by simp [errorOf])
  · rcases h.allocate_spec with ⟨-, heq⟩ | ⟨ip, hip, hfree, heq⟩
    · simp only [heq]
      exact .refused rfl rfl (by simp [errorOf])
    · simp only [heq]
      split
      · rename_i k' err hensure
        rw [Network.release_insert hfree]
        exact .rolledBack ip hip ⟨rfl, rfl, rfl⟩ (by rw [hensure]) (by simp [hensure])
          (by simp [errorOf])
      · rename_i k' hensure
        exact .bound ip backend hip rfl rfl (by rw [hensure]) (by rw [hensure]) rfl

lemma teardown_cases :
    TeardownCase M n k podID (n.teardown M k podID).1 (n.teardown M k podID).2.1 := by
  unfold Network.teardown
  split
  · exact .nothing rfl rfl
  split
  · exact .nothing rfl rfl
  · rename_i e hpod
    split
    · rename_i k' err hremove
      exact .kept e hpod rfl (by rw [hremove]) (by simp [hremove])
    · rename_i k' hremove
      unfold Allocator.release
      by_cases hheld : e.ip ∈ n.alloc.allocated
      · simp only [hheld, not_true_eq_false, if_false]
        exact .unbound e hpod rfl rfl (by rw [hremove]) (by rw [hremove])
      · simp only [hheld, not_false_eq_true, if_true, Sentinel.errorf]
        exact .unbound e hpod rfl rfl (by rw [hremove]) (by rw [hremove])

end Cases

def applierManager (o : Outcomes) : AliasManager DarwinApplier where
  ensure a ip := a.ensureAlias o ip
  remove a ip := a.removeAlias o ip

structure HelperState where
  net : Network
  applier : DarwinApplier

inductive HelperLabel
  | setup (podID : String) (backend : Backend) (o : Outcomes)
  | teardown (podID : String) (o : Outcomes)
  | mesh (c : MeshChange)

def HelperState.setup (s : HelperState) (podID : String) (backend : Backend) (o : Outcomes) :
    HelperState × Option PodNetError :=
  let r := s.net.setup (applierManager o) s.applier podID backend
  (⟨r.1, r.2.1⟩, errorOf r.2.2)

def HelperState.teardown (s : HelperState) (podID : String) (o : Outcomes) : HelperState :=
  let r := s.net.teardown (applierManager o) s.applier podID
  ⟨r.1, r.2.1⟩

/-- A network and an executor of one /24, with no pod address on lo0. -/
def helperMachine : Machine HelperState HelperLabel where
  init s := (∃ a : BitVec 32, newNetwork (Prefix.v4 a 24) = .ok s.net) ∧
    s.applier.nodePodCIDR = s.net.alloc.cidr ∧ s.applier.aliased = ∅ ∧
    ∀ ip ∈ s.applier.kernel.lo0, isPodAddress s.net.alloc.cidr ip = false
  step s
    | .setup podID backend o => some (s.setup podID backend o).1
    | .teardown podID o => some (s.teardown podID o)
    | .mesh c => some { s with applier := applierPlumber.env s.applier c }

/-- No utun alias command of a `Setup` fails while the mesh is up. -/
def UTUNAliasOk (s : HelperState) : HelperLabel → Prop
  | .setup _ _ o => s.applier.meshUTUN ≠ none → o.utunAlias = none
  | _ => True

instance decidableUTUNAliasOk (s : HelperState) : ∀ a, Decidable (UTUNAliasOk s a)
  | .setup _ _ o => inferInstanceAs (Decidable (s.applier.meshUTUN ≠ none → o.utunAlias = none))
  | .teardown _ _ => isTrue trivial
  | .mesh _ => isTrue trivial

/-- Pod addresses on lo0 are bound, and bound addresses are tracked by the executor. -/
structure HelperState.Inv (s : HelperState) (base : BitVec 32) : Prop where
  consistent : s.net.Consistent base
  cidr : s.applier.nodePodCIDR = Prefix.v4 base 24
  bound : ∀ ip ∈ s.applier.kernel.lo0, isPodAddress (Prefix.v4 base 24) ip = true →
    s.net.inverse.lookup ip ≠ none
  tracked : ∀ ip, s.net.inverse.lookup ip ≠ none → s.applier.aliased.lookup ip ≠ none

lemma isPodAddress_of_usable {base : BitVec 32} {ip : Addr} (hb : IsBase base)
    (h : Usable base ip) : isPodAddress (Prefix.v4 base 24) ip = true := by
  obtain ⟨i, hi2, hi, rfl⟩ := h
  have hmask : (Prefix.v4 base 24).masked = Prefix.v4 base 24 := by
    rw [Prefix.masked_v4 (by omega), maskBits_of_isBase hb]
  have hin : (Prefix.v4 base 24).contains (host base i) = true :=
    (contains_iff_host hb).mpr ⟨i, by omega, rfl⟩
  have hlast : (as4 (host base i)).toNat % 256 = i := by
    rw [host, as4, toNat_host hb (by omega)]
    unfold IsBase at hb
    omega
  have hun : (host base i).unmap = host base i := rfl
  simp only [isPodAddress, hmask, hun, hin, hlast]
  simp [Prefix.v4, Prefix.isValid, Addr.is4, Prefix.bits, nodeCIDRBits, host, hi2, hi]

namespace HelperState

variable {s : HelperState} {base : BitVec 32} {podID : String} {o : Outcomes} {ip : Addr}
  {a : DarwinApplier}

lemma Inv.pod (h : s.Inv base) (hip : Usable base ip) :
    isPodAddress s.applier.nodePodCIDR ip = true := by
  rw [h.cidr]
  exact isPodAddress_of_usable h.consistent.shaped.isBase hip

lemma Inv.bound_of_lookup (h : s.Inv base) {e : PodEntry}
    (hpod : s.net.byPod.lookup podID = some e) :
    s.net.inverse.lookup e.ip = some podID ∧ Usable base e.ip := by
  have hinv : s.net.inverse.lookup e.ip = some podID :=
    (h.consistent.inverse podID e.ip).mp (by rw [hpod]; rfl)
  refine ⟨hinv, h.consistent.usable e.ip ?_⟩
  rw [h.consistent.allocated, hinv]
  rfl

lemma init_inv (h : helperMachine.init s) : ∃ base, s.Inv base := by
  obtain ⟨⟨a, hnet⟩, hcidr, -, hlo0⟩ := h
  have hcons := Network.consistent_new hnet
  have hempty : s.net.inverse = ∅ := by
    obtain ⟨alloc, heq, -, -⟩ := newAllocator_v4 a
    rw [newNetwork, heq] at hnet
    have hnet' := Except.ok.inj hnet
    rw [← hnet']
  refine ⟨_, hcons, hcidr.trans hcons.shaped.cidr, fun ip hip hpod => ?_, fun ip hip => ?_⟩
  · have hno := hlo0 ip hip
    rw [hcons.shaped.cidr, hpod] at hno
    cases hno
  · rw [hempty] at hip
    exact absurd rfl hip

lemma ensure_failed (hpod : isPodAddress a.nodePodCIDR ip = true)
    (hok : a.meshUTUN ≠ none → o.utunAlias = none) (herr : (a.ensureAlias o ip).2 ≠ none) :
    (a.ensureAlias o ip).1.kernel.lo0 = a.kernel.lo0 ∧
      (a.ensureAlias o ip).1.aliased = a.aliased := by
  cases DarwinApplier.ensureAlias_effect (o := o) hpod with
  | unchanged hal hlo0 _ _ => exact ⟨hlo0, hal⟩
  | cleared hal hlo0 _ _ _ _ => exact ⟨hlo0, hal⟩
  | aliased _ _ _ hlate =>
    obtain ⟨hup, hutun⟩ := hlate herr
    exact absurd (hok hup) hutun

lemma ensure_adds (hpod : isPodAddress a.nodePodCIDR ip = true) :
    (∀ x ∈ (a.ensureAlias o ip).1.kernel.lo0, x = ip ∨ x ∈ a.kernel.lo0) ∧
      (∀ x, a.aliased.lookup x ≠ none → (a.ensureAlias o ip).1.aliased.lookup x ≠ none) ∧
      ((a.ensureAlias o ip).2 = none → (a.ensureAlias o ip).1.aliased.lookup ip ≠ none) := by
  cases DarwinApplier.ensureAlias_effect (o := o) hpod with
  | unchanged hal hlo0 _ hlive =>
    rw [hal, hlo0]
    exact ⟨fun x hx => .inr hx, fun x hx => hx, fun herr => by simp [hlive herr]⟩
  | cleared hal hlo0 _ _ _ herr =>
    rw [hal, hlo0]
    exact ⟨fun x hx => .inr hx, fun x hx => hx, fun hnone => absurd hnone herr⟩
  | aliased hal hlo0 _ _ =>
    rw [hal, hlo0]
    refine ⟨fun x hx => Finset.mem_insert.mp hx, fun x hx => ?_, fun _ => by simp⟩
    rw [GoMap.lookup_insert_ite]
    split
    · simp
    · exact hx

lemma remove_keeps (hpod : isPodAddress a.nodePodCIDR ip = true) :
    (∀ x ∈ (a.removeAlias o ip).1.kernel.lo0, x ∈ a.kernel.lo0) ∧ ((a.removeAlias o ip).2 ≠ none →
        ∀ x, a.aliased.lookup x ≠ none → (a.removeAlias o ip).1.aliased.lookup x ≠ none) ∧
      ((a.removeAlias o ip).2 = none → a.aliased.lookup ip ≠ none →
        ip ∉ (a.removeAlias o ip).1.kernel.lo0 ∧
        ∀ x, x ≠ ip → (a.removeAlias o ip).1.aliased.lookup x = a.aliased.lookup x) := by
  cases DarwinApplier.removeAlias_effect (o := o) hpod with
  | unchanged hal hlo0 _ hnone =>
    rw [hal, hlo0]
    exact ⟨fun x hx => hx, fun _ x hx => hx, fun herr hne => absurd (hnone herr) hne⟩
  | pending hal hlo0 _ herr =>
    rw [hal]
    refine ⟨fun x hx => ?_, fun _ x hx => ?_, fun hnone => absurd hnone herr⟩
    · rcases hlo0 with h | h
      · exact h ▸ hx
      · exact Finset.mem_of_mem_erase (h ▸ hx)
    · rw [GoMap.lookup_insert_ite]
      split
      · simp
      · exact hx
  | blackholed hal hlo0 _ herr =>
    rw [hal, hlo0]
    refine ⟨fun x hx => Finset.mem_of_mem_erase hx, fun hne => absurd herr hne,
      fun _ _ => ⟨Finset.notMem_erase _ _, fun x hx => ?_⟩⟩
    rw [GoMap.lookup_erase_ite, if_neg hx]

lemma Inv.setup (h : s.Inv base) (podID : String) (backend : Backend)
    (hok : s.applier.meshUTUN ≠ none → o.utunAlias = none) :
    (s.setup podID backend o).1.Inv base ∧ ((s.setup podID backend o).2 ≠ none →
        (s.setup podID backend o).1.applier.kernel.lo0 = s.applier.kernel.lo0) := by
  have hcons : (s.setup podID backend o).1.net.Consistent base :=
    h.consistent.effect (Network.setup_effect h.consistent.shaped)
  have hcase := setup_cases (applierManager o) s.applier podID h.consistent.shaped backend
  simp only [HelperState.setup] at hcons ⊢
  revert hcons hcase
  generalize s.net.setup (applierManager o) s.applier podID backend = r
  obtain ⟨n', a', res⟩ := r
  intro hcons hcase
  simp only at hcons hcase ⊢
  cases hcase with
  | refused hn hk herr =>
    subst hn hk
    exact ⟨h, fun _ => rfl⟩
  | again e hpod hn hk herr =>
    subst hn hk
    obtain ⟨hbound, husable⟩ := h.bound_of_lookup hpod
    obtain ⟨hlo0, htracked, -⟩ := ensure_adds (o := o) (h.pod husable)
    refine ⟨⟨hcons, ?_, fun ip hip hisPod => ?_, fun ip hip => ?_⟩, fun hfail => ?_⟩
    · exact (DarwinApplier.ensureAlias_sameMesh _ _ _).nodePodCIDR.trans h.cidr
    · rcases hlo0 ip hip with rfl | hold
      · rw [hbound]
        simp
      · exact h.bound ip hold hisPod
    · exact htracked ip (h.tracked ip hip)
    · exact (ensure_failed (h.pod husable) hok (herr hfail)).1
  | rolledBack ip husable hn hk hensure herr =>
    subst hk
    obtain ⟨hlo0, hal⟩ := ensure_failed (h.pod husable) hok hensure
    refine ⟨⟨hcons, ?_, fun x hx hisPod => ?_, fun x hx => ?_⟩, fun _ => hlo0⟩
    · exact (DarwinApplier.ensureAlias_sameMesh _ _ _).nodePodCIDR.trans h.cidr
    · rw [hn.inverse]
      exact h.bound x (hlo0 ▸ hx) hisPod
    · rw [hn.inverse] at hx
      have hold := h.tracked x hx
      rw [← hal] at hold
      exact hold
  | bound ip backend husable hbyPod hinverse hk hensure herr =>
    subst hk
    obtain ⟨hlo0, htracked, hnew⟩ := ensure_adds (o := o) (h.pod husable)
    refine ⟨⟨hcons, ?_, fun x hx hisPod => ?_, fun x hx => ?_⟩, fun hfail => absurd herr hfail⟩
    · exact (DarwinApplier.ensureAlias_sameMesh _ _ _).nodePodCIDR.trans h.cidr
    · simp only [hinverse, GoMap.lookup_insert_ite]
      split
      · simp
      rename_i hne
      rcases hlo0 x hx with rfl | hold
      · exact absurd rfl hne
      · exact h.bound x hold hisPod
    · simp only [hinverse, GoMap.lookup_insert_ite] at hx
      split at hx
      · rename_i heq
        subst heq
        exact hnew hensure
      · exact htracked x (h.tracked x hx)

lemma Inv.teardown (h : s.Inv base) : (s.teardown podID o).Inv base := by
  have hcons : (s.teardown podID o).net.Consistent base :=
    h.consistent.effect (Network.teardown_effect h.consistent.shaped)
  have hcase := teardown_cases (n := s.net) (applierManager o) s.applier podID
  simp only [HelperState.teardown] at hcons ⊢
  revert hcons hcase
  generalize s.net.teardown (applierManager o) s.applier podID = r
  obtain ⟨n', a', res⟩ := r
  intro hcons hcase
  simp only at hcons hcase ⊢
  cases hcase with
  | nothing hn hk =>
    subst hn hk
    exact h
  | kept e hpod hn hk hremove =>
    subst hn hk
    obtain ⟨-, husable⟩ := h.bound_of_lookup hpod
    obtain ⟨hlo0, htracked, -⟩ := remove_keeps (o := o) (h.pod husable)
    refine ⟨hcons, ?_, fun x hx => h.bound x (hlo0 x hx), fun x hx => ?_⟩
    · exact (DarwinApplier.removeAlias_sameMesh _ _ _).nodePodCIDR.trans h.cidr
    · exact htracked hremove x (h.tracked x hx)
  | unbound e hpod hbyPod hinverse hk hremove =>
    subst hk
    obtain ⟨hbound, husable⟩ := h.bound_of_lookup hpod
    obtain ⟨hlo0, -, hgone⟩ := remove_keeps (o := o) (h.pod husable)
    obtain ⟨hnot, hother⟩ := hgone hremove (h.tracked e.ip (by simp [hbound]))
    refine ⟨hcons, ?_, fun x hx hisPod => ?_, fun x hx => ?_⟩
    · exact (DarwinApplier.removeAlias_sameMesh _ _ _).nodePodCIDR.trans h.cidr
    · have hne : x ≠ e.ip := by
        rintro rfl
        exact hnot hx
      simp only [hinverse, GoMap.lookup_erase_ite, if_neg hne]
      exact h.bound x (hlo0 x hx) hisPod
    · simp only [hinverse, GoMap.lookup_erase_ite] at hx
      split at hx
      · exact absurd rfl hx
      rename_i hne
      have hold := h.tracked x hx
      rw [← hother x hne] at hold
      exact hold

/-- Pod addresses on lo0 are bound in every run. -/
lemma inv_of_reach (h : helperMachine.Reach UTUNAliasOk s) : ∃ base, s.Inv base := by
  refine h.invariant (I := fun s => ∃ base, s.Inv base) (fun s hs => init_inv hs) ?_
  rintro s a t ⟨base, hs⟩ hok hst
  cases a with
  | setup podID backend o =>
    cases hst
    exact ⟨base, (hs.setup podID backend hok).1⟩
  | teardown podID o =>
    cases hst
    exact ⟨base, hs.teardown⟩
  | mesh c =>
    cases hst
    exact ⟨base, hs.consistent, hs.cidr, hs.bound, hs.tracked⟩

end HelperState

/-- Where no utun alias command fails, the pod addresses on lo0 are bound ones, and a failed `Setup`
leaves lo0 as it was. -/
theorem failedSetup_no_leak (s : HelperState) (h : helperMachine.Reach UTUNAliasOk s) :
    (∀ ip ∈ s.applier.kernel.lo0, isPodAddress s.net.alloc.cidr ip = true →
      ∃ podID e, s.net.byPod.lookup podID = some e ∧ e.ip = ip) ∧
    ∀ podID backend o, UTUNAliasOk s (.setup podID backend o) → (s.setup podID backend o).2 ≠ none →
      (s.setup podID backend o).1.applier.kernel.lo0 = s.applier.kernel.lo0 := by
  obtain ⟨base, hs⟩ := HelperState.inv_of_reach h
  refine ⟨fun ip hip hpod => ?_, fun podID backend o hok => (hs.setup podID backend hok).2⟩
  rw [hs.consistent.shaped.cidr] at hpod
  obtain ⟨podID, hbound⟩ := Option.ne_none_iff_exists'.mp (hs.bound ip hip hpod)
  obtain ⟨e, he, heq⟩ := Option.map_eq_some_iff.mp ((hs.consistent.inverse podID ip).mpr hbound)
  exact ⟨podID, e, he, heq⟩

/-! ## The failing utun alias -/

def emptyHelper : HelperState :=
  ⟨⟨⟨Prefix.v4 0x64400100#32 24, .v4 0x64400101#32, .v4 0x64400102#32, .v4 0x644001fe#32,
      .v4 0x64400102#32, ∅⟩, ∅, ∅⟩,
    ⟨Prefix.v4 0x64400100#32 24, some "utun4", true, ∅, none, ⟨∅, ∅, ∅⟩⟩⟩

lemma emptyHelper_init : helperMachine.init emptyHelper :=
  ⟨⟨0x64400100#32, rfl⟩, rfl, rfl, by simp [emptyHelper]⟩

/-- A `Setup` whose utun alias fails leaves its address on lo0, bound to no pod. -/
theorem failedSetup_leaks_alias : ∃ s, helperMachine.Reach Machine.always s ∧
    ∃ ip ∈ s.applier.kernel.lo0, isPodAddress s.net.alloc.cidr ip = true ∧
      ∀ podID, s.net.byPod.lookup podID = none := by
  let labels : List HelperLabel :=
    [.setup "web" .hostProcess { utunAlias := some "exit status 1" }]
  obtain ⟨s, hreach, hlo0, hpod, hnone⟩ : ∃ s, helperMachine.Reach Machine.always s ∧
      .v4 0x64400102#32 ∈ s.applier.kernel.lo0 ∧
      isPodAddress s.net.alloc.cidr (.v4 0x64400102#32) = true ∧ s.net.byPod.entries = [] :=
    Machine.Reach.exists_run labels emptyHelper_init (Machine.meets_always _ _) (by decide)
  have hempty : s.net.byPod = ∅ := AList.ext hnone
  refine ⟨s, hreach, .v4 0x64400102#32, hlo0, hpod, fun podID => ?_⟩
  rw [hempty]
  rfl

theorem failedSetup_no_leak_retry : ∃ s, helperMachine.Reach UTUNAliasOk s ∧
    .v4 0x64400103#32 ∈ s.applier.kernel.lo0 ∧
    ∃ podID e, s.net.byPod.lookup podID = some e ∧ e.ip = .v4 0x64400103#32 := by
  let labels : List HelperLabel :=
    [.setup "web" .hostProcess { lo0Alias := some "exit status 1" }, .setup "web" .hostProcess {}]
  obtain ⟨s, hreach, hlo0, hpod⟩ : ∃ s, helperMachine.Reach UTUNAliasOk s ∧
      .v4 0x64400103#32 ∈ s.applier.kernel.lo0 ∧
      isPodAddress s.net.alloc.cidr (.v4 0x64400103#32) = true :=
    Machine.Reach.exists_run labels emptyHelper_init (by decide) (by decide)
  exact ⟨s, hreach, hlo0, (failedSetup_no_leak s hreach).1 _ hlo0 hpod⟩

end DarwinNet.Netd
