import DarwinNet.Podnet.Alias
import DarwinNet.Podnet.Network

/-!
The pod network over the direct alias manager, on a host where lo0 aliases may also disappear
on their own (`podnet.go`, `reconcile.go`, `alias.go`).

The manager answers an `Ensure` from its own record. An alias lost on the host stays recorded as
live, so the retried `Setup` succeeds and leaves nothing on lo0 (`setup_after_loss`). Where no
alias on record is lost, every `Setup` and every reattach that succeeds leaves the address of its
pod aliased (`setup_leaves_alias`).
-/

namespace DarwinNet.Podnet

open Lib Netip

def lo0Manager (o : Outcomes) : AliasManager Lo0AliasManager where
  ensure m ip := m.ensure o ip
  remove m ip := m.remove o ip

structure HostState where
  net : Network
  aliases : Lo0AliasManager
  /-- The pod of the last step, if that was a `Setup` or a reattach that returned nil. -/
  returned : Option String

inductive HostLabel
  | setup (podID : String) (backend : Backend) (o : Outcomes)
  | reattach (podID : String) (ip : Addr) (backend : Backend) (o : Outcomes)
  | teardown (podID : String) (o : Outcomes)
  /-- The alias of the address disappears from lo0. -/
  | lose (ip : Addr)

namespace HostState

def step (s : HostState) : HostLabel → HostState
  | .setup podID backend o =>
    let r := s.net.setup (lo0Manager o) s.aliases podID backend
    ⟨r.1, r.2.1, if (errorOf r.2.2).isNone then some podID else none⟩
  | .reattach podID ip backend o =>
    let r := s.net.reattach (lo0Manager o) s.aliases podID ip backend
    ⟨r.1, r.2.1, if (errorOf r.2.2).isNone then some podID else none⟩
  | .teardown podID o =>
    let r := s.net.teardown (lo0Manager o) s.aliases podID
    ⟨r.1, r.2.1, none⟩
  | .lose ip =>
    { s with
      aliases := { s.aliases with
        kernel := { s.aliases.kernel with lo0 := s.aliases.kernel.lo0.erase ip } }
      returned := none }

end HostState

/-- A new network and its manager, on a host with any aliases and routes. -/
def hostMachine : Machine HostState HostLabel where
  init s := (∃ cidr, newNetwork cidr = .ok s.net) ∧
    s.aliases.nodeCIDR = s.net.alloc.cidr ∧ s.aliases.aliased = ∅ ∧ s.returned = none
  step s a := some (s.step a)

/-- The kernel loses no alias on record. -/
def KeepsRecorded (s : HostState) : HostLabel → Prop
  | .lose ip => s.aliases.aliased.lookup ip ≠ some .live
  | _ => True

instance decidableKeepsRecorded (s : HostState) : ∀ a, Decidable (KeepsRecorded s a)
  | .lose _ => inferInstanceAs (Decidable (_ ≠ _))
  | .setup .. => isTrue trivial
  | .reattach .. => isTrue trivial
  | .teardown .. => isTrue trivial

/-- An alias recorded as live is on lo0. -/
def Lo0AliasManager.Tracks (m : Lo0AliasManager) : Prop :=
  ∀ ip, m.aliased.lookup ip = some .live → ip ∈ m.kernel.lo0

namespace Lo0AliasManager

variable {m m' : Lo0AliasManager} {o : Outcomes} {ip : Addr}

lemma clearPod_lo0 (cidr : Prefix) (k : Kernel) (o : Outcomes) (ip : Addr) :
    (clearPod cidr k o ip).1.lo0 = k.lo0 := by
  unfold clearPod Kernel.clear
  split
  · split <;> rfl
  · rfl

lemma Tracks.ensure (h : m.Tracks) : (m.ensure o ip).1.Tracks := by
  unfold Lo0AliasManager.ensure
  split
  · exact h
  have hclear := clearPod_lo0 m.nodeCIDR m.kernel o ip
  split
  · rename_i k err hk
    rw [hk] at hclear
    intro ip' hip'
    rw [hclear]
    exact h ip' hip'
  · rename_i k hk
    rw [hk] at hclear
    split
    · rename_i k' err halias
      obtain ⟨-, rfl⟩ := Kernel.aliasLo0_failed halias
      intro ip' hip'
      rw [hclear]
      exact h ip' hip'
    · rename_i k' halias
      obtain ⟨-, rfl⟩ := Kernel.aliasLo0_done halias
      intro ip' hip'
      rw [Finset.mem_insert, hclear]
      by_cases heq : ip' = ip
      · exact .inl heq
      · rw [AList.lookup_insert_ne heq] at hip'
        exact .inr (h ip' hip')

lemma Tracks.ensured (h : m.Tracks) (herr : (m.ensure o ip).2 = none) :
    ip ∈ (m.ensure o ip).1.kernel.lo0 := by
  unfold Lo0AliasManager.ensure at herr ⊢
  split at herr
  · rename_i hlive
    rw [if_pos hlive]
    exact h ip hlive
  · rename_i hlive
    rw [if_neg hlive]
    split at herr
    · cases herr
    rename_i k hk
    split at herr
    · cases herr
    · rename_i k' halias
      obtain ⟨-, rfl⟩ := Kernel.aliasLo0_done halias
      exact Finset.mem_insert_self _ _

lemma Tracks.blackhole (h : ∀ ip', ip' ≠ ip → m.aliased.lookup ip' = some .live →
    ip' ∈ m.kernel.lo0) {tracked removed : Bool}
    (hskip : tracked = false → m.aliased.lookup ip ≠ some .live) :
    (m.blackhole o ip tracked removed).1.Tracks := by
  have herase : ∀ k : Kernel, k.lo0 = m.kernel.lo0 →
      Tracks { m with kernel := k, aliased := m.aliased.erase ip } := by
    intro k hk ip' hip'
    by_cases heq : ip' = ip
    · rw [heq, AList.lookup_erase] at hip'
      cases hip'
    · rw [AList.lookup_erase_ne heq] at hip'
      rw [hk]
      exact h ip' heq hip'
  unfold Lo0AliasManager.blackhole
  split
  · exact herase m.kernel rfl
  split
  · rename_i hnone
    intro ip' hip'
    by_cases heq : ip' = ip
    · simp only [Bool.and_eq_true, Bool.not_eq_true'] at hnone
      exact absurd (heq ▸ hip') (hskip hnone.1)
    · exact h ip' heq hip'
  · split
    · rename_i k err hinstall
      have hsame := Kernel.install_failed hinstall
      intro ip' hip'
      by_cases heq : ip' = ip
      · rw [heq, AList.lookup_insert] at hip'
        cases hip'
      · rw [AList.lookup_insert_ne heq] at hip'
        rw [hsame]
        exact h ip' heq hip'
    · rename_i k hinstall
      obtain ⟨-, rfl⟩ := Kernel.install_done hinstall
      exact herase _ rfl

lemma Tracks.remove (h : m.Tracks) : (m.remove o ip).1.Tracks := by
  unfold Lo0AliasManager.remove
  split
  · exact Tracks.blackhole (fun ip' _ => h ip') (by simp)
  · split
    · rename_i k err hunalias
      rcases Kernel.unaliasLo0_cases hunalias with ⟨-, rfl⟩ | ⟨herr, -⟩
      · exact h
      · cases herr
    · rename_i k hunalias
      rcases Kernel.unaliasLo0_cases hunalias with ⟨herr, -⟩ | ⟨-, rfl⟩
      · exact absurd rfl herr
      · refine Tracks.blackhole (fun ip' hne hip' => ?_) (by simp)
        exact Finset.mem_erase.mpr ⟨hne, h ip' hip'⟩
  · rename_i hnone
    split
    rename_i k err hunalias
    have hlive : m.aliased.lookup ip ≠ some .live := by simp [hnone]
    rcases Kernel.unaliasLo0_cases hunalias with ⟨-, rfl⟩ | ⟨-, rfl⟩
    · exact Tracks.blackhole (fun ip' _ => h ip') fun _ => hlive
    · refine Tracks.blackhole (fun ip' hne hip' => ?_) fun _ => hlive
      exact Finset.mem_erase.mpr ⟨hne, h ip' hip'⟩

end Lo0AliasManager

/-- What a `Setup` or a reattach does with its manager: nothing, or one `Ensure`; if the call
succeeds, a successful one of the pod's address. -/
inductive EnsureCase {σ : Type} (M : AliasManager σ) (k : σ) (podID : String) (n' : Network)
    (k' : σ) (err : Option PodNetError) : Prop
  | refused (hk : k' = k) (herr : err ≠ none)
  | ensured (ip : Addr) (hk : k' = (M.ensure k ip).1)
      (hok : err = none → (M.ensure k ip).2 = none ∧
        ∃ e, n'.byPod.lookup podID = some e ∧ e.ip = ip)

namespace Network

variable {σ : Type} {M : AliasManager σ} {n : Network} {k : σ} {podID : String} {ip : Addr}
  {backend : Backend}

lemma setup_ensures : EnsureCase M k podID (n.setup M k podID backend).1
    (n.setup M k podID backend).2.1 (errorOf (n.setup M k podID backend).2.2) := by
  unfold setup
  split
  · exact .refused rfl (by simp [errorOf])
  split
  · rename_i e hpod
    split
    · exact .refused rfl (by simp [errorOf])
    · split
      · rename_i k' err hensure
        exact .ensured e.ip (by rw [hensure]) fun h => by cases h
      · rename_i k' hensure
        exact .ensured e.ip (by rw [hensure]) fun _ => ⟨by rw [hensure], e, hpod, rfl⟩
  · split
    · exact .refused rfl (by simp [errorOf])
    · rename_i alloc ip halloc
      split
      · rename_i k' err hensure
        exact .ensured ip (by rw [hensure]) fun h => by cases h
      · rename_i k' hensure
        refine .ensured ip (by rw [hensure]) fun _ => ⟨by rw [hensure], ⟨ip, backend⟩, ?_, rfl⟩
        exact AList.lookup_insert _

lemma reattach_ensures : EnsureCase M k podID (n.reattach M k podID ip backend).1
    (n.reattach M k podID ip backend).2.1
    (errorOf (n.reattach M k podID ip backend).2.2) := by
  unfold reattach
  split
  · exact .refused rfl (by simp [errorOf])
  split
  · rename_i e hpod
    split
    · exact .refused rfl (by simp [errorOf])
    · split
      · exact .refused rfl (by simp [errorOf])
      · rename_i hip
        split
        · rename_i k' err hensure
          exact .ensured ip (by rw [hensure]) fun h => by cases h
        · rename_i k' hensure
          exact .ensured ip (by rw [hensure]) fun _ => ⟨by rw [hensure], e, hpod, not_not.mp hip⟩
  · split
    · exact .refused rfl (by simp [errorOf])
    · split
      · exact .refused rfl (by simp [errorOf])
      · exact .refused rfl (by simp [errorOf])
      · split
        · rename_i k' err hensure
          exact .ensured ip (by rw [hensure]) fun h => by cases h
        · rename_i k' hensure
          refine .ensured ip (by rw [hensure]) fun _ =>
            ⟨by rw [hensure], ⟨ip, backend⟩, ?_, rfl⟩
          exact AList.lookup_insert _

lemma teardown_removes (M : AliasManager σ) (n : Network) (k : σ) (podID : String) :
    (n.teardown M k podID).2.1 = k ∨ ∃ ip, (n.teardown M k podID).2.1 = (M.remove k ip).1 := by
  unfold teardown
  split
  · exact .inl rfl
  split
  · exact .inl rfl
  · rename_i e hpod
    refine .inr ⟨e.ip, ?_⟩
    split
    · rename_i k' err hremove
      rw [hremove]
    · rename_i k' hremove
      split
      · split <;> rw [hremove]
      · rw [hremove]

end Network

/-- The record is true, and the pod of the last success has its alias. -/
structure HostState.Plumbed (s : HostState) : Prop where
  tracks : s.aliases.Tracks
  returned : ∀ podID ∈ s.returned,
    ∃ e, s.net.byPod.lookup podID = some e ∧ e.ip ∈ s.aliases.kernel.lo0

namespace HostState

variable {s : HostState}

lemma Plumbed.ensure (h : s.Plumbed) {o : Outcomes} {podID : String} {n' : Network}
    {m' : Lo0AliasManager} {err : Option PodNetError}
    (hcase : EnsureCase (lo0Manager o) s.aliases podID n' m' err) :
    Plumbed ⟨n', m', if err.isNone then some podID else none⟩ := by
  cases hcase with
  | refused hk herr =>
    subst hk
    refine ⟨h.tracks, fun pod hpod => ?_⟩
    simp [herr] at hpod
  | ensured ip hk hok =>
    subst hk
    refine ⟨h.tracks.ensure, fun pod hpod => ?_⟩
    simp only [Option.isNone_iff_eq_none] at hpod
    split at hpod
    · rename_i herr
      cases hpod
      obtain ⟨hensure, e, he, rfl⟩ := hok herr
      exact ⟨e, he, h.tracks.ensured hensure⟩
    · cases hpod

/-- Every call leaves the pod it succeeded for with its alias. -/
lemma Plumbed.step {a : HostLabel} (h : s.Plumbed) (hkeeps : KeepsRecorded s a) :
    (s.step a).Plumbed := by
  cases a with
  | setup podID backend o => exact h.ensure Network.setup_ensures
  | reattach podID ip backend o => exact h.ensure Network.reattach_ensures
  | teardown podID o =>
    refine ⟨?_, by simp [HostState.step]⟩
    rcases Network.teardown_removes (lo0Manager o) s.net s.aliases podID with hk | ⟨ip, hk⟩
    · simp only [HostState.step, hk]
      exact h.tracks
    · simp only [HostState.step, hk]
      exact h.tracks.remove
  | lose ip =>
    refine ⟨fun ip' hip' => ?_, by simp [HostState.step]⟩
    -- the lost address is not on record, so every recorded one is another
    have hne : ip' ≠ ip := by
      rintro rfl
      exact hkeeps hip'
    exact Finset.mem_erase.mpr ⟨hne, h.tracks ip' hip'⟩

end HostState

/-- The pod of a `Setup` or reattach that has just succeeded has its address on lo0, where no alias
on record is lost. -/
theorem setup_leaves_alias (s : HostState) (h : hostMachine.Reach KeepsRecorded s)
    (podID : String) (hret : s.returned = some podID) :
    ∃ e, s.net.byPod.lookup podID = some e ∧ e.ip ∈ s.aliases.kernel.lo0 := by
  have hinv : s.Plumbed := by
    refine h.invariant (fun s hs => ?_) fun s a t hs ha ht => ?_
    · obtain ⟨-, -, hempty, hnone⟩ := hs
      refine ⟨fun ip hip => ?_, by simp [hnone]⟩
      rw [hempty] at hip
      simp at hip
    · cases ht
      exact hs.step ha
  exact hinv.returned podID hret

def emptyHost : HostState where
  net := ⟨⟨Prefix.v4 0x64400100#32 24, .v4 0x64400101#32, .v4 0x64400102#32, .v4 0x644001fe#32,
    .v4 0x64400102#32, ∅⟩, ∅, ∅⟩
  aliases := ⟨Prefix.v4 0x64400100#32 24, ∅, ⟨∅, ∅, ∅⟩⟩
  returned := none

lemma init_emptyHost : hostMachine.init emptyHost := 
  ⟨⟨Prefix.v4 0x64400100#32 24, rfl⟩, rfl, rfl, rfl⟩

theorem setup_leaves_alias_retried : ∃ s, hostMachine.Reach KeepsRecorded s ∧
    s.returned = some "web" ∧
    ∃ e, s.net.byPod.lookup "web" = some e ∧ e.ip ∈ s.aliases.kernel.lo0 := by
  let labels : List HostLabel :=
    [.lose (.v4 0x64400102#32), .setup "web" .hostProcess { lo0Alias := some "exit status 1" },
      .setup "web" .hostProcess {}]
  obtain ⟨s, hreach, hret⟩ : ∃ s, hostMachine.Reach KeepsRecorded s ∧ s.returned = some "web" :=
    Machine.Reach.exists_run labels init_emptyHost (by decide) (by decide)
  exact ⟨s, hreach, hret, setup_leaves_alias s hreach "web" hret⟩

/-- The kernel loses an alias on record, and a `Setup` of the pod succeeds without it. -/
theorem setup_after_loss : ∃ s, hostMachine.Reach Machine.always s ∧ s.returned = some "web" ∧
    (∃ e, s.net.byPod.lookup "web" = some e ∧ e.ip = .v4 0x64400102#32) ∧
    s.aliases.kernel.lo0 = ∅ := by
  let labels : List HostLabel :=
    [.setup "web" .hostProcess {}, .lose (.v4 0x64400102#32), .setup "web" .hostProcess {}]
  obtain ⟨s, hreach, hret, hpod, hlo0⟩ : ∃ s, hostMachine.Reach Machine.always s ∧
      s.returned = some "web" ∧
      (s.net.byPod.lookup "web").map PodEntry.ip = some (.v4 0x64400102#32) ∧
      s.aliases.kernel.lo0 = ∅ :=
    Machine.Reach.exists_run labels init_emptyHost (Machine.meets_always _ _) (by decide)
  exact ⟨s, hreach, hret, Option.map_eq_some_iff.mp hpod, hlo0⟩

end DarwinNet.Podnet
