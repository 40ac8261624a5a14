import DarwinNet.Lib.GoMap
import DarwinNet.Lib.Machine
import DarwinNet.Netip.Text
import DarwinNet.Podnet.Allocator

/-!
The pod network of a node (`podnet.go`, `reconcile.go`, `guest.go`): the pool, the
pod-to-address map and its inverse, and an alias manager behind them.

The alias manager is any state machine that may fail at any call. Every operation
holds the network's lock to its end, so a run is a sequence of whole calls.

Every call leaves the bindings as they were, adds one or removes one
(`Network.Change`); `podIpam_consistent` collects what follows in every run.
-/

namespace DarwinNet.Podnet

open Lib Netip

inductive Backend
  | hostProcess
  | vm
  deriving DecidableEq, Repr

def Backend.string : Backend → String
  | .hostProcess => "host-process"
  | .vm => "vm"

/-- `aliasManager`: state passing, with the text of the error if the call fails. -/
structure AliasManager (σ : Type) where
  ensure : σ → Addr → σ × Option String
  remove : σ → Addr → σ × Option String

structure PodEntry where
  ip : Addr
  backend : Backend
  deriving DecidableEq, Repr

structure Network where
  alloc : Allocator
  byPod : GoMap String PodEntry
  inverse : GoMap Addr String

def newNetwork (nodeCIDR : Prefix) : Except PodNetError Network :=
  match newAllocator nodeCIDR with
  | .error err => .error (err.wrap "new pod network")
  | .ok alloc => .ok ⟨alloc, ∅, ∅⟩

namespace Network

variable {σ : Type} (M : AliasManager σ) (n : Network) (k : σ)

def bind (podID : String) (e : PodEntry) : Network :=
  { n with byPod := n.byPod.insert podID e, inverse := n.inverse.insert e.ip podID }

def setup (podID : String) (backend : Backend) : Network × σ × Except PodNetError Addr :=
  if podID = "" then (n, k, .error Sentinel.emptyPodID.error)
  else match n.byPod.lookup podID with
    | some e =>
      if e.backend ≠ backend then
        (n, k, .error (Sentinel.backendMismatch.errorf ("pod " ++ podID ++ " set up as " ++
          e.backend.string ++ ", requested " ++ backend.string)))
      else match M.ensure k e.ip with
        | (k', some err) =>
          (n, k', .error ⟨"re-ensure lo0 alias " ++ e.ip.string ++ " for pod " ++ podID ++ ": " ++
            err, none⟩)
        | (k', none) => (n, k', .ok e.ip)
    | none =>
      match n.alloc.allocate with
      | (alloc, .error err) =>
        ({ n with alloc := alloc }, k, .error (err.wrap ("allocate pod ip for " ++ podID)))
      | (alloc, .ok ip) =>
        match M.ensure k ip with
        | (k', some err) =>
          ({ n with alloc := (alloc.release ip).1 }, k',
            .error ⟨"ensure lo0 alias " ++ ip.string ++ " for pod " ++ podID ++ ": " ++ err, none⟩)
        | (k', none) => ({ n with alloc := alloc }.bind podID ⟨ip, backend⟩, k', .ok ip)

/-- `Teardown`. The address stays allocated while its alias cannot be removed. -/
def teardown (podID : String) : Network × σ × Except PodNetError Unit :=
  if podID = "" then (n, k, .error Sentinel.emptyPodID.error)
  else match n.byPod.lookup podID with
    | none => (n, k, .ok ())
    | some e =>
      match M.remove k e.ip with
      | (k', some err) =>
        (n, k', .error ⟨"remove lo0 alias " ++ e.ip.string ++ " for pod " ++ podID ++ ": " ++ err,
          none⟩)
      | (k', none) =>
        match n.alloc.release e.ip with
        | (alloc, .error err) =>
          if err.is = some .notAllocated then
            (⟨alloc, n.byPod.erase podID, n.inverse.erase e.ip⟩, k', .ok ())
          else
            ({ n with alloc := alloc }, k',
              .error (err.wrap ("release pod ip " ++ e.ip.string ++ " for " ++ podID)))
        | (alloc, .ok ()) => (⟨alloc, n.byPod.erase podID, n.inverse.erase e.ip⟩, k', .ok ())

def reattach (podID : String) (ip : Addr) (backend : Backend) :
    Network × σ × Except PodNetError Unit :=
  if podID = "" then (n, k, .error Sentinel.emptyPodID.error)
  else match n.byPod.lookup podID with
    | some e =>
      if backend = .vm ∧ e.backend ≠ .vm then
        (n, k, .error (Sentinel.backendMismatch.errorf ("pod " ++ podID ++ " is provisioned as " ++
          e.backend.string ++ ", not " ++ backend.string)))
      else if e.ip ≠ ip then
        (n, k, .error ⟨"reattach pod " ++ podID ++ ": already bound to " ++ e.ip.string ++
          ", refusing rebind to " ++ ip.string, none⟩)
      else match M.ensure k ip with
        | (k', some err) =>
          (n, k', .error ⟨"re-ensure lo0 alias " ++ ip.string ++ " for pod " ++ podID ++ ": " ++
            err, none⟩)
        | (k', none) => (n, k', .ok ())
    | none =>
      match n.inverse.lookup ip with
      | some owner =>
        (n, k, .error ((Sentinel.ipInUse.errorf (ip.string ++ " is bound to pod " ++ owner)).wrap
          ("reattach pod " ++ podID)))
      | none =>
        match n.alloc.allocateSpecific ip with
        | (alloc, .error err) =>
          ({ n with alloc := alloc }, k,
            .error (err.wrap ("reattach pod " ++ podID ++ ": reserve " ++ ip.string)))
        | (alloc, .ok true) =>
          ({ n with alloc := alloc }, k,
            .error ((Sentinel.ipInUse.errorf (ip.string ++ " is held but unbound")).wrap
              ("reattach pod " ++ podID)))
        | (alloc, .ok false) =>
          match M.ensure k ip with
          | (k', some err) =>
            ({ n with alloc := (alloc.release ip).1 }, k',
              .error ⟨"ensure lo0 alias " ++ ip.string ++ " for pod " ++ podID ++ ": " ++ err,
                none⟩)
          | (k', none) => ({ n with alloc := alloc }.bind podID ⟨ip, backend⟩, k', .ok ())

/-- The loop of `SweepStale`; `errs` are the removals that failed. -/
def sweepLoop (keep : List Addr) : σ → List String → List Addr → σ × List String
  | k, errs, [] => (k, errs)
  | k, errs, ip :: ips =>
    if ip ∈ keep then sweepLoop keep k errs ips
    else match M.remove k ip with
      | (k', some err) =>
        sweepLoop keep k' (errs ++ ["sweep stale lo0 alias " ++ ip.string ++ ": " ++ err]) ips
      | (k', none) => sweepLoop keep k' errs ips

def keep (known : GoMap String Addr) : List Addr :=
  known.entries.map (fun e => e.2) ++ n.inverse.keys

/-- `SweepStale`: remove every usable address that is neither known nor bound. -/
def sweepStale (known : GoMap String Addr) : σ × Except PodNetError Unit :=
  match sweepLoop M (n.keep known) k [] n.alloc.hosts with
  | (k', []) => (k', .ok ())
  | (k', errs) => (k', .error ⟨"\n".intercalate errs, none⟩)

end Network

inductive PodNetCall
  | setup (podID : String)
  | setupGuest (podID : String)
  | reattachPod (podID : String) (ip : Addr)
  | reattachGuest (podID : String) (ip : Addr)
  | teardown (podID : String)
  | sweepStale (known : GoMap String Addr)

structure CallResult (σ : Type) where
  net : Network
  aliases : σ
  err : Option PodNetError

def errorOf {α : Type} : Except PodNetError α → Option PodNetError
  | .error err => some err
  | .ok _ => none

section Calls

variable {σ : Type} (M : AliasManager σ)

def CallResult.of {α : Type} (r : Network × σ × Except PodNetError α) : CallResult σ :=
  ⟨r.1, r.2.1, errorOf r.2.2⟩

def Network.call (n : Network) (k : σ) : PodNetCall → CallResult σ
  | .setup podID => .of (n.setup M k podID .hostProcess)
  | .setupGuest podID => .of (n.setup M k podID .vm)
  | .reattachPod podID ip => .of (n.reattach M k podID ip .hostProcess)
  | .reattachGuest podID ip => .of (n.reattach M k podID ip .vm)
  | .teardown podID => .of (n.teardown M k podID)
  | .sweepStale known => .of (n, n.sweepStale M k known)

structure PodNetState (σ : Type) where
  net : Network
  aliases : σ

/-- Runs of a network of an IPv4 /24, from any state of the manager. -/
def podNetMachine : Machine (PodNetState σ) PodNetCall where
  init s := ∃ a : BitVec 32, newNetwork (Prefix.v4 a 24) = .ok s.net
  step s c :=
    let r := s.net.call M s.aliases c
    some ⟨r.net, r.aliases⟩

end Calls

/-! ## What a call does to the bindings -/

/-- No pod has lost, gained or changed an address. -/
structure SameBindings (n n' : Network) : Prop where
  byPod : n'.byPod = n.byPod
  inverse : n'.inverse = n.inverse
  allocated : n'.alloc.allocated = n.alloc.allocated

inductive Network.Change (n n' : Network) : Prop
  | same (h : SameBindings n n')
  | bound (podID : String) (e : PodEntry) (hpod : n.byPod.lookup podID = none)
      (hfree : e.ip ∉ n.alloc.allocated) (hbyPod : n'.byPod = n.byPod.insert podID e)
      (hinverse : n'.inverse = n.inverse.insert e.ip podID)
      (halloc : n'.alloc.allocated = insert e.ip n.alloc.allocated)
  | unbound (podID : String) (e : PodEntry) (hpod : n.byPod.lookup podID = some e)
      (hbyPod : n'.byPod = n.byPod.erase podID)
      (hinverse : n'.inverse = n.inverse.erase e.ip)
      (halloc : n'.alloc.allocated = n.alloc.allocated.erase e.ip)

/-- What is known of a call: the pool keeps its shape, every allocated address is
usable if it was before, and an error leaves the bindings as they were. -/
structure Network.Effect (base : BitVec 32) (n n' : Network) (failed : Bool) : Prop where
  shaped : n'.alloc.Shaped base
  usable : ∀ ip ∈ n'.alloc.allocated, ip ∈ n.alloc.allocated ∨ Usable base ip
  change : n.Change n'
  same : failed = true → SameBindings n n'

namespace Network

variable {σ : Type} {M : AliasManager σ} {n n' : Network} {k : σ} {base : BitVec 32}
  {podID : String} {ip : Addr} {backend : Backend} {alloc : Allocator}

lemma Effect.refl (h : n.alloc.Shaped base) (failed : Bool) : n.Effect base n failed :=
  ⟨h, fun _ hip => .inl hip, .same ⟨rfl, rfl, rfl⟩, fun _ => ⟨rfl, rfl, rfl⟩⟩

lemma release_insert {a : Allocator} (hfree : ip ∉ a.allocated) (next : Addr) :
    (Allocator.release { a with allocated := insert ip a.allocated, next := next } ip).1 =
      { a with next := next } := by
  simp [Allocator.release, Finset.erase_insert hfree]

lemma Effect.rollback (h : n.alloc.Shaped base) {next : Addr}
    (hnext : ∃ i, 2 ≤ i ∧ i ≤ 255 ∧ next = host base i) (failed : Bool) :
    n.Effect base { n with alloc := { n.alloc with next := next } } failed :=
  ⟨⟨h.isBase, h.cidr, h.first, h.last, hnext⟩, fun _ hip => .inl hip, .same ⟨rfl, rfl, rfl⟩,
    fun _ => ⟨rfl, rfl, rfl⟩⟩

lemma Effect.bind (h : n.alloc.Shaped base) (hpod : n.byPod.lookup podID = none)
    (hfree : ip ∉ n.alloc.allocated) (hip : Usable base ip) {next : Addr}
    (hnext : ∃ i, 2 ≤ i ∧ i ≤ 255 ∧ next = host base i) : n.Effect base (Network.bind { n with
      alloc := { n.alloc with allocated := insert ip n.alloc.allocated, next := next } }
      podID ⟨ip, backend⟩) false := by
  refine ⟨⟨h.isBase, h.cidr, h.first, h.last, hnext⟩, fun ip' hip' => ?_,
    .bound podID ⟨ip, backend⟩ hpod hfree rfl rfl rfl, fun hf => ?_⟩
  · rcases Finset.mem_insert.mp hip' with rfl | hold
    · exact .inr hip
    · exact .inl hold
  · cases hf

lemma setup_effect (h : n.alloc.Shaped base) : n.Effect base (n.setup M k podID backend).1
      (errorOf (n.setup M k podID backend).2.2).isSome := by
  unfold setup
  split
  · exact .refl h _
  split
  · split
    · exact .refl h _
    · split <;> exact .refl h _
  · rename_i hpod
    rcases h.allocate_spec with ⟨-, heq⟩ | ⟨ip, hip, hfree, heq⟩
    · simp only [heq]
      exact .refl h _
    · obtain ⟨i, hi2, hi, rfl⟩ := hip
      have hnext : ∃ j, 2 ≤ j ∧ j ≤ 255 ∧ (host base i).next = host base j :=
        ⟨i + 1, by omega, by omega, host_next h.isBase (by omega)⟩
      simp only [heq]
      split
      · rw [release_insert hfree]
        exact .rollback h hnext _
      · exact .bind h hpod hfree ⟨i, hi2, hi, rfl⟩ hnext

lemma reattach_effect (h : n.alloc.Shaped base) : n.Effect base (n.reattach M k podID ip backend).1
      (errorOf (n.reattach M k podID ip backend).2.2).isSome := by
  unfold reattach
  split
  · exact .refl h _
  split
  · split
    · exact .refl h _
    · split
      · exact .refl h _
      · split <;> exact .refl h _
  · rename_i hpod
    split
    · exact .refl h _
    · unfold Allocator.allocateSpecific
      by_cases hrange : n.alloc.inHostRange ip = true
      · by_cases hheld : ip ∈ n.alloc.allocated
        · simp only [hrange, hheld, Bool.not_true, Bool.false_eq_true, if_false, if_true]
          exact .refl h _
        · simp only [hrange, hheld, Bool.not_true, Bool.false_eq_true, if_false]
          split
          · have hrel := release_insert hheld n.alloc.next
            simp only [hrel]
            exact .refl h _
          · exact .bind h hpod hheld ((h.inHostRange_iff ip).mp hrange) h.next
      · simp only [hrange, Bool.not_false, if_true]
        exact .refl h _

lemma teardown_effect (h : n.alloc.Shaped base) : n.Effect base (n.teardown M k podID).1
      (errorOf (n.teardown M k podID).2.2).isSome := by
  unfold teardown
  split
  · exact .refl h _
  split
  · exact .refl h _
  · rename_i e hpod
    split
    · exact .refl h _
    · unfold Allocator.release
      by_cases hheld : e.ip ∈ n.alloc.allocated
      · simp only [hheld, not_true_eq_false, if_false]
        refine ⟨⟨h.isBase, h.cidr, h.first, h.last, h.next⟩, fun ip hip => ?_,
          .unbound podID e hpod rfl rfl rfl, fun hf => ?_⟩
        · exact .inl (Finset.mem_of_mem_erase hip)
        · cases hf
      · simp only [hheld, not_false_eq_true, if_true, Sentinel.errorf]
        refine ⟨h, fun ip hip => .inl hip, .unbound podID e hpod rfl rfl ?_, fun hf => ?_⟩
        · exact (Finset.erase_eq_of_notMem hheld).symm
        · cases hf

/-- Each call keeps the bindings, adds one or removes one. -/
lemma call_effect (h : n.alloc.Shaped base) (c : PodNetCall) :
    n.Effect base (n.call M k c).net (n.call M k c).err.isSome := by
  cases c with
  | setup podID => exact setup_effect h
  | setupGuest podID => exact setup_effect h
  | reattachPod podID ip => exact reattach_effect h
  | reattachGuest podID ip => exact reattach_effect h
  | teardown podID => exact teardown_effect h
  | sweepStale known => exact .refl h _

/-! ## Consistency -/

/-- The two maps are inverse, and the pool holds the bound addresses, all usable. -/
structure Consistent (n : Network) (base : BitVec 32) : Prop where
  shaped : n.alloc.Shaped base
  inverse : ∀ podID ip,
    (n.byPod.lookup podID).map PodEntry.ip = some ip ↔ n.inverse.lookup ip = some podID
  allocated : ∀ ip, ip ∈ n.alloc.allocated ↔ (n.inverse.lookup ip).isSome
  usable : ∀ ip ∈ n.alloc.allocated, Usable base ip

lemma consistent_new {a : BitVec 32} (h : newNetwork (Prefix.v4 a 24) = .ok n) :
    n.Consistent (maskBits 24 a) := by
  obtain ⟨alloc, heq, hshaped, hempty⟩ := newAllocator_v4 a
  rw [newNetwork, heq] at h
  cases h
  exact ⟨hshaped, by simp, by simp [hempty], by simp [hempty]⟩

lemma Consistent.effect (h : n.Consistent base) {failed : Bool}
    (he : n.Effect base n' failed) : n'.Consistent base := by
  refine ⟨he.shaped, ?_, ?_, fun ip hip => (he.usable ip hip).elim (h.usable ip) id⟩
  · intro p ip
    cases he.change with
    | same hs =>
      rw [hs.byPod, hs.inverse]
      exact h.inverse p ip
    | bound podID e hpod hfree hbyPod hinverse halloc =>
      rw [hbyPod, hinverse, GoMap.lookup_insert_ite, GoMap.lookup_insert_ite]
      have hold := h.inverse p ip
      have hunbound : n.inverse.lookup e.ip = none := by
        simpa [h.allocated] using hfree
      by_cases hp : p = podID
      · subst hp
        by_cases hip : ip = e.ip
        · simp [hip]
        · rw [hpod] at hold
          simpa [hip, Ne.symm hip] using hold
      · by_cases hip : ip = e.ip
        · subst hip
          rw [hunbound] at hold
          simpa [hp, Ne.symm hp] using hold
        · simpa [hp, hip] using hold
    | unbound podID e hpod hbyPod hinverse halloc =>
      rw [hbyPod, hinverse, GoMap.lookup_erase_ite, GoMap.lookup_erase_ite]
      have hold := h.inverse p ip
      have howner : n.inverse.lookup e.ip = some podID :=
        (h.inverse podID e.ip).mp (by rw [hpod]; rfl)
      by_cases hp : p = podID
      · subst hp
        by_cases hip : ip = e.ip
        · simp [hip]
        · rw [hpod] at hold
          simpa [hip, Ne.symm hip] using hold
      · by_cases hip : ip = e.ip
        · subst hip
          rw [howner] at hold
          simpa [hp, Ne.symm hp] using hold
        · simpa [hp, hip] using hold
  · intro ip
    cases he.change with
    | same hs =>
      rw [hs.allocated, hs.inverse]
      exact h.allocated ip
    | bound podID e hpod hfree hbyPod hinverse halloc =>
      rw [halloc, hinverse, GoMap.lookup_insert_ite, Finset.mem_insert, h.allocated]
      by_cases hip : ip = e.ip <;> simp [hip]
    | unbound podID e hpod hbyPod hinverse halloc =>
      rw [halloc, hinverse, GoMap.lookup_erase_ite, Finset.mem_erase, h.allocated]
      by_cases hip : ip = e.ip <;> simp [hip]

lemma Consistent.call (h : n.Consistent base) (c : PodNetCall) :
    (n.call M k c).net.Consistent base :=
  h.effect (call_effect h.shaped c)

/-- Maps and pool stay consistent, whatever the alias manager does. -/
lemma consistent_of_reach {s : PodNetState σ}
    (h : (podNetMachine M).Reach Machine.always s) : ∃ base, s.net.Consistent base := by
  refine h.invariant (I := fun s => ∃ base, s.net.Consistent base) ?_ ?_
  · rintro s ⟨a, ha⟩
    exact ⟨_, consistent_new ha⟩
  · rintro s c t ⟨base, hs⟩ - hst
    cases hst
    exact ⟨base, hs.call c⟩

/-! ## Exhaustion -/

/-- A new pod meets an exhausted pool exactly if every usable address is taken. -/
lemma setup_exhausted_iff (M : AliasManager σ) (n : Network) (k : σ) (backend : Backend)
    (h : n.alloc.Shaped base) (hid : podID ≠ "") (hpod : n.byPod.lookup podID = none) :
    (∃ err, (n.setup M k podID backend).2.2 = .error err ∧ err.is = some .poolExhausted) ↔
      ∀ ip, Usable base ip → ip ∈ n.alloc.allocated := by
  unfold setup
  simp only [if_neg hid, hpod]
  rcases h.allocate_spec with ⟨hfull, heq⟩ | ⟨ip, hip, hfree, heq⟩
  · simp only [heq]
    exact ⟨fun _ => hfull, fun _ => ⟨_, rfl, rfl⟩⟩
  simp only [heq]
  refine ⟨fun herr => ?_, fun hfull => absurd (hfull ip hip) hfree⟩
  obtain ⟨err, herr, hexh⟩ := herr
  split at herr <;> cases herr
  cases hexh

end Network

/-! ## What a sweep removes -/

def AliasManager.recording {σ : Type} (M : AliasManager σ) : AliasManager (σ × List Addr) where
  ensure k ip := (((M.ensure k.1 ip).1, k.2), (M.ensure k.1 ip).2)
  remove k ip := (((M.remove k.1 ip).1, k.2 ++ [ip]), (M.remove k.1 ip).2)

namespace Network

variable {σ : Type} {M : AliasManager σ} {n : Network} {base : BitVec 32}

lemma sweepLoop_recording (keep : List Addr) (k : σ) (log : List Addr) (errs : List String)
    (ips : List Addr) : sweepLoop M.recording keep (k, log) errs ips =
      (((sweepLoop M keep k errs ips).1, log ++ ips.filter fun ip => ip ∉ keep),
        (sweepLoop M keep k errs ips).2) := by
  induction ips generalizing k log errs with
  | nil => simp [sweepLoop]
  | cons ip ips ih =>
    by_cases hip : ip ∈ keep
    · simp [sweepLoop, hip, ih]
    simp only [sweepLoop, hip, if_false, AliasManager.recording]
    have hih := fun k errs => ih k (log ++ [ip]) errs
    simp only [AliasManager.recording] at hih
    cases herr : M.remove k ip with
    | mk k' r => cases r <;> simp [hih, hip]

lemma sweepStale_fst (k : σ) (known : GoMap String Addr) :
    (n.sweepStale M k known).1 = (sweepLoop M (n.keep known) k [] n.alloc.hosts).1 := by
  unfold sweepStale
  split <;> rename_i heq <;> rw [heq]

lemma sweepStale_recording (k : σ) (known : GoMap String Addr) :
    (n.sweepStale M.recording (k, []) known).1 =
      ((n.sweepStale M k known).1, n.alloc.hosts.filter fun ip => ip ∉ n.keep known) := by
  rw [sweepStale_fst, sweepLoop_recording, sweepStale_fst, List.nil_append]

lemma mem_keep {known : GoMap String Addr} {ip : Addr} : ip ∈ n.keep known ↔
    (∃ podID, known.lookup podID = some ip) ∨ n.inverse.lookup ip ≠ none := by
  rw [keep, List.mem_append, List.mem_map, GoMap.mem_keys_iff, Option.ne_none_iff_exists']
  refine or_congr_left ⟨?_, ?_⟩
  · rintro ⟨e, he, rfl⟩
    exact ⟨e.1, GoMap.lookup_of_mem_entries he⟩
  · rintro ⟨podID, hp⟩
    exact ⟨⟨podID, ip⟩, GoMap.mem_entries_of_lookup hp, rfl⟩

lemma mem_sweepStale_recording (h : n.Consistent base) (k : σ) (known : GoMap String Addr)
    (ip : Addr) : ip ∈ (n.sweepStale M.recording (k, []) known).1.2 ↔
      Usable base ip ∧ n.inverse.lookup ip = none ∧ ∀ podID, known.lookup podID ≠ some ip := by
  rw [sweepStale_recording, List.mem_filter, h.shaped.mem_hosts]
  simp only [decide_eq_true_eq, mem_keep, not_or, not_exists, ne_eq, not_not]
  exact and_congr_right fun _ => and_comm

end Network

/-! ## The network in every run -/

/-- In every run the two maps are inverse to each other, the pool is what is bound, and a failed
call changes neither; an address runs out exactly when all are bound; and a sweep removes exactly
the addresses that no pod has. -/
theorem podIpam_consistent {σ : Type} (M : AliasManager σ) (s : PodNetState σ)
    (h : (podNetMachine M).Reach Machine.always s) :
    ∃ base : BitVec 32, s.net.alloc.cidr = Prefix.v4 base 24 ∧ base.toNat % 256 = 0 ∧
      -- the maps are inverse to each other
      (∀ podID ip, (s.net.byPod.lookup podID).map PodEntry.ip = some ip ↔
        s.net.inverse.lookup ip = some podID) ∧
      -- the pool holds the bound addresses, each in `.2` to `.254` and of one pod
      (∀ ip, ip ∈ s.net.alloc.allocated ↔
        ∃ podID e, s.net.byPod.lookup podID = some e ∧ e.ip = ip) ∧
      (∀ ip ∈ s.net.alloc.allocated, Usable base ip ∧
        ∃! podID, (s.net.byPod.lookup podID).map PodEntry.ip = some ip) ∧
      -- a failed call leaves the bindings and the pool as they were
      (∀ c, (s.net.call M s.aliases c).err.isSome →
        SameBindings s.net (s.net.call M s.aliases c).net) ∧
      -- exhaustion, for the cursor anywhere
      (∀ podID backend i, podID ≠ "" → s.net.byPod.lookup podID = none → 2 ≤ i → i ≤ 255 →
        ((∃ err, (Network.setup M { s.net with alloc := { s.net.alloc with next := host base i } }
            s.aliases podID backend).2.2 = .error err ∧ err.is = some .poolExhausted) ↔
          ∀ ip, Usable base ip → ∃ podID, s.net.inverse.lookup ip = some podID)) ∧
      (∃ i, 2 ≤ i ∧ i ≤ 255 ∧ s.net.alloc.next = host base i) ∧
      -- the addresses a sweep removes
      ∀ known ip, (s.net.sweepStale M.recording (s.aliases, []) known).1.1 =
          (s.net.sweepStale M s.aliases known).1 ∧
        (ip ∈ (s.net.sweepStale M.recording (s.aliases, []) known).1.2 ↔
          Usable base ip ∧ (∀ podID e, s.net.byPod.lookup podID = some e → e.ip ≠ ip) ∧
            ∀ podID, known.lookup podID ≠ some ip) := by
  obtain ⟨base, hs⟩ := Network.consistent_of_reach h
  have hbound : ∀ ip, (∃ podID e, s.net.byPod.lookup podID = some e ∧ e.ip = ip) ↔
      ∃ podID, s.net.inverse.lookup ip = some podID := by
    intro ip
    simp only [← hs.inverse, Option.map_eq_some_iff]
  have halloc : ∀ ip, ip ∈ s.net.alloc.allocated ↔
      ∃ podID, s.net.inverse.lookup ip = some podID := by
    intro ip
    rw [hs.allocated, Option.isSome_iff_exists]
  refine ⟨base, hs.shaped.cidr, hs.shaped.isBase, hs.inverse, fun ip => ?_, fun ip hip => ?_,
    fun c => (Network.call_effect hs.shaped c).same, fun podID backend i hid hpod hi2 hi => ?_,
    hs.shaped.next, fun known ip => ⟨?_, ?_⟩⟩
  · rw [halloc, hbound]
  · refine ⟨hs.usable ip hip, ?_⟩
    obtain ⟨podID, hp⟩ := (halloc ip).mp hip
    refine ⟨podID, (hs.inverse podID ip).mpr hp, fun podID' hp' => ?_⟩
    have heq := ((hs.inverse podID' ip).mp hp').symm.trans hp
    exact Option.some.inj heq
  · have hshaped := hs.shaped
    have hmoved : Allocator.Shaped { s.net.alloc with next := host base i } base :=
      ⟨hshaped.isBase, hshaped.cidr, hshaped.first, hshaped.last, i, hi2, hi, rfl⟩
    have hexh := Network.setup_exhausted_iff M
      { s.net with alloc := { s.net.alloc with next := host base i } } s.aliases backend hmoved
      hid hpod
    simp only [halloc] at hexh
    exact hexh
  · rw [Network.sweepStale_recording]
  · rw [Network.mem_sweepStale_recording hs]
    have hfree : s.net.inverse.lookup ip = none ↔
        ∀ podID e, s.net.byPod.lookup podID = some e → e.ip ≠ ip := by
      constructor
      · intro hnone podID e hpod hip
        obtain ⟨podID', hp'⟩ := (hbound ip).mp ⟨podID, e, hpod, hip⟩
        rw [hnone] at hp'
        cases hp'
      · intro hfree
        by_contra hsome
        obtain ⟨podID, hp⟩ := Option.ne_none_iff_exists'.mp hsome
        obtain ⟨podID', e, hpod, hip⟩ := (hbound ip).mpr ⟨podID, hp⟩
        exact hfree podID' e hpod hip
    rw [hfree]

def failsOnce : AliasManager Bool where
  ensure failed _ := (true, if failed then none else some "exit status 1")
  remove failed _ := (failed, none)

theorem podIpam_after_failure : ∃ s : PodNetState Bool,
    (podNetMachine failsOnce).Reach Machine.always s ∧
    s.net.inverse.lookup (.v4 0x64400103#32) = some "web" ∧
    (s.net.byPod.lookup "web").map PodEntry.ip = some (.v4 0x64400103#32) := by
  let labels : List PodNetCall := [.setup "web", .setup "web"]
  let start : PodNetState Bool :=
    ⟨⟨⟨Prefix.v4 0x64400100#32 24, .v4 0x64400101#32, .v4 0x64400102#32, .v4 0x644001fe#32,
      .v4 0x64400102#32, ∅⟩, ∅, ∅⟩, false⟩
  obtain ⟨s, hreach, hfact⟩ : ∃ s, (podNetMachine failsOnce).Reach Machine.always s ∧
      s.net.inverse.lookup (.v4 0x64400103#32) = some "web" :=
    Machine.Reach.exists_run (s := start) labels ⟨0x64400100#32, rfl⟩
      (Machine.meets_always _ _) (by decide)
  obtain ⟨base, -, -, hinverse, -⟩ := podIpam_consistent failsOnce s hreach
  exact ⟨s, hreach, hfact, (hinverse "web" (.v4 0x64400103#32)).mpr hfact⟩

end DarwinNet.Podnet
