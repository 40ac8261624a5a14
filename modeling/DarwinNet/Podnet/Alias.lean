import DarwinNet.Lib.GoMap
import DarwinNet.Netip.Text
import DarwinNet.Podnet.Allocator

/-!
Loopback aliases and blackhole routes (`alias.go`, `blackhole.go`), over a model
of the kernel state they change: the addresses aliased on lo0, those aliased on
the mesh utun and those that hold a blackhole host route.

`Outcomes` gives the error of each command of one operation; a failing command
leaves the kernel unchanged. The kernel also refuses to remove an alias that is
not there and to install a blackhole over a live alias's host route.

`EnsureEffect` and `RemoveEffect` list what an ensure or a remove of a pod address
can do to the tracked aliases and the kernel; every other address is left alone.
-/

namespace DarwinNet.Podnet

open Lib Netip

/-- `IsPodAddress`: one of `.2` to `.254` of an IPv4 /24. -/
def isPodAddress (nodeCIDR : Prefix) (ip : Addr) : Bool :=
  if !nodeCIDR.isValid || !nodeCIDR.ip.is4 || nodeCIDR.bits != nodeCIDRBits then false
  else if !ip.unmap.is4 || !nodeCIDR.masked.contains ip.unmap then false
  else
    let last := (as4 ip.unmap).toNat % 256
    decide (2 ≤ last) && decide (last ≤ 254)

example : isPodAddress (Prefix.v4 0x64400100#32 24) (.v4 0x64400102#32) = true := by decide
example : isPodAddress (Prefix.v4 0x64400100#32 24) (.v4 0x64400101#32) = false := by decide

/-! ## The kernel -/

structure Kernel where
  lo0 : Finset Addr
  utun : Finset Addr
  blackholes : Finset Addr
  deriving DecidableEq

structure Outcomes where
  clear : Option String := none
  lo0Alias : Option String := none
  lo0Unalias : Option String := none
  install : Option String := none
  utunAlias : Option String := none
  utunUnalias : Option String := none
  /-- The flags read back from a host route that is in the way. -/
  flags : String := "0x5"
  deriving DecidableEq, Repr

namespace Kernel

variable (k : Kernel) (o : Outcomes) (ip : Addr)

/-- `ifconfig lo0 alias <ip>/32`. -/
def aliasLo0 : Kernel × Option String :=
  match o.lo0Alias with
  | some err => (k, some err)
  | none => ({ k with lo0 := insert ip k.lo0 }, none)

/-- `ifconfig lo0 -alias <ip>`. -/
def unaliasLo0 : Kernel × Option String :=
  match o.lo0Unalias with
  | some err => (k, some err)
  | none =>
    if ip ∈ k.lo0 then ({ k with lo0 := k.lo0.erase ip }, none)
    else (k, some "ifconfig: ioctl (SIOCDIFADDR): Can't assign requested address")

/-- `ifconfig <utun> alias`, with the utun's own address as destination. -/
def aliasUTUN : Kernel × Option String :=
  match o.utunAlias with
  | some err => (k, some err)
  | none => ({ k with utun := insert ip k.utun }, none)

def unaliasUTUN : Kernel × Option String :=
  match o.utunUnalias with
  | some err => (k, some err)
  | none =>
    if ip ∈ k.utun then ({ k with utun := k.utun.erase ip }, none)
    else (k, some "ifconfig: ioctl (SIOCDIFADDR): Can't assign requested address")

/-- `BlackholeRoutes.Install`; a host route of a live alias is an error. -/
def install : Kernel × Option String :=
  match o.install with
  | some err => (k, some err)
  | none =>
    if ip ∈ k.lo0 then
      (k, some ("install blackhole route for " ++ ip.string ++
        ": another host route is held for the address (flags " ++ o.flags ++ "): file exists"))
    else ({ k with blackholes := insert ip k.blackholes }, none)

/-- `BlackholeRoutes.Clear`; no blackhole is success. -/
def clear : Kernel × Option String :=
  match o.clear with
  | some err => (k, some err)
  | none => ({ k with blackholes := k.blackholes.erase ip }, none)

end Kernel

/-! ## The direct alias manager -/

inductive AliasState
  | live
  | blackholePending
  deriving DecidableEq, Repr

/-- `lo0AliasManager`, with the kernel it acts on. -/
structure Lo0AliasManager where
  nodeCIDR : Prefix
  aliased : GoMap Addr AliasState
  kernel : Kernel

def clearPod (cidr : Prefix) (k : Kernel) (o : Outcomes) (ip : Addr) : Kernel × Option String :=
  if isPodAddress cidr ip then k.clear o ip else (k, none)

namespace Lo0AliasManager

variable (m : Lo0AliasManager) (o : Outcomes) (ip : Addr)

def ensure : Lo0AliasManager × Option String :=
  if m.aliased.lookup ip = some .live then (m, none)
  else match clearPod m.nodeCIDR m.kernel o ip with
    | (k, some err) =>
      ({ m with kernel := k }, some ("ensure lo0 alias " ++ ip.string ++ ": " ++ err))
    | (k, none) =>
      match k.aliasLo0 o ip with
      | (k, some err) =>
        ({ m with kernel := k }, some ("ifconfig lo0 alias " ++ ip.string ++ "/32: " ++ err))
      | (k, none) => ({ m with kernel := k, aliased := m.aliased.insert ip .live }, none)

def blackhole (tracked removed : Bool) : Lo0AliasManager × Option String :=
  if !isPodAddress m.nodeCIDR ip then ({ m with aliased := m.aliased.erase ip }, none)
  else if !tracked && !removed then (m, none)
  else match m.kernel.install o ip with
    | (k, some err) =>
      ({ m with kernel := k, aliased := m.aliased.insert ip .blackholePending },
        some ("remove lo0 alias " ++ ip.string ++ ": " ++ err))
    | (k, none) => ({ m with kernel := k, aliased := m.aliased.erase ip }, none)

def remove : Lo0AliasManager × Option String :=
  match m.aliased.lookup ip with
  | some .blackholePending => m.blackhole o ip true false
  | some .live =>
    match m.kernel.unaliasLo0 o ip with
    | (k, some err) =>
      ({ m with kernel := k }, some ("ifconfig lo0 -alias " ++ ip.string ++ ": " ++ err))
    | (k, none) => { m with kernel := k }.blackhole o ip true true
  | none =>
    -- best effort: a failure is taken for an absent alias
    match m.kernel.unaliasLo0 o ip with
    | (k, err) => { m with kernel := k }.blackhole o ip false err.isNone

end Lo0AliasManager

/-! ## What an operation on a pod address does -/

/-- The tracked aliases and the kernel after an ensure of `ip`; `late` is the
condition for a failure after the alias. -/
inductive EnsureEffect (ip : Addr) (o : Outcomes) (late : Prop) (al al' : GoMap Addr AliasState)
    (k k' : Kernel) (err : Option String) : Prop
  | unchanged (hal : al' = al) (hlo0 : k'.lo0 = k.lo0) (hb : k'.blackholes = k.blackholes)
      (herr : err = none → al.lookup ip = some .live)
  | cleared (hal : al' = al) (hlo0 : k'.lo0 = k.lo0)
      (hb : k'.blackholes = k.blackholes.erase ip) (hclear : o.clear = none)
      (halias : o.lo0Alias ≠ none) (herr : err ≠ none)
  | aliased (hal : al' = al.insert ip .live) (hlo0 : k'.lo0 = insert ip k.lo0)
      (hb : k'.blackholes = k.blackholes.erase ip) (herr : err ≠ none → late)

inductive RemoveEffect (ip : Addr) (al al' : GoMap Addr AliasState) (k k' : Kernel)
    (err : Option String) : Prop
  | unchanged (hal : al' = al) (hlo0 : k'.lo0 = k.lo0) (hb : k'.blackholes = k.blackholes)
      (herr : err = none → al.lookup ip = none)
  | pending (hal : al' = al.insert ip .blackholePending)
      (hlo0 : k'.lo0 = k.lo0 ∨ k'.lo0 = k.lo0.erase ip) (hb : k'.blackholes = k.blackholes)
      (herr : err ≠ none)
  | blackholed (hal : al' = al.erase ip) (hlo0 : k'.lo0 = k.lo0.erase ip)
      (hb : k'.blackholes = insert ip k.blackholes) (herr : err = none)

namespace Kernel

variable {k k' : Kernel} {o : Outcomes} {ip : Addr} {err : Option String} {e : String}

lemma clear_failed (h : k.clear o ip = (k', some e)) : o.clear = some e ∧ k' = k := by
  unfold clear at h
  split at h
  · rename_i he
    cases h
    exact ⟨he, rfl⟩
  · cases h

lemma clear_done (h : k.clear o ip = (k', none)) :
    o.clear = none ∧ k' = { k with blackholes := k.blackholes.erase ip } := by
  unfold clear at h
  split at h
  · cases h
  · rename_i he
    cases h
    exact ⟨he, rfl⟩

lemma aliasLo0_failed (h : k.aliasLo0 o ip = (k', some e)) : o.lo0Alias = some e ∧ k' = k := by
  unfold aliasLo0 at h
  split at h
  · rename_i he
    cases h
    exact ⟨he, rfl⟩
  · cases h

lemma aliasLo0_done (h : k.aliasLo0 o ip = (k', none)) :
    o.lo0Alias = none ∧ k' = { k with lo0 := insert ip k.lo0 } := by
  unfold aliasLo0 at h
  split at h
  · cases h
  · rename_i he
    cases h
    exact ⟨he, rfl⟩

lemma unaliasLo0_cases (h : k.unaliasLo0 o ip = (k', err)) :
    (err ≠ none ∧ k' = k) ∨ (err = none ∧ k' = { k with lo0 := k.lo0.erase ip }) := by
  unfold unaliasLo0 at h
  split at h
  · cases h
    exact .inl ⟨by simp, rfl⟩
  split at h
  · cases h
    exact .inr ⟨rfl, rfl⟩
  · cases h
    exact .inl ⟨by simp, rfl⟩

lemma install_failed (h : k.install o ip = (k', some e)) : k' = k := by
  unfold install at h
  split at h
  · cases h
    rfl
  split at h
  · cases h
    rfl
  · cases h

lemma install_done (h : k.install o ip = (k', none)) :
    ip ∉ k.lo0 ∧ k' = { k with blackholes := insert ip k.blackholes } := by
  unfold install at h
  split at h
  · cases h
  split at h
  · cases h
  · rename_i hip
    cases h
    exact ⟨hip, rfl⟩

end Kernel

namespace Lo0AliasManager

variable {m : Lo0AliasManager} {o : Outcomes} {ip : Addr}

/-- What `Ensure` does to the record and to the kernel. -/
lemma ensure_effect (hpod : isPodAddress m.nodeCIDR ip = true) :
    EnsureEffect ip o False m.aliased (m.ensure o ip).1.aliased m.kernel (m.ensure o ip).1.kernel
      (m.ensure o ip).2 := by
  unfold ensure
  split
  · rename_i hlive
    exact .unchanged rfl rfl rfl fun _ => hlive
  rw [clearPod, if_pos hpod]
  split
  · rename_i k err hclear
    obtain ⟨-, rfl⟩ := Kernel.clear_failed hclear
    exact .unchanged rfl rfl rfl (by simp)
  · rename_i k hclear
    obtain ⟨hc, rfl⟩ := Kernel.clear_done hclear
    split
    · rename_i k' err halias
      obtain ⟨ha, rfl⟩ := Kernel.aliasLo0_failed halias
      exact .cleared rfl rfl rfl hc (by simp [ha]) (by simp)
    · rename_i k' halias
      obtain ⟨-, rfl⟩ := Kernel.aliasLo0_done halias
      exact .aliased rfl rfl rfl (fun herr => herr rfl)

lemma blackhole_effect (hpod : isPodAddress m.nodeCIDR ip = true) {tracked removed : Bool}
    (howed : tracked = true ∨ removed = true) {k : Kernel}
    (hk : m.kernel = k ∨ m.kernel = { k with lo0 := k.lo0.erase ip }) :
    RemoveEffect ip m.aliased (m.blackhole o ip tracked removed).1.aliased k
      (m.blackhole o ip tracked removed).1.kernel (m.blackhole o ip tracked removed).2 := by
  have hskip : (!tracked && !removed) = false := by
    rcases howed with h | h <;> simp [h]
  unfold blackhole
  simp only [hpod, hskip, Bool.not_true, Bool.false_eq_true, if_false]
  split
  · rename_i k' err hinstall
    have hsame := Kernel.install_failed hinstall
    subst hsame
    rcases hk with hk | hk
    · exact .pending rfl (.inl (by rw [hk])) (by rw [hk]) (by simp)
    · exact .pending rfl (.inr (by rw [hk])) (by rw [hk]) (by simp)
  · rename_i k' hinstall
    obtain ⟨hgone, rfl⟩ := Kernel.install_done hinstall
    rcases hk with hk | hk
    · refine .blackholed rfl ?_ (by rw [hk]) rfl
      rw [hk] at hgone ⊢
      exact (Finset.erase_eq_of_notMem hgone).symm
    · exact .blackholed rfl (by rw [hk]) (by rw [hk]) rfl

/-- What `Remove` does to the record and to the kernel. -/
lemma remove_effect (hpod : isPodAddress m.nodeCIDR ip = true) :
    RemoveEffect ip m.aliased (m.remove o ip).1.aliased m.kernel (m.remove o ip).1.kernel
      (m.remove o ip).2 := by
  unfold remove
  split
  · exact blackhole_effect hpod (.inl rfl) (.inl rfl)
  · split
    · rename_i k err hunalias
      rcases Kernel.unaliasLo0_cases hunalias with ⟨-, rfl⟩ | ⟨herr, -⟩
      · exact .unchanged rfl rfl rfl (by simp)
      · cases herr
    · rename_i k hunalias
      rcases Kernel.unaliasLo0_cases hunalias with ⟨herr, -⟩ | ⟨-, rfl⟩
      · exact absurd rfl herr
      · exact blackhole_effect (k := m.kernel)
          (m := { m with kernel := { m.kernel with lo0 := m.kernel.lo0.erase ip } }) hpod
          (.inl rfl) (.inr rfl)
  · rename_i hnone
    split
    rename_i k err hunalias
    rcases Kernel.unaliasLo0_cases hunalias with ⟨herr, rfl⟩ | ⟨rfl, rfl⟩
    · have hsome : err.isNone = false := by
        cases err with
        | none => exact absurd rfl herr
        | some e => rfl
      have hskip : m.blackhole o ip false err.isNone = (m, none) := by
        simp [blackhole, hpod, hsome]
      rw [hskip]
      exact .unchanged rfl rfl rfl fun _ => hnone
    · exact blackhole_effect (k := m.kernel)
        (m := { m with kernel := { m.kernel with lo0 := m.kernel.lo0.erase ip } }) hpod
        (.inr rfl) (.inr rfl)

end Lo0AliasManager

end DarwinNet.Podnet
