import DarwinNet.Podnet.Alias

/-!
The root executor (`applier.go`): lo0 and utun aliases with their blackholes, the
node identity the mesh addresses derive from, and whether the mesh is up.

Alias operations serialize on one lock and `ConfigureMesh`, `RemoveMesh` and
`SetNodePodCIDR` take it too, so each call is one step.
-/

namespace DarwinNet.Netd

open Lib Netip Podnet

/-- The pod addresses a pod holds; `none` while the set is not known. -/
abbrev LocalPods := Option (Finset Addr)

def LocalPods.add (l : LocalPods) (ip : Addr) : LocalPods := l.map (insert ip)

def LocalPods.remove (l : LocalPods) (ip : Addr) : LocalPods := l.map (·.erase ip)

/-- `darwinApplier`, with the kernel it acts on; `dev` is the interface name of the
mesh device, if one was built. -/
structure DarwinApplier where
  nodePodCIDR : Prefix
  dev : Option String
  meshUp : Bool
  aliased : GoMap Addr AliasState
  pods : LocalPods
  kernel : Kernel

namespace DarwinApplier

variable (a : DarwinApplier) (o : Outcomes) (ip : Addr)

def meshUTUN : Option String := if a.meshUp then a.dev else none

/-- The last step of `EnsureAlias`: the utun alias of a pod address. The lo0 alias
stays when it fails. -/
def ensureUTUN : DarwinApplier × Option String :=
  match a.meshUTUN with
  | none => (a, none)
  | some iface =>
    match a.kernel.aliasUTUN o ip with
    | (k, some err) =>
      ({ a with kernel := k },
        some ("alias " ++ ip.string ++ " onto the mesh utun " ++ iface ++ ": " ++ err))
    | (k, none) => ({ a with kernel := k }, none)

def ensureAlias : DarwinApplier × Option String :=
  let pod := isPodAddress a.nodePodCIDR ip
  let a := if pod then { a with pods := a.pods.add ip } else a
  match clearPod a.nodePodCIDR a.kernel o ip with
  | (k, some err) =>
    ({ a with kernel := k }, some ("ensure lo0 alias " ++ ip.string ++ ": " ++ err))
  | (k, none) =>
    match k.aliasLo0 o ip with
    | (k, some err) =>
      ({ a with kernel := k }, some ("ifconfig lo0 alias " ++ ip.string ++ "/32: " ++ err))
    | (k, none) =>
      let a := { a with kernel := k, aliased := a.aliased.insert ip .live }
      if pod then a.ensureUTUN o ip else (a, none)

/-- The first step of `RemoveAlias`: the utun alias goes, an absent one is tolerated. -/
def removeUTUN : DarwinApplier :=
  if isPodAddress a.nodePodCIDR ip then
    match a.meshUTUN with
    | none => a
    | some _ => { a with kernel := (a.kernel.unaliasUTUN o ip).1 }
  else a

/-- The lo0 alias goes unless it went on an earlier attempt; a failure is tolerated. -/
def removeLo0 : DarwinApplier × Bool :=
  if a.aliased.lookup ip = some .blackholePending then (a, false)
  else match a.kernel.unaliasLo0 o ip with
    | (k, err) => ({ a with kernel := k }, err.isNone)

def blackhole (tracked : Option AliasState) (removed : Bool) : DarwinApplier × Option String :=
  if !isPodAddress a.nodePodCIDR ip then ({ a with aliased := a.aliased.erase ip }, none)
  else
    let a := if removed || tracked = some .blackholePending then
        { a with pods := a.pods.remove ip } else a
    if tracked.isNone && !removed then (a, none)
    else match a.kernel.install o ip with
      | (k, some err) =>
        ({ a with kernel := k, aliased := a.aliased.insert ip .blackholePending },
          some ("remove lo0 alias " ++ ip.string ++ ": " ++ err))
      | (k, none) => ({ a with kernel := k, aliased := a.aliased.erase ip }, none)

def removeAlias : DarwinApplier × Option String :=
  match (a.removeUTUN o ip).removeLo0 o ip with
  | (a', removed) => a'.blackhole o ip (a.aliased.lookup ip) removed

/-! ## What an operation on a pod address does -/

/-- The mesh is as it was. -/
structure SameMesh (a a' : DarwinApplier) : Prop where
  nodePodCIDR : a'.nodePodCIDR = a.nodePodCIDR
  dev : a'.dev = a.dev
  meshUp : a'.meshUp = a.meshUp

lemma ensureAlias_sameMesh : a.SameMesh (a.ensureAlias o ip).1 := by
  unfold ensureAlias
  by_cases hpod : isPodAddress a.nodePodCIDR ip = true
  · simp only [hpod, if_true]
    split
    · exact ⟨rfl, rfl, rfl⟩
    split
    · exact ⟨rfl, rfl, rfl⟩
    · unfold ensureUTUN
      split
      · exact ⟨rfl, rfl, rfl⟩
      · split <;> exact ⟨rfl, rfl, rfl⟩
  · simp only [hpod]
    split
    · exact ⟨rfl, rfl, rfl⟩
    · split <;> exact ⟨rfl, rfl, rfl⟩

lemma removeAlias_sameMesh : a.SameMesh (a.removeAlias o ip).1 := by
  have hutun : a.SameMesh (a.removeUTUN o ip) := by
    unfold removeUTUN
    split
    · split <;> exact ⟨rfl, rfl, rfl⟩
    · exact ⟨rfl, rfl, rfl⟩
  have hlo0 : a.SameMesh ((a.removeUTUN o ip).removeLo0 o ip).1 := by
    unfold removeLo0
    split
    · exact hutun
    · exact ⟨hutun.1, hutun.2, hutun.3⟩
  unfold removeAlias
  generalize (a.removeUTUN o ip).removeLo0 o ip = r at hlo0 ⊢
  unfold blackhole
  simp only
  split
  · exact ⟨hlo0.1, hlo0.2, hlo0.3⟩
  · split
    · split <;> exact ⟨hlo0.1, hlo0.2, hlo0.3⟩
    · split <;> split <;> exact ⟨hlo0.1, hlo0.2, hlo0.3⟩

variable {a o ip}

lemma ensureUTUN_frame (a : DarwinApplier) (o : Outcomes) (ip : Addr) :
    (a.ensureUTUN o ip).1.aliased = a.aliased ∧ (a.ensureUTUN o ip).1.kernel.lo0 = a.kernel.lo0 ∧
      (a.ensureUTUN o ip).1.kernel.blackholes = a.kernel.blackholes ∧
      ((a.ensureUTUN o ip).2 ≠ none → a.meshUTUN ≠ none ∧ o.utunAlias ≠ none) := by
  unfold ensureUTUN Kernel.aliasUTUN
  cases hutun : a.meshUTUN with
  | none => simp
  | some iface => cases o.utunAlias <;> simp

lemma removeUTUN_frame (a : DarwinApplier) (o : Outcomes) (ip : Addr) :
    (a.removeUTUN o ip).aliased = a.aliased ∧ (a.removeUTUN o ip).nodePodCIDR = a.nodePodCIDR ∧
      (a.removeUTUN o ip).kernel.lo0 = a.kernel.lo0 ∧
      (a.removeUTUN o ip).kernel.blackholes = a.kernel.blackholes := by
  unfold removeUTUN Kernel.unaliasUTUN
  split
  · split
    · exact ⟨rfl, rfl, rfl, rfl⟩
    · cases o.utunUnalias with
      | some err => exact ⟨rfl, rfl, rfl, rfl⟩
      | none => by_cases hip : ip ∈ a.kernel.utun <;> simp [hip]
  · exact ⟨rfl, rfl, rfl, rfl⟩

/-- The effect of `Ensure`, except that a utun failure comes after the alias. -/
lemma ensureAlias_effect (hpod : isPodAddress a.nodePodCIDR ip = true) :
    EnsureEffect ip o (a.meshUTUN ≠ none ∧ o.utunAlias ≠ none) a.aliased
      (a.ensureAlias o ip).1.aliased a.kernel (a.ensureAlias o ip).1.kernel
      (a.ensureAlias o ip).2 := by
  unfold ensureAlias
  simp only [hpod, if_true, clearPod]
  split
  · rename_i k err hclear
    obtain ⟨-, rfl⟩ := Kernel.clear_failed hclear
    exact .unchanged rfl rfl rfl (by simp)
  · rename_i k hclear
    obtain ⟨hc, rfl⟩ := Kernel.clear_done hclear
    split
    · rename_i k' err halias
      obtain ⟨ha, rfl⟩ := Kernel.aliasLo0_failed halias
      exact .cleared rfl rfl rfl hc (by simp [ha]) (by simp)
    · rename_i k' halias
      obtain ⟨-, rfl⟩ := Kernel.aliasLo0_done halias
      obtain ⟨hal, hlo0, hb, herr⟩ := ensureUTUN_frame { a with
        kernel := ⟨insert ip a.kernel.lo0, a.kernel.utun, a.kernel.blackholes.erase ip⟩
        aliased := a.aliased.insert ip .live
        pods := a.pods.add ip } o ip
      exact .aliased hal hlo0 hb herr

lemma blackhole_skip (hpod : isPodAddress a.nodePodCIDR ip = true) :
    a.blackhole o ip none false = (a, none) := by
  simp [blackhole, hpod]

lemma blackhole_effect (hpod : isPodAddress a.nodePodCIDR ip = true)
    {tracked : Option AliasState} {removed : Bool} (howed : tracked ≠ none ∨ removed = true)
    {k : Kernel} (hb : a.kernel.blackholes = k.blackholes)
    (hlo0 : a.kernel.lo0 = k.lo0 ∨ a.kernel.lo0 = k.lo0.erase ip) :
    RemoveEffect ip a.aliased (a.blackhole o ip tracked removed).1.aliased k
      (a.blackhole o ip tracked removed).1.kernel (a.blackhole o ip tracked removed).2 := by
  have hskip : (tracked.isNone && !removed) = false := by
    rcases howed with h | h
    · cases tracked with
      | none => exact absurd rfl h
      | some st => rfl
    · simp [h]
  have hframe : ∀ c : Prop, ∀ _ : Decidable c,
      (if c then { a with pods := a.pods.remove ip } else a).kernel = a.kernel ∧
        (if c then { a with pods := a.pods.remove ip } else a).aliased = a.aliased := by
    intro c _
    split <;> exact ⟨rfl, rfl⟩
  unfold blackhole
  simp only [hpod, hskip, Bool.not_true, Bool.false_eq_true, if_false, hframe]
  split
  · rename_i k' err hinstall
    have hsame := Kernel.install_failed hinstall
    subst hsame
    exact .pending rfl hlo0 hb (by simp)
  · rename_i k' hinstall
    obtain ⟨hgone, rfl⟩ := Kernel.install_done hinstall
    refine .blackholed rfl ?_ (by rw [hb]) rfl
    rcases hlo0 with hlo0 | hlo0
    · rw [hlo0] at hgone ⊢
      exact (Finset.erase_eq_of_notMem hgone).symm
    · exact hlo0

/-- The same effect as that of the direct manager. -/
lemma removeAlias_effect (hpod : isPodAddress a.nodePodCIDR ip = true) :
    RemoveEffect ip a.aliased (a.removeAlias o ip).1.aliased a.kernel
      (a.removeAlias o ip).1.kernel (a.removeAlias o ip).2 := by
  obtain ⟨hal, hcidr, hlo0, hb⟩ := removeUTUN_frame a o ip
  unfold removeAlias removeLo0
  rw [hal]
  split
  rename_i a' removed hremove
  split at hremove
  · rename_i hpend
    cases hremove
    rw [← hal]
    exact blackhole_effect (by rw [hcidr]; exact hpod) (.inl (by simp [hal, hpend])) hb (.inl hlo0)
  · split at hremove
    rename_i hlive k err hunalias
    cases hremove
    rcases Kernel.unaliasLo0_cases hunalias with ⟨herr, rfl⟩ | ⟨rfl, rfl⟩
    · cases htracked : a.aliased.lookup ip with
      | some st =>
        rw [← hal]
        exact blackhole_effect (by simp only [hcidr]; exact hpod) (.inl (by simp)) hb (.inl hlo0)
      | none =>
        have hsome : err.isNone = false := by
          cases err with
          | none => exact absurd rfl herr
          | some e => rfl
        rw [hsome, blackhole_skip (by simp only [hcidr]; exact hpod)]
        exact .unchanged rfl hlo0 hb fun _ => htracked
    · rw [← hal]
      exact blackhole_effect (a := { a.removeUTUN o ip with kernel :=
        { (a.removeUTUN o ip).kernel with lo0 := (a.removeUTUN o ip).kernel.lo0.erase ip } })
        (by simp only [hcidr]; exact hpod) (.inr rfl) hb (.inr (by simp only [hlo0]))

end DarwinApplier

end DarwinNet.Netd
