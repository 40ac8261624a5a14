import DarwinNet.Lib.Machine
import DarwinNet.Netd.Executor

/-!
The configuration of the mesh device (`applier.go`): which private key, listen port and addresses
the device was built with that `ConfigureMesh` brings up.

`ConfigureMesh` builds a device only if there is none, and a device survives a failed `Up` and
`RemoveMesh`; only `SetNodePodCIDR` drops it. So the addresses are always the current ones, and
the key and port are those of the call exactly if no device of another key or port is kept
(`mesh_up_with_asked_key`).
-/

namespace DarwinNet.Netd

open Lib Netip Podnet

def broadcastInSlash24 (network : Addr) : Addr := .v4 (as4 network ||| 255#32)

def meshLinkIP (nodeCIDR : Prefix) : Option Addr :=
  if !nodeCIDR.isValid || !nodeCIDR.ip.is4 || nodeCIDR.bits != nodeCIDRBits then none
  else some (broadcastInSlash24 nodeCIDR.masked.ip)

/-- `mesh.DeviceConfig`, without the requested name of the utun, which is constant. -/
structure DeviceConfig where
  privateKeyB64 : String
  listenPort : Int
  meshIP : Addr
  linkIP : Addr
  nodePodCIDR : Prefix
  deriving DecidableEq

/-- The executor with its two mesh addresses and the configuration of its device. -/
structure KeyedApplier where
  priv : DarwinApplier
  meshIP : Option Addr
  linkIP : Option Addr
  config : Option DeviceConfig

namespace KeyedApplier

/-- The device `ConfigureMesh` goes on with: the one there is, or a new one. -/
def buildDevice (a : KeyedApplier) (privKeyB64 : String) (listenPort : Int) :
    Option DeviceConfig :=
  match a.config, a.meshIP, a.linkIP with
  | some config, _, _ => some config
  | none, some meshIP, some linkIP =>
    some ⟨privKeyB64, listenPort, meshIP, linkIP, a.priv.nodePodCIDR⟩
  | none, _, _ => none

def configureMesh (a : KeyedApplier) (privKeyB64 : String) (listenPort : Int)
    (o : MeshOutcomes) : KeyedApplier :=
  { a with
    priv := (a.priv.configureMesh o).1
    config := a.buildDevice privKeyB64 listenPort }

def removeMesh (a : KeyedApplier) (o : MeshOutcomes) : KeyedApplier :=
  { a with priv := (a.priv.removeMesh o).1 }

def setNodePodCIDR (a : KeyedApplier) (cidr : Prefix) (o : MeshOutcomes) : KeyedApplier :=
  match a.priv.setNodePodCIDR o cidr with
  | (priv, some _) => { a with priv := priv }
  | (priv, none) => ⟨priv, meshEgressIP cidr, meshLinkIP cidr, none⟩

def new (nodePodCIDR : Prefix) (kernel : Kernel) : KeyedApplier where
  priv := { nodePodCIDR := nodePodCIDR, dev := none, meshUp := false, aliased := ∅, pods := none,
            kernel := kernel }
  meshIP := meshEgressIP nodePodCIDR
  linkIP := meshLinkIP nodePodCIDR
  config := none

end KeyedApplier

inductive MeshCall
  | configureMesh (privKeyB64 : String) (listenPort : Int) (o : MeshOutcomes)
  | removeMesh (o : MeshOutcomes)
  | setNodePodCIDR (cidr : Prefix) (o : MeshOutcomes)

def meshCalls : Machine KeyedApplier MeshCall where
  init a := ∃ cidr kernel, a = .new cidr kernel
  step a
    | .configureMesh privKeyB64 listenPort o => some (a.configureMesh privKeyB64 listenPort o)
    | .removeMesh o => some (a.removeMesh o)
    | .setNodePodCIDR cidr o => some (a.setNodePodCIDR cidr o)

/-! ## What the calls do to the device -/

lemma isNone_meshLinkIP (cidr : Prefix) :
    (meshLinkIP cidr).isNone = (meshEgressIP cidr).isNone := by
  unfold meshLinkIP meshEgressIP
  split <;> rfl

namespace DarwinApplier

variable (a : DarwinApplier) (o : MeshOutcomes)

lemma reconcileUTUNAliases_sameMesh : a.SameMesh (a.reconcileUTUNAliases o).1 := by
  unfold reconcileUTUNAliases
  split <;> exact ⟨rfl, rfl, rfl⟩

lemma bringUp_mesh (hdev : a.dev.isSome = true) :
    (a.bringUp o).1.nodePodCIDR = a.nodePodCIDR ∧ (a.bringUp o).1.dev.isSome = true := by
  unfold bringUp
  split
  · exact ⟨rfl, hdev⟩
  · split
    · exact ⟨rfl, hdev⟩
    · exact ⟨rfl, rfl⟩

lemma configureMesh_mesh : (a.configureMesh o).1.nodePodCIDR = a.nodePodCIDR ∧
      (a.configureMesh o).1.dev.isSome = (a.dev.isSome || (meshEgressIP a.nodePodCIDR).isSome) ∧
      ((a.configureMesh o).1.dev.isSome = false → (a.configureMesh o).1.meshUp = a.meshUp) := by
  unfold configureMesh
  simp only
  split
  · next hnone =>
    simp only [Bool.and_eq_true, Option.isNone_iff_eq_none] at hnone
    simp [hnone.1, hnone.2]
  next hbuilt =>
  have hany : (a.dev.isSome || (meshEgressIP a.nodePodCIDR).isSome) = true := by
    cases hd : a.dev <;> cases he : meshEgressIP a.nodePodCIDR <;> simp_all
  -- the device after the build
  obtain ⟨b, hb, hcidr, hdev⟩ : ∃ b, b = (if ({ a with pods := a.seedPods o }).dev.isNone then
      { ({ a with pods := a.seedPods o }) with dev := some "" }
      else { a with pods := a.seedPods o }) ∧ b.nodePodCIDR = a.nodePodCIDR ∧
        b.dev.isSome = true := by
    refine ⟨_, rfl, ?_, ?_⟩
    · split <;> rfl
    · split
      · rfl
      · next hsome => simpa [Option.isSome_iff_ne_none] using hsome
  rw [← hb]
  obtain ⟨hcidr', hdev'⟩ := b.bringUp_mesh o hdev
  generalize b.bringUp o = r at hcidr' hdev' ⊢
  obtain ⟨c, err⟩ := r
  simp only at hcidr' hdev'
  cases err with
  | some err =>
    rw [hany]
    exact ⟨hcidr'.trans hcidr, hdev', fun h => absurd (h.symm.trans hdev') (by simp)⟩
  | none =>
    have hsame := c.reconcileUTUNAliases_sameMesh o
    rw [hany]
    refine ⟨hsame.nodePodCIDR.trans (hcidr'.trans hcidr), ?_, ?_⟩
    · rw [hsame.dev]
      exact hdev'
    · intro h
      rw [hsame.dev, hdev'] at h
      cases h

lemma removeMesh_mesh :
    (a.removeMesh o).1.nodePodCIDR = a.nodePodCIDR ∧ (a.removeMesh o).1.dev = a.dev := by
  unfold removeMesh
  split
  · exact ⟨rfl, rfl⟩
  · split <;> exact ⟨rfl, rfl⟩

lemma setNodePodCIDR_mesh (cidr : Prefix) :
    ((a.setNodePodCIDR o cidr).2 ≠ none → (a.setNodePodCIDR o cidr).1 = a) ∧
      ((a.setNodePodCIDR o cidr).2 = none → (a.setNodePodCIDR o cidr).1.nodePodCIDR = cidr ∧
          (a.setNodePodCIDR o cidr).1.dev = none) := by
  unfold setNodePodCIDR
  split
  · simp
  split
  · simp
  · simp only
    split
    · next heq => simp
    · simp

end DarwinApplier

/-- The addresses are those of the identity, there is a configuration exactly if there is a
device, and it has those addresses. -/
structure DeviceBuilt (a : KeyedApplier) : Prop where
  meshIP : a.meshIP = meshEgressIP a.priv.nodePodCIDR
  linkIP : a.linkIP = meshLinkIP a.priv.nodePodCIDR
  device : a.config.isSome = a.priv.dev.isSome
  addresses : ∀ config, a.config = some config → some config.meshIP = a.meshIP ∧
    some config.linkIP = a.linkIP ∧ config.nodePodCIDR = a.priv.nodePodCIDR

variable {a : KeyedApplier}

lemma buildDevice_addresses {key : String} {port : Int} {config : DeviceConfig}
    (h : DeviceBuilt a) (hbuild : a.buildDevice key port = some config) :
    some config.meshIP = a.meshIP ∧ some config.linkIP = a.linkIP ∧
      config.nodePodCIDR = a.priv.nodePodCIDR := by
  unfold KeyedApplier.buildDevice at hbuild
  split at hbuild
  · next config' hconfig =>
    cases hbuild
    exact h.addresses _ hconfig
  · next hmesh hlink =>
    cases hbuild
    exact ⟨hmesh.symm, hlink.symm, rfl⟩
  · cases hbuild

lemma isSome_buildDevice (h : DeviceBuilt a) (key : String) (port : Int) :
    (a.buildDevice key port).isSome =
      (a.priv.dev.isSome || (meshEgressIP a.priv.nodePodCIDR).isSome) := by
  have hlink := isNone_meshLinkIP a.priv.nodePodCIDR
  rw [← h.meshIP, ← h.linkIP] at hlink
  rw [← h.meshIP, ← h.device]
  unfold KeyedApplier.buildDevice
  cases hc : a.config <;> cases hm : a.meshIP <;> cases hl : a.linkIP <;> simp_all

/-- The device kept in any run was built for the identity in force. -/
lemma deviceBuilt_reach (h : meshCalls.Reach Machine.always a) : DeviceBuilt a := by
  refine h.invariant ?_ ?_
  · rintro a ⟨cidr, kernel, rfl⟩
    exact ⟨rfl, rfl, rfl, fun config hc => by cases hc⟩
  intro a call a' hbuilt _ hstep
  cases call with
  | configureMesh key port o =>
    cases hstep
    obtain ⟨hcidr, hdev, -⟩ := a.priv.configureMesh_mesh o
    refine ⟨?_, ?_, ?_, ?_⟩
    · exact hbuilt.meshIP.trans (congrArg meshEgressIP hcidr.symm)
    · exact hbuilt.linkIP.trans (congrArg meshLinkIP hcidr.symm)
    · exact (isSome_buildDevice hbuilt key port).trans hdev.symm
    · intro config hc
      obtain ⟨hmesh, hlink, hnode⟩ := buildDevice_addresses hbuilt hc
      exact ⟨hmesh, hlink, hnode.trans hcidr.symm⟩
  | removeMesh o =>
    cases hstep
    obtain ⟨hcidr, hdev⟩ := a.priv.removeMesh_mesh o
    refine ⟨?_, ?_, ?_, ?_⟩
    · exact hbuilt.meshIP.trans (congrArg meshEgressIP hcidr.symm)
    · exact hbuilt.linkIP.trans (congrArg meshLinkIP hcidr.symm)
    · exact hbuilt.device.trans (congrArg Option.isSome hdev.symm)
    · intro config hc
      obtain ⟨hmesh, hlink, hnode⟩ := hbuilt.addresses config hc
      exact ⟨hmesh, hlink, hnode.trans hcidr.symm⟩
  | setNodePodCIDR cidr o =>
    cases hstep
    obtain ⟨hfailed, hset⟩ := a.priv.setNodePodCIDR_mesh o cidr
    unfold KeyedApplier.setNodePodCIDR
    cases hcall : a.priv.setNodePodCIDR o cidr with
    | mk priv err =>
      rw [hcall] at hfailed hset
      cases err with
      | some err =>
        have hsame : priv = a.priv := hfailed (by simp)
        rw [hsame]
        exact hbuilt
      | none =>
        obtain ⟨hcidr, hdev⟩ := hset rfl
        simp only at hcidr hdev
        refine ⟨?_, ?_, ?_, fun config hc => by cases hc⟩
        · exact congrArg meshEgressIP hcidr.symm
        · exact congrArg meshLinkIP hcidr.symm
        · simp [hdev]

/-! ## The device that comes up -/

/-- The configuration that a call asks for. -/
def asksFor (a : KeyedApplier) (key : String) (port : Int) (config : DeviceConfig) : Prop :=
  config.privateKeyB64 = key ∧ config.listenPort = port ∧
    some config.meshIP = meshEgressIP a.priv.nodePodCIDR ∧
    some config.linkIP = meshLinkIP a.priv.nodePodCIDR ∧ config.nodePodCIDR = a.priv.nodePodCIDR

/-- A mesh that comes up has the key and port it was asked for exactly if the device it keeps, if
any, has them. -/
theorem mesh_up_with_asked_key (a : KeyedApplier) (key : String) (port : Int) (o : MeshOutcomes)
    (hreach : meshCalls.Reach Machine.always a) (hdown : a.priv.meshUp = false)
    (hup : (a.configureMesh key port o).priv.meshUp = true) :
    (∃ config, (a.configureMesh key port o).config = some config ∧ asksFor a key port config) ↔
      ∀ kept, a.config = some kept → kept.privateKeyB64 = key ∧ kept.listenPort = port := by
  have hbuilt := deviceBuilt_reach hreach
  obtain ⟨-, hdev, hnone⟩ := a.priv.configureMesh_mesh o
  have hsome : (a.buildDevice key port).isSome = true := by
    rw [isSome_buildDevice hbuilt, ← hdev]
    by_contra hfalse
    have hsame := hnone (by simpa using hfalse)
    have hup' : (a.priv.configureMesh o).1.meshUp = true := hup
    rw [hsame, hdown] at hup'
    cases hup'
  obtain ⟨config, hconfig⟩ := Option.isSome_iff_exists.mp hsome
  obtain ⟨hmesh, hlink, hcidr⟩ := buildDevice_addresses hbuilt hconfig
  have hconfig' : (a.configureMesh key port o).config = some config := hconfig
  constructor
  · rintro ⟨config', hc, hkey, hport, -⟩ kept hkept
    have hsame : a.buildDevice key port = some kept := by simp [KeyedApplier.buildDevice, hkept]
    cases hc.symm.trans (show (a.configureMesh key port o).config = some kept from hsame)
    exact ⟨hkey, hport⟩
  · intro hkept
    refine ⟨config, hconfig', ?_⟩
    have hkey : config.privateKeyB64 = key ∧ config.listenPort = port := by
      have hbuild := hconfig
      unfold KeyedApplier.buildDevice at hbuild
      split at hbuild
      · next config' hold =>
        cases hbuild
        exact hkept _ hold
      · cases hbuild
        exact ⟨rfl, rfl⟩
      · cases hbuild
    exact ⟨hkey.1, hkey.2, hmesh.trans hbuilt.meshIP, hlink.trans hbuilt.linkIP, hcidr⟩

/-! ## A fresh executor, and a rotated key -/

def freshApplier : KeyedApplier := .new (.v4 0x64400100#32 24) ⟨∅, ∅, ∅⟩

theorem fresh_mesh_up_with_asked_key :
    ∃ config, (freshApplier.configureMesh "key" 51820 {}).config = some config ∧
      asksFor freshApplier "key" 51820 config := by
  refine (mesh_up_with_asked_key freshApplier "key" 51820 {} (.init ⟨_, _, rfl⟩) rfl ?_).mpr ?_
  · decide +kernel
  · intro kept hkept
    cases hkept

def removedApplier : KeyedApplier := (freshApplier.configureMesh "old" 51820 {}).removeMesh {}

lemma reach_removedApplier : meshCalls.Reach Machine.always removedApplier :=
  .step (.removeMesh {}) (.step (.configureMesh "old" 51820 {}) (.init ⟨_, _, rfl⟩) trivial rfl)
    trivial rfl

/-- A mesh configured again with a new key comes up with the old one. -/
theorem rotated_key_not_used :
    meshCalls.Reach Machine.always removedApplier ∧ removedApplier.priv.meshUp = false ∧
    (removedApplier.configureMesh "new" 51821 {}).priv.meshUp = true ∧
    ((removedApplier.configureMesh "new" 51821 {}).config.map fun config =>
      (config.privateKeyB64, config.listenPort)) = some ("old", 51820) ∧
    ¬ ∃ config, (removedApplier.configureMesh "new" 51821 {}).config = some config ∧
      asksFor removedApplier "new" 51821 config := by
  have hconfig : ((removedApplier.configureMesh "new" 51821 {}).config.map fun config =>
      (config.privateKeyB64, config.listenPort)) = some ("old", 51820) := by
    decide +kernel
  refine ⟨reach_removedApplier, by decide +kernel, by decide +kernel, hconfig, ?_⟩
  rintro ⟨config, hc, hkey, -⟩
  rw [hc, Option.map_some, Option.some.injEq, Prod.mk.injEq, hkey] at hconfig
  exact absurd hconfig.1 (by decide)

end DarwinNet.Netd
