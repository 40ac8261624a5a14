import DarwinNet.Lib.Strings
import DarwinNet.Netd.Identity
import DarwinNet.Netip.Parse

/-!
The node identity across restarts of the daemon (`NewServer`, `restoreIdentity`,
`adoptNodePodCIDR`): it comes from the configuration, from the identity file or from a
`ConfigureMesh`.

The executor refuses to adopt anything but an IPv4 /24; the file is checked against the
aggregate only, and one with another length of prefix is taken over as it is
(`identity_restored_wide`). From a file that names a /24, or nothing usable, the identity is a
/24 of the aggregate for ever (`identity_always_node_range`).
-/

namespace DarwinNet.Netd

open Lib Netip Podnet
open Mesh (IsNodeRange isNodeRange_masked isNodeCIDR)

structure DaemonConfig where
  netd : Config
  nodePodCIDR : Prefix
  identityPath : Bool

structure FileOutcomes where
  read : Bool := true
  write : Bool := true

/-- A daemon and the content of its identity file; `none` is no file. -/
structure Daemon where
  server : Server
  file : Option String

namespace DaemonConfig

variable (dc : DaemonConfig) (o : FileOutcomes)

def restoreIdentity (file : Option String) : Option Prefix :=
  if !dc.identityPath then none
  else match file with
    | none => none
    | some raw =>
      if !o.read then none
      else match parsePrefix (String.ofList (trimSpace raw.toList)) with
        | none => none
        | some cidr =>
          if withinAggregate cidr.masked dc.netd.clusterAggregate then some cidr.masked else none

/-- `persistIdentity`: the rename leaves the old content or the new one. -/
def persistIdentity (file : Option String) (cidr : Prefix) : Option String :=
  if !dc.identityPath then file
  else if o.write then some (cidr.string ++ "\n")
  else file

def recordConfirmedIdentity (file : Option String) (cidr : Prefix) : Option String :=
  if dc.restoreIdentity o file = some cidr then file else dc.persistIdentity o file cidr

def startIdentity (file : Option String) : Prefix :=
  (dc.restoreIdentity o file).getD dc.nodePodCIDR.masked

/-- `NewServer` over a kernel; the interconnect entries are those it restored. -/
def newServer (file : Option String) (sweep : MeshOutcomes) (k : Kernel)
    (icOwned : GoMap Int Addr) : Server where
  nodePodCIDR := dc.startIdentity o file
  identityConfirmed := (dc.restoreIdentity o file).isSome
  aliases := ∅
  icOwned := icOwned
  meshRoutes := 0
  meshUp := false
  icMu := none
  mu := none
  conns := ∅
  priv :=
    { nodePodCIDR := dc.startIdentity o file, dev := none, meshUp := false, aliased := ∅
      pods := none
      kernel := DarwinApplier.sweepBlackholes { k with utun := ∅ } sweep (dc.startIdentity o file) }
  plumbed := ∅

def fileAfter (d : Daemon) : Label → Option String
  | .adoptCheck c =>
    match d.server.stage c with
    | .adopting want _ =>
      if d.server.nodePodCIDR = want then dc.recordConfirmedIdentity o d.file want else d.file
    | _ => d.file
  | .adoptWrite c =>
    match d.server.stage c with
    | .adoptSet want _ => dc.persistIdentity o d.file want
    | _ => d.file
  | _ => d.file

end DaemonConfig

inductive DaemonLabel
  | serve (a : Label) (o : FileOutcomes)
  | restart (o : FileOutcomes) (sweep : MeshOutcomes) (icOwned : GoMap Int Addr)

def restoredOwned (cfg : Config) (node : Prefix) (icOwned : GoMap Int Addr) : Bool :=
  icOwned.entries.all fun e => interconnectAddress cfg node e.1 = some e.2

def Daemon.step (dc : DaemonConfig) (d : Daemon) : DaemonLabel → Option Daemon
  | .serve a o =>
    match Netd.step dc.netd d.server a with
    | none => none
    | some t => some ⟨t, dc.fileAfter o d a⟩
  | .restart o sweep icOwned =>
    if restoredOwned dc.netd (dc.startIdentity o d.file) icOwned then
      some ⟨dc.newServer o d.file sweep d.server.priv.kernel icOwned, d.file⟩
    else none

def Daemon.Started (dc : DaemonConfig) (file : Option String) (d : Daemon) : Prop :=
  d.file = file ∧ ∃ o sweep k icOwned,
    restoredOwned dc.netd (dc.startIdentity o file) icOwned = true ∧
      d.server = dc.newServer o file sweep k icOwned

def daemonMachine (dc : DaemonConfig) (file : Option String) : Machine Daemon DaemonLabel where
  init := Daemon.Started dc file
  step := Daemon.step dc

/-! ## What the file gives back -/

namespace DaemonConfig

variable {dc : DaemonConfig} {o : FileOutcomes} {file : Option String}

lemma restoreIdentity_read {p : Prefix} (h : dc.restoreIdentity o file = some p) :
    dc.restoreIdentity {} file = some p := by
  unfold restoreIdentity at h ⊢
  split at h
  · cases h
  rename_i hpath
  rw [if_neg hpath]
  split at h
  · cases h
  · split at h
    · cases h
    · simpa using h

/-- The file is checked against the aggregate only. -/
lemma restoreIdentity_spec {p : Prefix} (h : dc.restoreIdentity o file = some p) :
    p.masked = p ∧ withinAggregate p dc.netd.clusterAggregate = true := by
  unfold restoreIdentity at h
  (repeat' split at h) <;> cases h
  next hwithin => exact ⟨Prefix.masked_masked _, hwithin⟩

lemma parse_persisted {cidr : Prefix} (h : IsNodeRange cidr) :
    parsePrefix (String.ofList (trimSpace (cidr.string ++ "\n").toList)) = some cidr := by
  obtain ⟨base, -, rfl⟩ := h
  have hdigit : ∀ d < 10, isSpace d.digitChar = false := by decide
  have hspace : ∀ c ∈ (Prefix.v4 base 24).string.toList, isSpace c = false := by
    intro c hc
    rcases mem_string_v4 hc with rfl | rfl | ⟨d, hd, rfl⟩
    · rfl
    · rfl
    · exact hdigit d hd
  have htrim : trimSpace ((Prefix.v4 base 24).string ++ "\n").toList =
      (Prefix.v4 base 24).string.toList := by
    rw [String.toList_append]
    refine trimSpace_append hspace ?_
    intro c hc
    have hnl : c = '\n' := by simpa using hc
    rw [hnl]
    rfl
  rw [htrim, String.ofList_toList]
  exact parsePrefix_string (by omega)

end DaemonConfig

lemma is4_of_withinAggregate {node p aggregate : Prefix} (hnode : IsNodeRange node)
    (hin : withinAggregate node aggregate = true) (h : withinAggregate p aggregate = true) :
    p.ip.is4 = true := by
  obtain ⟨base, -, rfl⟩ := hnode
  simp only [withinAggregate, Bool.and_eq_true] at hin h
  have hagg := hin.1
  have hp := h.1
  unfold Prefix.contains at hagg hp
  split_ifs at hagg
  split_ifs at hp
  cases hip : aggregate.ip with
  | zero => simp [hip] at hp
  | v6 y zone => simp [hip, Prefix.v4] at hagg
  | v4 y =>
    cases hq : p.ip with
    | zero => simp [hip, hq] at hp
    | v6 z zone => simp [hip, hq] at hp
    | v4 z => rfl

namespace Daemon

/-- A /24 of the aggregate. -/
def NodeIn (dc : DaemonConfig) (p : Prefix) : Prop :=
  IsNodeRange p ∧ withinAggregate p dc.netd.clusterAggregate = true

/-- The identity is a /24 of the aggregate, and the file would restore one. -/
structure Inv (dc : DaemonConfig) (d : Daemon) : Prop where
  base : Base dc.netd d.server
  node : NodeIn dc d.server.nodePodCIDR
  file : ∀ p, dc.restoreIdentity {} d.file = some p → IsNodeRange p

namespace Inv

variable {dc : DaemonConfig} {d d' : Daemon} {o : FileOutcomes} {file : Option String}

lemma nodeIn_startIdentity (hconf : NodeIn dc dc.nodePodCIDR.masked)
    (hfile : ∀ p, dc.restoreIdentity {} file = some p → IsNodeRange p) :
    NodeIn dc (dc.startIdentity o file) := by
  unfold DaemonConfig.startIdentity
  cases hr : dc.restoreIdentity o file with
  | none => exact hconf
  | some p =>
    exact ⟨hfile p (DaemonConfig.restoreIdentity_read hr), (DaemonConfig.restoreIdentity_spec hr).2⟩

lemma started_newServer {sweep : MeshOutcomes} {k : Kernel} {icOwned : GoMap Int Addr}
    (hnode : NodeIn dc (dc.startIdentity o file))
    (hown : restoredOwned dc.netd (dc.startIdentity o file) icOwned = true) :
    Netd.Started dc.netd (dc.newServer o file sweep k icOwned) := by
  refine ⟨rfl, rfl, rfl, ⟨rfl, rfl⟩, ⟨rfl, rfl⟩, hnode.1.masked_eq, ⟨rfl, rfl, rfl, rfl⟩, ?_⟩
  intro slot addr h
  have hmem := List.all_eq_true.mp hown _ (GoMap.mem_entries_of_lookup h)
  exact of_decide_eq_true hmem

lemma boot (hconf : NodeIn dc dc.nodePodCIDR.masked)
    (hfile : ∀ p, dc.restoreIdentity {} file = some p → IsNodeRange p)
    {sweep : MeshOutcomes} {k : Kernel} {icOwned : GoMap Int Addr}
    (hown : restoredOwned dc.netd (dc.startIdentity o file) icOwned = true) :
    Inv dc ⟨dc.newServer o file sweep k icOwned, file⟩ := by
  have hnode : NodeIn dc (dc.startIdentity o file) := nodeIn_startIdentity hconf hfile
  exact ⟨.init (started_newServer hnode hown), hnode, hfile⟩

lemma file_persist (hs : Inv dc d) {cidr : Prefix} (hcidr : IsNodeRange cidr) :
    ∀ p, dc.restoreIdentity {} (dc.persistIdentity o d.file cidr) = some p → IsNodeRange p := by
  intro p h
  unfold DaemonConfig.persistIdentity at h
  split at h
  · exact hs.file p h
  rename_i hpath
  split at h
  · unfold DaemonConfig.restoreIdentity at h
    rw [if_neg hpath] at h
    simp only [Bool.not_true, Bool.false_eq_true, if_false, DaemonConfig.parse_persisted hcidr] at h
    split_ifs at h
    cases h
    rw [hcidr.masked_eq]
    exact hcidr
  · exact hs.file p h

lemma file_after (hs : Inv dc d) (a : Label) :
    ∀ p, dc.restoreIdentity {} (dc.fileAfter o d a) = some p → IsNodeRange p := by
  unfold DaemonConfig.fileAfter
  split
  · rename_i c
    split
    · rename_i want args hstage
      split
      · rename_i heq
        unfold DaemonConfig.recordConfirmedIdentity
        split
        · exact hs.file
        · exact hs.file_persist (heq ▸ hs.node.1)
      · exact hs.file
    · exact hs.file
  · rename_i c
    split
    · rename_i want args hstage
      have hmoved : (d.server.stage c).moved? = some want := by
        rw [hstage]
        rfl
      have hmasked := (hs.base.want c want (Stage.want_of_moved hmoved)).1
      have hnode := (hs.base.moved c want hmoved).2
      rw [← hmasked] at hnode
      exact hs.file_persist (hmasked ▸ isNodeRange_masked hnode)
    · exact hs.file
  · exact hs.file

lemma node_after (hs : Inv dc d) {a : Label} {t : Server}
    (h : StepCase dc.netd d.server a t) : NodeIn dc t.nodePodCIDR := by
  by_cases hsame : t.nodePodCIDR = d.server.nodePodCIDR
  · rw [hsame]
    exact hs.node
  obtain ⟨-, -, c, want, hmoved, hwant⟩ := h.adoptWrite_of_ne hsame
  obtain ⟨hmasked, hwithin⟩ := hs.base.want c want (Stage.want_of_moved hmoved)
  have hnode := (hs.base.moved c want hmoved).2
  rw [← hmasked] at hnode
  rw [hwant]
  exact ⟨hmasked ▸ isNodeRange_masked hnode, hwithin⟩

lemma step (hconf : NodeIn dc dc.nodePodCIDR.masked) {l : DaemonLabel} (hs : Inv dc d)
    (h : d.step dc l = some d') : Inv dc d' := by
  cases l with
  | serve a o =>
    simp only [Daemon.step] at h
    split at h
    · cases h
    rename_i t ht
    cases h
    have hcase := step_cases ht
    exact ⟨hs.base.step hcase, hs.node_after hcase, hs.file_after a⟩
  | restart o sweep icOwned =>
    simp only [Daemon.step] at h
    split_ifs at h with hown
    cases h
    exact boot hconf hs.file hown

end Inv

/-- From a configuration in the aggregate and a file that names a /24 or nothing usable, the
identity is a /24 of the aggregate through every restart and adoption, and the executor's is the
same. -/
theorem identity_always_node_range {dc : DaemonConfig} {file : Option String} {d : Daemon}
    (hnode : isNodeCIDR dc.nodePodCIDR.masked = true)
    (hin : withinAggregate dc.nodePodCIDR.masked dc.netd.clusterAggregate = true)
    (hfile : ∀ p, dc.restoreIdentity {} file = some p → p.bits = 24)
    (h : (daemonMachine dc file).Reach Machine.always d) (hmu : d.server.mu = none) :
    IsNodeRange d.server.nodePodCIDR ∧
      withinAggregate d.server.nodePodCIDR dc.netd.clusterAggregate = true ∧
      d.server.priv.nodePodCIDR = d.server.nodePodCIDR := by
  have hconf : NodeIn dc dc.nodePodCIDR.masked := ⟨isNodeRange_masked hnode, hin⟩
  have hrange : ∀ p, dc.restoreIdentity {} file = some p → IsNodeRange p := by
    intro p hp
    obtain ⟨hmasked, hwithin⟩ := DaemonConfig.restoreIdentity_spec hp
    have h4 := is4_of_withinAggregate hconf.1 hin hwithin
    have hcidr : isNodeCIDR p.masked = true := by
      rw [hmasked]
      simp [isNodeCIDR, h4, hfile p hp, Mesh.nodeCIDRBits]
    exact hmasked ▸ isNodeRange_masked hcidr
  have hinv : Inv dc d := by
    refine h.invariant ?_ ?_
    · rintro ⟨server, f⟩ ⟨hf, o, sweep, k, icOwned, hown, hserver⟩
      change f = file at hf
      change server = _ at hserver
      rw [hf, hserver]
      exact .boot hconf hrange hown
    · intro d l d' hs _ hst
      exact hs.step hconf hst
  exact ⟨hinv.node.1, hinv.node.2, hinv.base.priv_eq hmu⟩

/-! ## A file that names a wider prefix -/

def labDaemonConfig : DaemonConfig := ⟨labConfig, Prefix.v4 0x0a2a0000 24, true⟩

def labDaemon (file : Option String) : Daemon :=
  ⟨labDaemonConfig.newServer {} file {} ⟨∅, ∅, ∅⟩ ∅, file⟩

lemma started_labDaemon (file : Option String) :
    Daemon.Started labDaemonConfig file (labDaemon file) :=
  ⟨rfl, {}, {}, ⟨∅, ∅, ∅⟩, ∅, rfl, rfl⟩

/-- A /20 in the file is restored as the identity. -/
theorem identity_restored_wide : ∃ d,
    (daemonMachine labDaemonConfig (some "10.42.0.0/20")).Reach Machine.always d ∧
      d.server.mu = none ∧ d.server.nodePodCIDR = Prefix.v4 0x0a2a0000 20 ∧
      ¬ IsNodeRange d.server.nodePodCIDR := by
  have hnode : (labDaemon (some "10.42.0.0/20")).server.nodePodCIDR = Prefix.v4 0x0a2a0000 20 := by
    decide +kernel
  refine ⟨_, .init (started_labDaemon _), rfl, hnode, ?_⟩
  rw [hnode]
  rintro ⟨base, -, heq⟩
  cases heq

def readoptSteps : List DaemonLabel :=
  (adoptSteps 1).map (fun a => .serve a {}) ++ [.restart {} {} ∅]

theorem identity_always_node_range_restarted : ∃ d,
    (daemonMachine labDaemonConfig (some "10.42.2.0/24\n")).Reach Machine.always d ∧
      d.server.nodePodCIDR = Prefix.v4 0x0a2a0100 24 ∧ IsNodeRange d.server.nodePodCIDR := by
  obtain ⟨d, hreach, hmu, hnode⟩ :
      ∃ d, (daemonMachine labDaemonConfig (some "10.42.2.0/24\n")).Reach Machine.always d ∧
        d.server.mu = none ∧ d.server.nodePodCIDR = Prefix.v4 0x0a2a0100 24 :=
    Machine.Reach.exists_run readoptSteps (started_labDaemon _) (Machine.meets_always _ _)
      (by decide +kernel)
  have hfile : labDaemonConfig.restoreIdentity {} (some "10.42.2.0/24\n") =
      some (Prefix.v4 0x0a2a0200 24) := by
    decide +kernel
  refine ⟨d, hreach, hnode, (identity_always_node_range (by decide) (by decide) ?_ hreach hmu).1⟩
  intro p hp
  cases hfile.symm.trans hp
  rfl

end Daemon

end DarwinNet.Netd
