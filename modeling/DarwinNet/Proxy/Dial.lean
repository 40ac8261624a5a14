import DarwinNet.Proxy.Affinity
import DarwinNet.Proxy.PodRelay
import DarwinNet.Proxy.Policy

/-!
Where a connection to a Service goes: `transportAddr` (`routing.go`) replaces the published
address of a picked backend by the live address of its override, at the dials of `handle`
(`proxy.go`) and of `upstreamFor` (`udprelay.go`).

The relay of the same pod refuses an override that does not lead to a guest of the vmnet
segment (`RelayConfig.refusal`); the dials check nothing, so what a guest reports as its lease
is dialed (`dial_of_refused_lease`). That a lease is one of the segment, and of one pod only, is
the feeder's obligation (`GuestLeases`).
-/

namespace DarwinNet.Proxy

open Lib Netip Api

/-- The address a dial of a published address uses; the port stays. -/
def RoutingTable.transportAddr (t : RoutingTable) (published : AddrPort) : AddrPort :=
  match t.snap.transport.lookup published.addr.unmap with
  | none => published
  | some tr => ⟨tr.live, published.port⟩

/-- `handle` up to its dial: the backend and where it is dialed, if the connection is not
dropped. -/
def RoutingTable.handle (t : RoutingTable) (policy : Option PolicyTable) (key : PortKey)
    (src : Addr) (external : Bool) (now : Int) (victim : Nat) :
    RoutingTable × Option (Backend × AddrPort) :=
  match (if external then t.pickStickyCluster key src now victim
    else t.pickSticky key src now victim) with
  | (t, .error _) => (t, none)
  | (t, .ok be) =>
    if PolicyTable.allow policy src be.addr.addr be.addr.port then
      (t, some (be, t.transportAddr be.addr))
    else (t, none)

/-- `upstreamFor` from its pick to its dial. -/
def RoutingTable.upstreamDial (t : RoutingTable) (policy : Option PolicyTable) (key : PortKey)
    (srcIP : Addr) : RoutingTable × Option (Backend × AddrPort) :=
  match t.pick key with
  | (t, .error _) => (t, none)
  | (t, .ok be) =>
    if PolicyTable.allow policy srcIP be.addr.addr be.addr.port then
      (t, some (be, t.transportAddr be.addr))
    else (t, none)

/-- A dial of the backend picked for a TCP connection or a UDP flow; it leaves the table `t'`. -/
inductive Dials (t : RoutingTable) (be : Backend) (dst : AddrPort) (t' : RoutingTable) : Prop
  | tcp (policy : Option PolicyTable) (key : PortKey) (src : Addr) (external : Bool) (now : Int)
      (victim : Nat) : t.handle policy key src external now victim = (t', some (be, dst)) →
    Dials t be dst t'
  | udp (policy : Option PolicyTable) (key : PortKey) (srcIP : Addr) :
    t.upstreamDial policy key srcIP = (t', some (be, dst)) → Dials t be dst t'

/-- The dial goes to the published address, which has no override, or to the live address of
an override that the relay admits: an address of the segment that no other pod reports. -/
def AdmittedDial (cfg : RelayConfig) (transport : GoMap Addr VMPodTransport)
    (published dst : AddrPort) : Prop :=
  (transport.lookup published.addr.unmap = none ∧ dst = published) ∨
    ∃ tr, transport.lookup published.addr.unmap = some tr ∧ dst = ⟨tr.live, published.port⟩ ∧
      cfg.refusal published.addr.unmap tr.live (liveClaims transport tr.live) = none ∧
      cfg.vmnet.contains tr.live = true ∧ (cfg.gateway.isValid = true → tr.live ≠ cfg.vmnet.ip) ∧
      tr.live ≠ cfg.gateway ∧ tr.live ≠ cfg.broadcast ∧ tr.live ≠ published.addr.unmap ∧
      ∀ p tr', transport.lookup p = some tr' → tr'.live = tr.live → p = published.addr.unmap

/-! ## Leases of the segment -/

/-- A host address of the vmnet segment, other than its gateway. -/
structure GuestAddress (cfg : RelayConfig) (live : Addr) : Prop where
  valid : cfg.vmnet.isValid = true
  inside : cfg.vmnet.contains live = true
  network : cfg.gateway.isValid = true ∨ cfg.vmnet.bits ≤ 30 → live ≠ cfg.vmnet.ip
  gateway : live ≠ cfg.gateway
  broadcast : live ≠ cfg.broadcast

/-- What the feeder passes on: valid entries name guests of the segment, by addresses that
are not their published ones, and two pods never have the same. -/
def GuestLeases (cfg : RelayConfig) (overrides : GoMap Addr VMPodTransport) : Prop :=
  ∀ e ∈ overrides.entries, e.1.isValid = true → e.2.live.isValid = true →
    GuestAddress cfg e.2.live.unmap ∧ e.2.live.unmap ≠ e.1.unmap ∧
      ∀ e' ∈ overrides.entries, e'.1.isValid = true → e'.2.live.isValid = true →
        e'.2.live.unmap = e.2.live.unmap → e'.1.unmap = e.1.unmap

/-- The overrides of the last call of `SetTransportOverrides` among `ops`. -/
def lastFed (overrides : GoMap Addr VMPodTransport) : List TableOp → GoMap Addr VMPodTransport
  | [] => overrides
  | .setTransportOverrides fed :: ops => lastFed fed ops
  | _ :: ops => lastFed overrides ops

/-- The dial goes where the feeder said: to the lease of a valid entry for the published address,
or to that address itself if it has none. -/
def FedDial (overrides : GoMap Addr VMPodTransport) (published dst : AddrPort) : Prop :=
  ((∀ e ∈ overrides.entries, e.1.isValid = true → e.2.live.isValid = true →
      e.1.unmap ≠ published.addr.unmap) ∧ dst = published) ∨
    ∃ e ∈ overrides.entries, e.1.isValid = true ∧ e.2.live.isValid = true ∧
      e.1.unmap = published.addr.unmap ∧ dst = ⟨e.2.live.unmap, published.port⟩

/-- Every override leads to a guest of its own. -/
def Leased (cfg : RelayConfig) (transport : GoMap Addr VMPodTransport) : Prop :=
  ∀ p tr, transport.lookup p = some tr → GuestAddress cfg tr.live ∧ tr.live ≠ p ∧
      ∀ q tr', transport.lookup q = some tr' → tr'.live = tr.live → q = p

section

variable {cfg : RelayConfig} {transport : GoMap Addr VMPodTransport}

lemma entry_of_normalizeOverrides {overrides : GoMap Addr VMPodTransport} {p : Addr}
    {tr : VMPodTransport} (h : (normalizeOverrides overrides).lookup p = some tr) :
    ∃ e ∈ overrides.entries, e.1.isValid = true ∧ e.2.live.isValid = true ∧ e.1.unmap = p ∧
      e.2.live.unmap = tr.live := by
  rw [normalizeOverrides, GoMap.lookup_insertAll, AList.lookup_empty, Option.or_none] at h
  obtain ⟨e, he, hsome⟩ := List.mem_filterMap.mp (GoMap.mem_of_lastWrite h)
  split_ifs at hsome with hvalid
  simp only [Bool.or_eq_true, Bool.not_eq_true', not_or, Bool.not_eq_false] at hvalid
  cases hsome
  exact ⟨e, he, hvalid.1, hvalid.2, rfl, rfl⟩

lemma lookup_normalizeOverrides_eq_none {overrides : GoMap Addr VMPodTransport} {p : Addr} :
    (normalizeOverrides overrides).lookup p = none ↔ ∀ e ∈ overrides.entries,
      e.1.isValid = true → e.2.live.isValid = true → e.1.unmap ≠ p := by
  rw [normalizeOverrides, GoMap.lookup_insertAll, AList.lookup_empty, Option.or_none,
    GoMap.lastWrite_eq_none]
  constructor
  · intro h e he hpub hlive
    exact h (e.1.unmap, ⟨e.2.live.unmap, normalizePorts e.2.ports⟩)
      (List.mem_filterMap.mpr ⟨e, he, by simp [hpub, hlive]⟩)
  · intro h x hx
    obtain ⟨e, he, hsome⟩ := List.mem_filterMap.mp hx
    split_ifs at hsome with hvalid
    simp only [Bool.or_eq_true, Bool.not_eq_true', not_or, Bool.not_eq_false] at hvalid
    cases hsome
    exact h e he hvalid.1 hvalid.2

lemma fedDial_transportAddr {t : RoutingTable} {overrides : GoMap Addr VMPodTransport}
    (h : t.snap.transport = normalizeOverrides overrides) (published : AddrPort) :
    FedDial overrides published (t.transportAddr published) := by
  unfold RoutingTable.transportAddr
  rw [h]
  cases htr : (normalizeOverrides overrides).lookup published.addr.unmap with
  | none => exact .inl ⟨lookup_normalizeOverrides_eq_none.mp htr, rfl⟩
  | some tr =>
    obtain ⟨e, he, hpub, hlive, hkey, htarget⟩ := entry_of_normalizeOverrides htr
    exact .inr ⟨e, he, hpub, hlive, hkey, by rw [htarget]⟩

lemma leased_normalizeOverrides {overrides : GoMap Addr VMPodTransport}
    (h : GuestLeases cfg overrides) : Leased cfg (normalizeOverrides overrides) := by
  intro p tr htr
  obtain ⟨e, he, hp, hl, rfl, hlive⟩ := entry_of_normalizeOverrides htr
  obtain ⟨hguest, hpub, huniq⟩ := h e he hp hl
  rw [hlive] at hguest hpub huniq
  refine ⟨hguest, hpub, fun q tr' htr' hsame => ?_⟩
  obtain ⟨e', he', hp', hl', rfl, hlive'⟩ := entry_of_normalizeOverrides htr'
  exact huniq e' he' hp' hl' (hlive'.trans hsame)

lemma liveClaims_le_one {p live : Addr}
    (h : ∀ q tr, transport.lookup q = some tr → tr.live = live → q = p) :
    liveClaims transport live ≤ 1 := by
  have hrest : GoMap.sumBy (fun tr : VMPodTransport => if tr.live = live then 1 else 0)
      (transport.erase p) = 0 := by
    refine List.sum_eq_zero fun n hn => ?_
    obtain ⟨e, he, rfl⟩ := List.mem_map.mp hn
    have hlookup := GoMap.lookup_of_mem_entries he
    rw [GoMap.lookup_erase_ite] at hlookup
    split_ifs at hlookup with hne
    exact if_neg fun hlive => hne (h e.1 e.2 hlookup hlive)
  have hsum := GoMap.sumBy_erase (fun tr : VMPodTransport => if tr.live = live then 1 else 0)
    transport p
  have hone : GoMap.valueAt (fun tr : VMPodTransport => if tr.live = live then 1 else 0)
      transport p ≤ 1 := by
    unfold GoMap.valueAt
    cases transport.lookup p with
    | none => exact Nat.zero_le 1
    | some tr =>
      simp only [Option.map_some, Option.getD_some]
      split <;> omega
  unfold liveClaims
  omega

lemma refusal_of_guest {published live : Addr} {claims : Nat} (hguest : GuestAddress cfg live)
    (hpub : live ≠ published) (hclaims : claims ≤ 1) :
    cfg.refusal published live claims = none := by
  have hnet : ¬(live = cfg.vmnet.ip ∧ cfg.vmnet.bits ≤ 30) :=
    fun h => hguest.network (.inr h.2) h.1
  simp only [RelayConfig.refusal, hguest.valid, hguest.inside, if_neg hnet,
    if_neg hguest.gateway, if_neg hguest.broadcast, if_neg hpub, if_neg (Nat.not_lt.mpr hclaims),
    Bool.not_true, Bool.false_eq_true, if_false]

lemma admittedDial_transportAddr {t : RoutingTable} (h : Leased cfg t.snap.transport)
    (published : AddrPort) :
    AdmittedDial cfg t.snap.transport published (t.transportAddr published) := by
  unfold RoutingTable.transportAddr
  cases htr : t.snap.transport.lookup published.addr.unmap with
  | none => exact .inl ⟨htr, rfl⟩
  | some tr =>
    obtain ⟨hguest, hpub, huniq⟩ := h _ tr htr
    exact .inr ⟨tr, htr, rfl, refusal_of_guest hguest hpub (liveClaims_le_one huniq),
      hguest.inside, fun hgw => hguest.network (.inl hgw), hguest.gateway, hguest.broadcast, hpub,
      huniq⟩

end

section

variable {api : Netv1} {cfg : RelayConfig} {t t' : RoutingTable}

/-- Only `SetTransportOverrides` writes the overrides. -/
lemma transport_apply (api : Netv1) (t : RoutingTable) (op : TableOp)
    (h : ∀ fed, op ≠ .setTransportOverrides fed) :
    (t.apply api op).snap.transport = t.snap.transport := by
  cases op with
  | installEndpoints key svc eps policy aff =>
    simp only [RoutingTable.apply, RoutingTable.installEndpoints_snap]
    rfl
  | delete key => rfl
  | setTransportOverrides overrides => exact absurd rfl (h overrides)
  | pickSticky key client now victim =>
    simp only [RoutingTable.apply, RoutingTable.pickSticky,
      (unwritten_pickStickyScoped t key client now false victim).snap]
  | pickStickyCluster key client now victim =>
    simp only [RoutingTable.apply, RoutingTable.pickStickyCluster,
      (unwritten_pickStickyScoped t key client now true victim).snap]
  | sweepExpired now =>
    simp only [RoutingTable.apply, (unwritten_sweepExpired t t.snap now).snap]

/-- A run leaves the transport map of the last overrides it was fed. -/
lemma transport_run {overrides : GoMap Addr VMPodTransport} {ops : List TableOp}
    (h : t.snap.transport = normalizeOverrides overrides)
    (hrun : (tableMachine api).run t ops = some t') :
    t'.snap.transport = normalizeOverrides (lastFed overrides ops) := by
  induction ops generalizing t overrides with
  | nil =>
    cases hrun
    exact h
  | cons op ops ih =>
    have hrest : (tableMachine api).run (t.apply api op) ops = some t' := hrun
    by_cases hop : ∃ fed, op = .setTransportOverrides fed
    · obtain ⟨fed, rfl⟩ := hop
      exact ih rfl hrest
    · have hkeep := transport_apply api t op fun fed heq => hop ⟨fed, heq⟩
      rw [lastFed]
      · exact ih (hkeep.trans h) hrest
      · intro fed heq
        exact hop ⟨fed, heq⟩

lemma snap_pick (t : RoutingTable) (key : PortKey) : (t.pick key).1.snap = t.snap := by
  unfold RoutingTable.pick
  split
  · rename_i hload
    exact (unwritten_scopedPool hload).snap
  · rename_i hload
    exact (unwritten_scopedPool hload).snap

lemma handle_dial {policy : Option PolicyTable} {key : PortKey} {src : Addr} {external : Bool}
    {now : Int} {victim : Nat} {be : Backend} {dst : AddrPort}
    (h : t.handle policy key src external now victim = (t', some (be, dst))) :
    t'.snap = t.snap ∧ dst = t'.transportAddr be.addr := by
  unfold RoutingTable.handle at h
  split at h
  · cases h
  rename_i u be' hpick
  have hsnap : u.snap = t.snap := by
    cases external with
    | false =>
      have hu := unwritten_pickStickyScoped t key src now false victim
      exact (congrArg (fun p => p.1.snap) hpick).symm.trans hu.snap
    | true =>
      have hu := unwritten_pickStickyScoped t key src now true victim
      exact (congrArg (fun p => p.1.snap) hpick).symm.trans hu.snap
  split at h
  · cases h
    exact ⟨hsnap, rfl⟩
  · cases h

lemma upstreamDial_dial {policy : Option PolicyTable} {key : PortKey} {srcIP : Addr}
    {be : Backend} {dst : AddrPort} (h : t.upstreamDial policy key srcIP = (t', some (be, dst))) :
    t'.snap = t.snap ∧ dst = t'.transportAddr be.addr := by
  unfold RoutingTable.upstreamDial at h
  split at h
  · cases h
  rename_i u be' hpick
  have hsnap : u.snap = t.snap :=
    (congrArg (fun p => p.1.snap) hpick).symm.trans (snap_pick t key)
  split at h
  · cases h
    exact ⟨hsnap, rfl⟩
  · cases h

/-- After any operations, a dial goes where the last call of `SetTransportOverrides` said. If what
that call fed are leases of guests, each of one pod, the relay admits the override of every dial. -/
theorem dials_admitted {config : TableConfig} {ops : List TableOp}
    (hrun : (tableMachine api).run (newRoutingTable config) ops = some t) (vmnet : Prefix)
    {be : Backend} {dst : AddrPort} (hdial : Dials t be dst t') :
    FedDial (lastFed ∅ ops) be.addr dst ∧ (GuestLeases (newPodRelays vmnet) (lastFed ∅ ops) →
      AdmittedDial (newPodRelays vmnet) t'.snap.transport be.addr dst) := by
  obtain ⟨hsnap, rfl⟩ : t'.snap = t.snap ∧ dst = t'.transportAddr be.addr := by
    cases hdial with
    | tcp _ _ _ _ _ _ h => exact handle_dial h
    | udp _ _ _ h => exact upstreamDial_dial h
  have htransport : t'.snap.transport = normalizeOverrides (lastFed ∅ ops) := by
    rw [hsnap]
    exact transport_run rfl hrun
  refine ⟨fedDial_transportAddr htransport be.addr, fun hleases => ?_⟩
  exact admittedDial_transportAddr (htransport ▸ leased_normalizeOverrides hleases) be.addr

end

/-! ## A lease that is none -/

def guestSegment : Prefix := .v4 0xc0a84000#32 24

def vmKey : PortKey := ⟨"10.43.0.1", 80, .TCP⟩

def vmService (live : Addr) : List TableOp :=
  [.installEndpoints vmKey ⟨"default", "vm"⟩ [⟨"10.42.0.9", 8080, true⟩] .trafficCluster
      ⟨.affinityNone, 0⟩,
    .setTransportOverrides ((∅ : GoMap Addr VMPodTransport).insert (.v4 0x0a2a0009#32) ⟨live, []⟩)]

def vmTable (live : Addr) : RoutingTable :=
  (vmService live).foldl (RoutingTable.apply Netv1.standard) (newRoutingTable cappedConfig)

/-- A lease outside the segment, which every relay refuses, is dialed. -/
theorem dial_of_refused_lease :
    (tableMachine Netv1.standard).Reach Machine.always (vmTable (.v4 0x08080808#32)) ∧
      ((vmTable (.v4 0x08080808#32)).handle none vmKey (.v4 0x0a2a0007#32) false 0 0).2.map
        (·.2) = some ⟨.v4 0x08080808#32, 8080⟩ ∧
      ((vmTable (.v4 0x08080808#32)).upstreamDial none vmKey (.v4 0x0a2a0007#32)).2.map
        (·.2) = some ⟨.v4 0x08080808#32, 8080⟩ ∧
      (newPodRelays guestSegment).refusal (.v4 0x0a2a0009#32) (.v4 0x08080808#32)
        (liveClaims (vmTable (.v4 0x08080808#32)).snap.transport (.v4 0x08080808#32)) =
          some "live address is outside the node's vmnet segment 192.168.64.0/24" := by
  refine ⟨.of_run (vmService _) ⟨cappedConfig, rfl⟩ (Machine.meets_always _ _) rfl, ?_, ?_, ?_⟩
  all_goals decide +kernel

theorem dials_admitted_guest : ∃ t be,
    Dials (vmTable (.v4 0xc0a84003#32)) be ⟨.v4 0xc0a84003#32, 8080⟩ t ∧
      AdmittedDial (newPodRelays guestSegment) t.snap.transport be.addr
        ⟨.v4 0xc0a84003#32, 8080⟩ := by
  have hguest : GuestAddress (newPodRelays guestSegment) (.v4 0xc0a84003#32) :=
    ⟨by decide, by decide, fun _ => by decide, by decide, by decide⟩
  have hleases : GuestLeases (newPodRelays guestSegment)
      ((∅ : GoMap Addr VMPodTransport).insert (.v4 0x0a2a0009#32) ⟨.v4 0xc0a84003#32, []⟩) := by
    intro e he _ _
    cases List.mem_singleton.mp he
    refine ⟨hguest, by decide, fun e' he' _ _ _ => ?_⟩
    cases List.mem_singleton.mp he'
    rfl
  have hrun : (tableMachine Netv1.standard).run (newRoutingTable cappedConfig)
      (vmService (.v4 0xc0a84003#32)) = some (vmTable (.v4 0xc0a84003#32)) := rfl
  have hhandle : (vmTable (.v4 0xc0a84003#32)).handle none vmKey (.v4 0x0a2a0007#32) false 0 0 =
      (((vmTable (.v4 0xc0a84003#32)).handle none vmKey (.v4 0x0a2a0007#32) false 0 0).1,
        some (⟨⟨.v4 0x0a2a0009#32, 8080⟩, .localityUnknown⟩, ⟨.v4 0xc0a84003#32, 8080⟩)) := rfl
  have hdial := Dials.tcp none vmKey _ false 0 0 hhandle
  exact ⟨_, _, hdial, (dials_admitted hrun guestSegment hdial).2 hleases⟩

end DarwinNet.Proxy
