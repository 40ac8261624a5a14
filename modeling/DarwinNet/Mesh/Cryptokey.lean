import DarwinNet.Mesh.Plan

/-!
What an accepted mesh plan has, and what it does not.

`ValidatePlan` looks at the specs one by one and `RouteSet` drops duplicates: a plan with
two peers of one key, or of one pod /24, is accepted (`validatePlan_accepts_conflicts`).
What every accepted plan has is in `validatePlan_consistent`.
-/

namespace DarwinNet.Mesh

open Netip

/-! ## What an accepted plan has -/

def podPrefix (spec : MeshPeerSpec) : Option Prefix := (parsePrefix spec.podCIDR).map Prefix.masked

def meshPeers (N : Netv1) (self : Prefix) (peers : List MeshPeerSpec) : List MeshPeerSpec :=
  (peers.map (readSpec N)).filter fun spec => podPrefix spec ≠ some self.masked

/-- Distinct keys, disjoint `AllowedIPs` of distinct peers, and a route for each peer. -/
structure CryptokeyConsistent (plan : Plan) : Prop where
  keys : (plan.peers.map PeerConfig.publicKeyHex).Nodup
  disjoint : plan.peers.Pairwise fun p q =>
    ∀ a ∈ p.allowedIPs, ∀ b ∈ q.allowedIPs, a.overlaps b = false
  routes : plan.routes.length = plan.peers.length

/-- A masked IPv4 /24. -/
def IsNodeRange (c : Prefix) : Prop :=
  ∃ base : BitVec 32, maskBits 24 base = base ∧ c = Prefix.v4 base 24

lemma isNodeRange_masked {p : Prefix} (h : isNodeCIDR p.masked = true) : IsNodeRange p.masked := by
  simp only [isNodeCIDR, Bool.and_eq_true, beq_iff_eq] at h
  obtain ⟨h4, hbits⟩ := h
  by_cases hvalid : p.isValid = true
  · cases hip : p.ip with
    | zero => simp [Prefix.masked, hvalid, hip, Prefix.ofAddr, Prefix.zero, Addr.is4] at h4
    | v6 a zone =>
      simp only [Prefix.masked, hvalid, if_true, hip, Prefix.ofAddr] at h4
      split at h4 <;> simp [Prefix.prefixFrom, Prefix.zero, Addr.withoutZone, Addr.is4] at h4
    | v4 a =>
      by_cases hb : p.bits ≤ 32
      · have hmask : p.masked = Prefix.v4 (maskBits p.bits a) p.bits := by
          rw [Prefix.masked, if_pos hvalid, hip, Prefix.ofAddr_v4 hb]
          rfl
        rw [hmask] at hbits ⊢
        have h24 : p.bits = 24 := hbits
        rw [h24]
        exact ⟨maskBits 24 a, maskBits_maskBits a, rfl⟩
      · simp [Prefix.masked, hvalid, hip, Prefix.ofAddr, hb, Prefix.zero, Addr.is4] at h4
  · simp [Prefix.masked, hvalid, Prefix.zero, Addr.is4] at h4

variable {c : Prefix} {pc : PeerConfig} {spec : MeshPeerSpec}

lemma IsNodeRange.masked_eq (h : IsNodeRange c) : c.masked = c := by
  obtain ⟨base, hbase, rfl⟩ := h
  rw [Prefix.masked_v4 (by omega), hbase]

/-- Two node ranges overlap only if they are one. -/
lemma IsNodeRange.overlaps_iff {d : Prefix} (hc : IsNodeRange c) (hd : IsNodeRange d) :
    c.overlaps d = true ↔ c = d := by
  obtain ⟨x, hx, rfl⟩ := hc
  obtain ⟨y, hy, rfl⟩ := hd
  rw [Prefix.overlaps_v4_iff (by omega) hx hy]
  simp [Prefix.v4]

lemma IsNodeRange.exists_v4 (hc : IsNodeRange c) {ip : Addr} (h : c.contains ip = true) :
    ∃ x, ip = .v4 x := by
  obtain ⟨base, -, rfl⟩ := hc
  cases ip with
  | v4 x => exact ⟨x, rfl⟩
  | zero => simp [Prefix.contains, Prefix.v4] at h
  | v6 x zone => simp [Prefix.contains, Prefix.v4] at h

lemma IsNodeRange.eq_of_contains {d : Prefix} (hc : IsNodeRange c) (hd : IsNodeRange d)
    {ip : Addr} (h : c.contains ip = true) (h' : d.contains ip = true) : c = d := by
  obtain ⟨x, rfl⟩ := hc.exists_v4 h
  obtain ⟨b, hb, rfl⟩ := hc
  obtain ⟨b', hb', rfl⟩ := hd
  have hbase : b >>> 8 = b' >>> 8 :=
    (Prefix.contains_v4_iff.mp h).trans (Prefix.contains_v4_iff.mp h').symm
  rw [← hb, ← hb', maskBits, maskBits]
  change Prefix.v4 ((b >>> 8) <<< 8) 24 = Prefix.v4 ((b' >>> 8) <<< 8) 24
  rw [hbase]

/-! ### Peers -/

lemma matchLoop_none {pc : Prefix} {l : List String} (h : matchLoop pc l = none) :
    parseAllowed l = .ok (l.map fun _ => pc) := by
  induction l with
  | nil => rfl
  | cons s l ih =>
    simp only [matchLoop] at h
    split at h
    · cases h
    rename_i a ha
    split_ifs at h with heq
    rw [parseAllowed, ha]
    simp only [ih h, List.map_cons]
    rw [not_not.mp heq]

variable {N : Netv1} {self : Prefix} {raw : MeshPeerSpec} {specs : List MeshPeerSpec}

/-- A spec that becomes a peer: its key, its pod CIDR, its `AllowedIPs`. -/
structure PeerOf (own : Prefix) (spec : MeshPeerSpec) (pc : PeerConfig) : Prop where
  key : wgKeyHex spec.publicKey = some pc.publicKeyHex
  nonempty : pc.allowedIPs ≠ []
  allowed : ∃ c, podPrefix spec = some c ∧ (∀ a ∈ pc.allowedIPs, a = c) ∧ equalCIDR c own = false

/-- A spec is skipped, is the node's own, or becomes a peer. -/
lemma verdict_cases (N : Netv1) (self : Prefix) (raw : MeshPeerSpec) :
    (∃ skip, verdict N self raw = .skip skip) ∨
    ∃ c, parsePrefix (readSpec N raw).podCIDR = some c ∧
      (equalCIDR c.masked self = true ∧ verdict N self raw = .own ∨
        equalCIDR c.masked self = false ∧ allowedIPsMatchCIDR (readSpec N raw) = none ∧
          ∃ pc, peerConfigFromSpec N (readSpec N raw) = .ok pc ∧ verdict N self raw =
            .peer (readSpec N raw) { pc with endpoint := selectEndpoint (readSpec N raw) }) := by
  simp only [verdict]
  split
  · exact .inl ⟨_, rfl⟩
  split
  · exact .inl ⟨_, rfl⟩
  · split
    · exact .inl ⟨_, rfl⟩
    · rename_i c hc
      split
      · rename_i hown
        exact .inr ⟨c, hc, .inl ⟨hown, rfl⟩⟩
      · rename_i hown
        split
        · exact .inl ⟨_, rfl⟩
        · rename_i hmatch
          split
          · exact .inl ⟨_, rfl⟩
          · rename_i pc hconfig
            exact .inr ⟨c, hc, .inr ⟨by simpa using hown, hmatch, pc, hconfig, rfl⟩⟩

lemma parseAllowed_of_match (hc : parsePrefix spec.podCIDR = some c)
    (h : allowedIPsMatchCIDR spec = none) : spec.allowedIPs ≠ [] ∧
      parseAllowed spec.allowedIPs = .ok (spec.allowedIPs.map fun _ => c.masked) := by
  simp only [allowedIPsMatchCIDR, hc] at h
  split_ifs at h with hne
  exact ⟨hne, matchLoop_none h⟩

lemma peerConfigFromSpec_ok {allowed : List Prefix}
    (hallowed : parseAllowed spec.allowedIPs = .ok allowed)
    (h : peerConfigFromSpec N spec = .ok pc) :
    wgKeyHex spec.publicKey = some pc.publicKeyHex ∧ pc.allowedIPs = allowed := by
  simp only [peerConfigFromSpec, hallowed] at h
  split at h
  · cases h
  · rename_i key hkey
    cases h
    exact ⟨hkey, rfl⟩

lemma peerOf_verdict (h : verdict N self raw = .peer spec pc) :
    PeerOf self spec pc ∧ spec = readSpec N raw := by
  rcases verdict_cases N self raw with
    ⟨_, hskip⟩ | ⟨c, hc, ⟨-, hown⟩ | ⟨hne, hmatch, pc', hconfig, hpeer⟩⟩
  · cases hskip.symm.trans h
  · cases hown.symm.trans h
  · cases hpeer.symm.trans h
    obtain ⟨hnonempty, hparse⟩ := parseAllowed_of_match hc hmatch
    obtain ⟨hkey, hallowed⟩ := peerConfigFromSpec_ok hparse hconfig
    refine ⟨⟨hkey, ?_, c.masked, ?_, ?_, hne⟩, rfl⟩
    · simpa [hallowed] using hnonempty
    · rw [podPrefix, hc, Option.map_some]
    · simp [hallowed]

/-! ### The peers of a plan -/

lemma mem_included (h : (spec, pc) ∈ included N self specs) : PeerOf self spec pc := by
  obtain ⟨raw, -, hraw⟩ := List.mem_filterMap.mp h
  split at hraw
  · rename_i hverdict
    cases hraw
    exact (peerOf_verdict hverdict).1
  · cases hraw

lemma podPrefix_of_own (h : verdict N self.masked raw = .own) :
    podPrefix (readSpec N raw) = some self.masked := by
  rcases verdict_cases N self.masked raw with
    ⟨_, hskip⟩ | ⟨c, hc, ⟨hown, -⟩ | ⟨-, -, pc, -, hpeer⟩⟩
  · cases hskip.symm.trans h
  · simp only [equalCIDR, Prefix.masked_masked, decide_eq_true_eq] at hown
    rw [podPrefix, hc, Option.map_some, hown]
  · cases hpeer.symm.trans h

lemma PeerOf.podPrefix_ne (h : PeerOf self.masked spec pc) : podPrefix spec ≠ some self.masked := by
  obtain ⟨c, hc, -, hne⟩ := h.allowed
  intro hself
  rw [hself] at hc
  cases hc
  simp [equalCIDR] at hne

lemma included_specs (hskip : skippedPeers N self.masked specs = []) :
    (included N self.masked specs).map Prod.fst = meshPeers N self specs := by
  induction specs with
  | nil => rfl
  | cons raw specs ih =>
    simp only [skippedPeers, included, meshPeers, List.filterMap_cons, List.map_cons] at hskip ih ⊢
    cases hv : verdict N self.masked raw with
    | skip s => simp [hv] at hskip
    | own =>
      simp only [hv] at hskip ⊢
      rw [ih hskip, List.filter_cons_of_neg (by simp [podPrefix_of_own hv])]
    | peer spec pc =>
      obtain ⟨hpeer, rfl⟩ := peerOf_verdict hv
      simp only [hv] at hskip ⊢
      rw [List.map_cons, ih hskip, List.filter_cons_of_pos (by simpa using hpeer.podPrefix_ne)]

/-! ### Routes -/

lemma mem_routeLoop (out : List Prefix) (ps : List MeshPeerSpec) (r : Prefix) :
    r ∈ routeLoop self out ps ↔ r ∈ out ∨
      ∃ p ∈ ps, podPrefix p = some r ∧ isNodeCIDR r = true ∧ r.overlaps self = false := by
  induction ps generalizing out with
  | nil => simp [routeLoop]
  | cons p ps ih =>
    cases hp : parsePrefix p.podCIDR with
    | none =>
      simp only [routeLoop, hp, ih, List.exists_mem_cons_iff, podPrefix, Option.map_none]
      simp
    | some c =>
      have hpod : podPrefix p = some c.masked := by rw [podPrefix, hp, Option.map_some]
      simp only [routeLoop, hp, List.exists_mem_cons_iff, hpod, Option.some.injEq]
      split
      · rename_i hnode
        rw [ih]
        grind
      · split
        · rw [ih]
          grind
        split
        · rw [ih]
          grind
        · rw [ih, List.mem_append, List.mem_singleton]
          grind

lemma nodup_routeLoop {out : List Prefix} (ps : List MeshPeerSpec) (h : out.Nodup) :
    (routeLoop self out ps).Nodup := by
  induction ps generalizing out with
  | nil => exact h
  | cons p ps ih =>
    simp only [routeLoop]
    split
    · exact ih h
    split
    · exact ih h
    · split
      · exact ih h
      · split
        · exact ih h
        · rename_i hnew
          exact ih (h.append (List.nodup_singleton _) (by simpa using hnew))

/-! ### Accepted plans -/

/-- What `ValidatePlan` has checked of the plan it returns. -/
structure Accepted (N : Netv1) (own : Prefix) (specs : List MeshPeerSpec) (plan : Plan) :
    Prop where
  own_range : IsNodeRange own.masked
  peers : plan.peers = (included N own.masked specs).map Prod.snd
  specs_eq : (included N own.masked specs).map Prod.fst = meshPeers N own specs
  routes : plan.routes.Perm (routeLoop own.masked [] (meshPeers N own specs))
  per_node : ∀ pc ∈ plan.peers, ∀ a ∈ pc.allowedIPs, isNodeCIDR a = true

lemma accepted_of_validatePlan {plan : Plan} (h : validatePlan N self specs = .ok plan) :
    Accepted N self specs plan := by
  simp only [validatePlan, buildPlan, routeSet, Prefix.masked_masked] at h
  split at h
  · cases h
  rename_i built hbuilt
  split at h
  · cases h
  · rename_i hskipped
    split at h
    · cases h
    · rename_i hper
      cases h
      split at hbuilt
      · cases hbuilt
      · rename_i hself
        cases hbuilt
        have hspecs := included_specs hskipped
        refine ⟨isNodeRange_masked (by simpa using hself), rfl, hspecs, ?_, ?_⟩
        · rw [← hspecs]
          exact List.perm_insertionSort _ _
        · intro pc hpc a ha
          have hall := List.find?_eq_none.mp hper (pc.nodeName, a)
            (List.mem_flatMap.mpr ⟨pc, hpc, List.mem_map.mpr ⟨a, ha, rfl⟩⟩)
          simpa using hall

def PeerConfig.podRange (pc : PeerConfig) : Prefix := pc.allowedIPs.headD Prefix.zero

/-- `pc` is the peer of a spec: its key, and its pod CIDR, a node range off the own one. -/
structure Planned (own : Prefix) (spec : MeshPeerSpec) (pc : PeerConfig) : Prop where
  key : wgKeyHex spec.publicKey = some pc.publicKeyHex
  range : podPrefix spec = some pc.podRange
  mem : pc.podRange ∈ pc.allowedIPs
  allowed : ∀ a ∈ pc.allowedIPs, a = pc.podRange
  isNode : isNodeCIDR pc.podRange = true
  isNodeRange : IsNodeRange pc.podRange
  off_self : pc.podRange.overlaps own.masked = false

variable {plan : Plan}

lemma Accepted.planned (h : Accepted N self specs plan)
    (hmem : (spec, pc) ∈ included N self.masked specs) : Planned self spec pc := by
  have hpeer := mem_included hmem
  obtain ⟨c, hc, hallowed, hne⟩ := hpeer.allowed
  have hpc : pc ∈ plan.peers := h.peers ▸ List.mem_map.mpr ⟨_, hmem, rfl⟩
  obtain ⟨a, rest, hcons⟩ := List.exists_cons_of_ne_nil hpeer.nonempty
  have ha : a ∈ pc.allowedIPs := by simp [hcons]
  have hrange : pc.podRange = c := by
    rw [PeerConfig.podRange, hcons, List.headD_cons]
    exact hallowed a ha
  have hmemc : c ∈ pc.allowedIPs := hallowed a ha ▸ ha
  have hnode := h.per_node pc hpc c hmemc
  have hnoderange : IsNodeRange c := by
    rw [podPrefix] at hc
    obtain ⟨p, -, rfl⟩ := Option.map_eq_some_iff.mp hc
    exact isNodeRange_masked hnode
  refine ⟨hpeer.key, hrange ▸ hc, hrange ▸ hmemc, ?_, hrange ▸ hnode, hrange ▸ hnoderange, ?_⟩
  · intro b hb
    rw [hrange]
    exact hallowed b hb
  · rw [hrange, Bool.eq_false_iff]
    intro hover
    have hself := (hnoderange.overlaps_iff h.own_range).mp hover
    simp [hself, equalCIDR] at hne

lemma Accepted.exists_spec (h : Accepted N self specs plan) (hpc : pc ∈ plan.peers) :
    ∃ spec, (spec, pc) ∈ included N self.masked specs := by
  rw [h.peers] at hpc
  obtain ⟨⟨spec, pc'⟩, hmem, rfl⟩ := List.mem_map.mp hpc
  exact ⟨spec, hmem⟩

lemma Accepted.mem_routes (h : Accepted N self specs plan) (r : Prefix) :
    r ∈ plan.routes ↔ r ∈ plan.peers.map PeerConfig.podRange := by
  rw [h.routes.mem_iff, mem_routeLoop, List.mem_map]
  constructor
  · rintro (hnil | ⟨spec, hspec, hpod, -, -⟩)
    · cases hnil
    rw [← h.specs_eq] at hspec
    obtain ⟨⟨spec', pc⟩, hmem, rfl⟩ := List.mem_map.mp hspec
    refine ⟨pc, h.peers ▸ List.mem_map.mpr ⟨_, hmem, rfl⟩, ?_⟩
    exact Option.some.inj ((h.planned hmem).range.symm.trans hpod)
  · rintro ⟨pc, hpc, rfl⟩
    obtain ⟨spec, hmem⟩ := h.exists_spec hpc
    have hplanned := h.planned hmem
    refine .inr ⟨spec, ?_, hplanned.range, hplanned.isNode, hplanned.off_self⟩
    rw [← h.specs_eq]
    exact List.mem_map.mpr ⟨_, hmem, rfl⟩

lemma Accepted.nodup_routes (h : Accepted N self specs plan) : plan.routes.Nodup :=
  h.routes.nodup_iff.mpr (nodup_routeLoop _ List.nodup_nil)

/-- Neither the key nor the pod CIDR is shared. -/
def Distinct (x y : MeshPeerSpec) : Prop :=
  wgKeyHex x.publicKey ≠ wgKeyHex y.publicKey ∧ podPrefix x ≠ podPrefix y

instance instDecidableDistinct (x y : MeshPeerSpec) : Decidable (Distinct x y) :=
  inferInstanceAs (Decidable (_ ∧ _))

lemma Accepted.distinct_iff (h : Accepted N self specs plan) :
    (meshPeers N self specs).Pairwise Distinct ↔ plan.peers.Pairwise fun p q =>
        p.publicKeyHex ≠ q.publicKeyHex ∧ p.podRange ≠ q.podRange := by
  rw [← h.specs_eq, h.peers, List.pairwise_map, List.pairwise_map]
  refine List.Pairwise.iff_of_mem ?_
  rintro ⟨x, p⟩ ⟨y, q⟩ hp hq
  have hx := h.planned hp
  have hy := h.planned hq
  simp only [Distinct, hx.key, hy.key, hx.range, hy.range, ne_eq, Option.some.injEq]

lemma Planned.disjoint_iff {x y : MeshPeerSpec} {p q : PeerConfig} (hx : Planned self x p)
    (hy : Planned self y q) :
    (∀ a ∈ p.allowedIPs, ∀ b ∈ q.allowedIPs, a.overlaps b = false) ↔ p.podRange ≠ q.podRange := by
  have hover := hx.isNodeRange.overlaps_iff hy.isNodeRange
  constructor
  · intro h heq
    have := h _ hx.mem _ hy.mem
    rw [hover.mpr heq] at this
    cases this
  · intro hne a ha b hb
    rw [hx.allowed a ha, hy.allowed b hb, Bool.eq_false_iff]
    exact fun h => hne (hover.mp h)

/-- Keys and ranges clash in the plan exactly if they do among the specs. -/
lemma Accepted.consistent_iff (h : Accepted N self specs plan) :
    CryptokeyConsistent plan ↔ (meshPeers N self specs).Pairwise Distinct := by
  have hdisjoint : (plan.peers.Pairwise fun p q =>
      ∀ a ∈ p.allowedIPs, ∀ b ∈ q.allowedIPs, a.overlaps b = false) ↔
      plan.peers.Pairwise fun p q => p.podRange ≠ q.podRange := by
    refine List.Pairwise.iff_of_mem ?_
    intro p q hp hq
    obtain ⟨x, hx⟩ := h.exists_spec hp
    obtain ⟨y, hy⟩ := h.exists_spec hq
    exact (h.planned hx).disjoint_iff (h.planned hy)
  rw [h.distinct_iff, List.pairwise_and_iff]
  constructor
  · rintro ⟨hkeys, hranges, -⟩
    exact ⟨List.pairwise_map.mp hkeys, hdisjoint.mp hranges⟩
  rintro ⟨hkeys, hranges⟩
  refine ⟨List.pairwise_map.mpr hkeys, hdisjoint.mpr hranges, ?_⟩
  -- Routes and pod ranges are two lists without duplicates of the same prefixes.
  have hnodup : (plan.peers.map PeerConfig.podRange).Nodup := List.pairwise_map.mpr hranges
  have hperm := (List.perm_ext_iff_of_nodup h.nodup_routes hnodup).mpr h.mem_routes
  rw [hperm.length_eq, List.length_map]

/-- The peers of an accepted plan are those of the specs other than the node's own, in order:
each with the key of its spec and, as its `AllowedIPs`, the pod CIDR of its spec, an IPv4 /24 off
the node's own that is among the routes. The routes are these /24s, each once. The plan is
consistent exactly if the specs differ pairwise in key and in pod CIDR. -/
theorem validatePlan_consistent (N : Netv1) (self : Prefix) (specs : List MeshPeerSpec)
    (plan : Plan) (h : validatePlan N self specs = .ok plan) :
    (meshPeers N self specs).Forall₂ (fun spec pc =>
      wgKeyHex spec.publicKey = some pc.publicKeyHex ∧ ∃ c, podPrefix spec = some c ∧
        c ∈ pc.allowedIPs ∧ (∀ a ∈ pc.allowedIPs, a = c) ∧
        isNodeCIDR c = true ∧ c.overlaps self.masked = false ∧ c ∈ plan.routes) plan.peers ∧
    (∀ r ∈ plan.routes, ∃ pc ∈ plan.peers, r ∈ pc.allowedIPs) ∧
    plan.routes.Nodup ∧
    (CryptokeyConsistent plan ↔ (meshPeers N self specs).Pairwise Distinct) := by
  have hacc := accepted_of_validatePlan h
  refine ⟨?_, ?_, hacc.nodup_routes, hacc.consistent_iff⟩
  · have hroute : ∀ pc ∈ plan.peers, pc.podRange ∈ plan.routes := fun pc hpc =>
      (hacc.mem_routes _).mpr (List.mem_map.mpr ⟨pc, hpc, rfl⟩)
    rw [hacc.peers] at hroute ⊢
    rw [← hacc.specs_eq, List.forall₂_map_left_iff, List.forall₂_map_right_iff, List.forall₂_same]
    rintro ⟨spec, pc⟩ hmem
    have hplanned := hacc.planned hmem
    exact ⟨hplanned.key, pc.podRange, hplanned.range, hplanned.mem, hplanned.allowed,
      hplanned.isNode, hplanned.off_self, hroute pc (List.mem_map.mpr ⟨_, hmem, rfl⟩)⟩
  · intro r hr
    obtain ⟨pc, hpc, rfl⟩ := List.mem_map.mp ((hacc.mem_routes r).mp hr)
    obtain ⟨spec, hmem⟩ := hacc.exists_spec hpc
    exact ⟨pc, hpc, (hacc.planned hmem).mem⟩

/-! ### Specs that pass -/

/-- Key, pod CIDR and allowed IPs parse. -/
def Readable (spec : MeshPeerSpec) : Prop :=
  (wgKeyHex spec.publicKey).isSome ∧ (parsePrefix spec.podCIDR).isSome ∧
    ∀ s ∈ spec.allowedIPs, (parsePrefix s).isSome

instance instDecidableReadable (spec : MeshPeerSpec) : Decidable (Readable spec) :=
  inferInstanceAs (Decidable (_ ∧ _ ∧ _))

def readableNetv1 : Netv1 where
  withDefaults := id
  validate := fun spec => if Readable spec then none else some "unreadable spec"
  meshPeerSchemaVersion := 1
  defaultPersistentKeepaliveSeconds := 25

def keyA : String := "AAAAAAAAAAAAAAAAAAAAAAAAAAAAAAAAAAAAAAAAAAA="

def keyB : String := "BAAAAAAAAAAAAAAAAAAAAAAAAAAAAAAAAAAAAAAAAAA="

def nodeSpec (nodeName publicKey podCIDR : String) : MeshPeerSpec :=
  ⟨nodeName, publicKey, podCIDR, [podCIDR], nodeName ++ ":51820", [], 1, 0⟩

def planOf (specs : List MeshPeerSpec) : Option Plan :=
  match validatePlan readableNetv1 (Prefix.v4 0x0a2a0000 24) specs with
  | .ok plan => some plan
  | .error _ => none

lemma validatePlan_of_planOf (h : planOf specs = some plan) :
    validatePlan readableNetv1 (Prefix.v4 0x0a2a0000 24) specs = .ok plan := by
  rw [planOf] at h
  split at h
  · rename_i hok
    cases h
    exact hok
  · cases h

/-- Two peers of one key pass, and two peers of one pod CIDR. -/
theorem validatePlan_accepts_conflicts :
    (∀ spec, readableNetv1.validate spec = none → Readable spec) ∧
    (∃ plan, validatePlan readableNetv1 (Prefix.v4 0x0a2a0000 24)
        [nodeSpec "b" keyA "10.42.1.0/24", nodeSpec "c" keyA "10.42.2.0/24"] = .ok plan ∧
      ¬ (plan.peers.map PeerConfig.publicKeyHex).Nodup) ∧
    (∃ plan, validatePlan readableNetv1 (Prefix.v4 0x0a2a0000 24)
        [nodeSpec "b" keyA "10.42.1.0/24", nodeSpec "c" keyB "10.42.1.0/24"] = .ok plan ∧
      (¬ plan.peers.Pairwise fun p q =>
        ∀ a ∈ p.allowedIPs, ∀ b ∈ q.allowedIPs, a.overlaps b = false) ∧
      plan.peers.length = 2 ∧ plan.routes.length = 1) := by
  have hkeys : (planOf [nodeSpec "b" keyA "10.42.1.0/24", nodeSpec "c" keyA "10.42.2.0/24"]).map
      (fun plan => decide ((plan.peers.map PeerConfig.publicKeyHex).Nodup)) = some false := by
    decide +kernel
  have hranges : (planOf [nodeSpec "b" keyA "10.42.1.0/24",
      nodeSpec "c" keyB "10.42.1.0/24"]).map (fun plan =>
        (decide (plan.peers.Pairwise fun p q =>
          ∀ a ∈ p.allowedIPs, ∀ b ∈ q.allowedIPs, a.overlaps b = false),
        plan.peers.length, plan.routes.length)) = some (false, 2, 1) := by
    decide +kernel
  refine ⟨?_, ?_, ?_⟩
  · intro spec hspec
    by_contra hread
    simp [readableNetv1, hread] at hspec
  · obtain ⟨plan, hplan, hfact⟩ := Option.map_eq_some_iff.mp hkeys
    exact ⟨plan, validatePlan_of_planOf hplan, of_decide_eq_false hfact⟩
  · obtain ⟨plan, hplan, hfact⟩ := Option.map_eq_some_iff.mp hranges
    simp only [Prod.mk.injEq] at hfact
    exact ⟨plan, validatePlan_of_planOf hplan, of_decide_eq_false hfact.1, hfact.2⟩

theorem validatePlan_consistent_two : ∃ plan, validatePlan readableNetv1 (Prefix.v4 0x0a2a0000 24)
        [nodeSpec "a" keyA "10.42.0.0/24", nodeSpec "b" keyA "10.42.1.0/24",
          nodeSpec "c" keyB "10.42.2.0/24"] = .ok plan ∧
      plan.peers.length = 2 ∧ CryptokeyConsistent plan := by
  have hrun : (planOf [nodeSpec "a" keyA "10.42.0.0/24", nodeSpec "b" keyA "10.42.1.0/24",
      nodeSpec "c" keyB "10.42.2.0/24"]).map (fun plan => plan.peers.length) = some 2 := by
    decide +kernel
  obtain ⟨plan, hplan, hlength⟩ := Option.map_eq_some_iff.mp hrun
  have hok := validatePlan_of_planOf hplan
  refine ⟨plan, hok, hlength, ?_⟩
  have hspecs : (meshPeers readableNetv1 (Prefix.v4 0x0a2a0000 24)
      [nodeSpec "a" keyA "10.42.0.0/24", nodeSpec "b" keyA "10.42.1.0/24",
        nodeSpec "c" keyB "10.42.2.0/24"]).Pairwise Distinct := by
    decide +kernel
  exact (validatePlan_consistent _ _ _ plan hok).2.2.2.mpr hspecs

end DarwinNet.Mesh
