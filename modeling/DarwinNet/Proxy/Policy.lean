import DarwinNet.Api.Policies
import DarwinNet.Lib.Loop

/-!
The NetworkPolicy subset: `PolicyWatcher.recompute` resolves the stored policies to
the addresses they select and the sources and ports they admit (`policywatch.go`),
and `PolicyTable.Allow` gives the verdict for one flow (`policy.go`).

`Denies` says in the API's terms which flows the policies deny, without maps, loops
or nil sets. `policy_verdict`: the table denies exactly these flows, in
whatever order the stores list their objects.
-/

namespace DarwinNet.Proxy

open Lib Netip Api

/-- One resolved allow clause; `none` admits any source, or any port. -/
structure PolicyRule where
  sources : Option (Finset Addr)
  ports : Option (Finset UInt16)

structure PolicyTable where
  alwaysAllow : Finset Addr
  vmnet : Prefix
  selected : GoMap Addr (List PolicyRule)
  known : Finset Addr

/-- A table that allows everything. Invalid seeds are skipped. -/
def newPolicyTableVMNet (vmnet : Prefix) (alwaysAllow : List Addr) : PolicyTable where
  alwaysAllow := ((alwaysAllow.filter (·.isValid)).map (·.unmap)).toFinset
  vmnet
  selected := ∅
  known := ∅

def PolicyTable.update (t : PolicyTable) (selected : GoMap Addr (List PolicyRule))
    (known : Finset Addr) : PolicyTable :=
  { t with selected, known }

def PolicyRule.admits (r : PolicyRule) (src : Addr) (port : UInt16) : Bool :=
  (match r.sources with
    | none => true
    | some srcs => src ∈ srcs) &&
  match r.ports with
    | none => true
    | some ports => port ∈ ports

/-- `PolicyTable.Allow`; without a table everything is allowed. -/
def PolicyTable.allow (t : Option PolicyTable) (src backend : Addr) (port : UInt16) : Bool :=
  match t with
  | none => true
  | some t =>
    let src := src.unmap
    if src.isLoopback then true
    else if src ∈ t.alwaysAllow then true
    else match t.selected.lookup backend.unmap with
      | none => true
      | some rules =>
        if rules.any (·.admits src port) then true
        else if src ∉ t.known then
          -- an unattributable source fails closed inside the vmnet segment, else open
          !(t.vmnet.isValid && t.vmnet.contains src)
        else false

/-! ## The resolver -/

/-- `add` of `podIPsOf`: parsed, unmapped, and only once. -/
def addPodIP (out : List Addr) (s : String) : List Addr :=
  match parseAddr s with
  | none => out
  | some a => if a.unmap ∈ out then out else out ++ [a.unmap]

def podIPsOf (pod : Pod) : List Addr :=
  let out := pod.podIPs.foldl addPodIP []
  if pod.podIP ≠ "" then addPodIP out pod.podIP else out

def policyAppliesToIngress (pol : NetworkPolicy) : Bool :=
  pol.policyTypes.isEmpty || pol.policyTypes.any (· = .ingress)

def podsByNS (pods : List Pod) : GoMap String (List Pod) :=
  pods.foldl (fun m pod =>
    if podIPsOf pod = [] then m else GoMap.appendTo m pod.key.ns [pod]) ∅

def knownIPs (pods : List Pod) : Finset Addr :=
  pods.foldl (fun s pod =>
    if podIPsOf pod = [] then s else (podIPsOf pod).foldl (fun s ip => insert ip s) s) ∅

def nsLabels (namespaces : List Namespace) : GoMap String Labels :=
  GoMap.insertAll ∅ (namespaces.map fun ns => (ns.name, ns.labels))

section

variable (asSelector : AsSelector)

/-- The namespaces of a peer: those the selector matches, without one the policy's
own. `none` where the selector does not parse. -/
def peerNamespaces (pol : NetworkPolicy) (peer : NetworkPolicyPeer)
    (nsLabels : GoMap String Labels) : Option (List String) :=
  match peer.namespaceSelector with
  | none => some [pol.key.ns]
  | some s =>
    match asSelector s with
    | none => none
    | some sel => some ((nsLabels.entries.filter fun e => sel e.2).map (·.1))

def peerPodSelector (peer : NetworkPolicyPeer) : Option (Labels → Bool) :=
  match peer.podSelector with
  | none => some fun _ => true
  | some s => asSelector s

def addSources (podsByNS : GoMap String (List Pod)) (podSel : Labels → Bool)
    (srcs : Finset Addr) (nss : List String) : Finset Addr :=
  nss.foldl (fun srcs ns =>
    ((podsByNS.lookup ns).getD []).foldl (fun srcs pod =>
      if podSel pod.labels then (podIPsOf pod).foldl (fun srcs ip => insert ip srcs) srcs
      else srcs) srcs) srcs

/-- One turn of the loop over the peers: the sources so far, and whether the rule is
widened to any source. -/
def resolvePeer (pol : NetworkPolicy) (podsByNS : GoMap String (List Pod))
    (nsLabels : GoMap String Labels) (acc : Finset Addr × Bool) (peer : NetworkPolicyPeer) :
    Finset Addr × Bool :=
  if peer.ipBlock.isSome then (acc.1, true)
  else match peerNamespaces asSelector pol peer nsLabels with
    | none => (acc.1, true)
    | some nss =>
      match peerPodSelector asSelector peer with
      | none => (acc.1, true)
      | some podSel => (addSources podsByNS podSel acc.1 nss, acc.2)

/-- One turn of the loop over the ports: a missing, named or ranged port widens the
rule to any port, a number out of range is dropped. -/
def resolvePort (acc : Finset UInt16 × Bool) (p : NetworkPolicyPort) : Finset UInt16 × Bool :=
  match p.port, p.endPort with
  | some (.int v), none =>
    if 1 ≤ v ∧ v ≤ 65535 then (insert (UInt16.ofNat v.toNat) acc.1, acc.2) else acc
  | _, _ => (acc.1, true)

def resolveRule (pol : NetworkPolicy) (rule : NetworkPolicyIngressRule)
    (podsByNS : GoMap String (List Pod)) (nsLabels : GoMap String Labels) : PolicyRule where
  sources :=
    if rule.from_ = [] then none
    else
      let (srcs, wide) := rule.from_.foldl (resolvePeer asSelector pol podsByNS nsLabels) (∅, false)
      if wide then none else some srcs
  ports :=
    if rule.ports = [] then none
    else
      let (ports, wide) := rule.ports.foldl resolvePort (∅, false)
      if wide then none else some ports

/-- The rules are appended for every address of a selected pod, so that a policy
without rules still makes the entry. -/
def selectPod (rules : List PolicyRule) (selected : GoMap Addr (List PolicyRule)) (pod : Pod) :
    GoMap Addr (List PolicyRule) :=
  (podIPsOf pod).foldl (fun m ip => GoMap.appendTo m ip rules) selected

def selectPolicy (podsByNS : GoMap String (List Pod)) (nsLabels : GoMap String Labels)
    (selected : GoMap Addr (List PolicyRule)) (pol : NetworkPolicy) :
    GoMap Addr (List PolicyRule) :=
  if !policyAppliesToIngress pol then selected
  else match asSelector pol.podSelector with
    | none => selected
    | some podSel =>
      let rules := pol.ingress.map fun rule => resolveRule asSelector pol rule podsByNS nsLabels
      ((podsByNS.lookup pol.key.ns).getD []).foldl (fun selected pod =>
        if podSel pod.labels then selectPod rules selected pod else selected) selected

def recompute (t : PolicyTable) (st : PolicyStores) : PolicyTable :=
  t.update
    (st.policies.foldl (selectPolicy asSelector (podsByNS st.pods) (nsLabels st.namespaces)) ∅)
    (knownIPs st.pods)

end

/-! ## What the policies deny -/

/-- One of the addresses of the pod is `a`. -/
def HasIP (pod : Pod) (a : Addr) : Prop :=
  ∃ s ∈ pod.podIP :: pod.podIPs, ∃ b, parseAddr s = some b ∧ b.unmap = a

section

variable (asSelector : AsSelector)

def Selects (s : LabelSelector) (ls : Labels) : Prop :=
  ∃ sel, asSelector s = some sel ∧ sel ls = true

/-- An ingress policy of the pod's namespace selects its labels. -/
def SelectsPod (pol : NetworkPolicy) (pod : Pod) : Prop :=
  (pol.policyTypes = [] ∨ .ingress ∈ pol.policyTypes) ∧ pod.key.ns = pol.key.ns ∧
    Selects asSelector pol.podSelector pod.labels

/-- The peer cannot be resolved: an address block, or a selector that does not parse. -/
def Unresolvable (peer : NetworkPolicyPeer) : Prop :=
  peer.ipBlock ≠ none ∨ (∃ s ∈ peer.namespaceSelector, asSelector s = none) ∨
    ∃ s ∈ peer.podSelector, asSelector s = none

/-- The selectors of the peer match the namespace of the pod and its labels. -/
def PeerMatches (st : PolicyStores) (pol : NetworkPolicy) (peer : NetworkPolicyPeer) (pod : Pod) :
    Prop :=
  (match peer.namespaceSelector with
    | none => pod.key.ns = pol.key.ns
    | some s => ∃ ns ∈ st.namespaces, ns.name = pod.key.ns ∧ Selects asSelector s ns.labels) ∧
  match peer.podSelector with
    | none => True
    | some s => Selects asSelector s pod.labels

/-- The rule has no peers, or one that admits the source; one that cannot be resolved admits all. -/
def AdmitsSource (st : PolicyStores) (pol : NetworkPolicy) (rule : NetworkPolicyIngressRule)
    (src : Addr) : Prop :=
  rule.from_ = [] ∨ (∃ peer ∈ rule.from_, Unresolvable asSelector peer) ∨
    ∃ peer ∈ rule.from_, ∃ pod ∈ st.pods, PeerMatches asSelector st pol peer pod ∧ HasIP pod src

def AnyPort (p : NetworkPolicyPort) : Prop :=
  p.port = none ∨ (∃ name, p.port = some (.string name)) ∨ p.endPort ≠ none

/-- The rule has no ports, or this one; a name or a range admits all. -/
def AdmitsPort (rule : NetworkPolicyIngressRule) (port : UInt16) : Prop :=
  rule.ports = [] ∨ (∃ p ∈ rule.ports, AnyPort p) ∨
    ∃ p ∈ rule.ports, ∃ v, p.port = some (.int v) ∧ 1 ≤ v ∧ v ≤ 65535 ∧ v = port.toNat

/-- The flow is denied: the source is not exempt, some policy selects the backend, no
rule of a policy that selects it admits the flow, and the source can be attributed to a
pod or to the vmnet segment. -/
structure Denies (t : PolicyTable) (st : PolicyStores) (src backend : Addr) (port : UInt16) :
    Prop where
  not_loopback : src.unmap.isLoopback = false
  not_exempt : src.unmap ∉ t.alwaysAllow
  selected : ∃ pod ∈ st.pods, HasIP pod backend.unmap ∧
    ∃ pol ∈ st.policies, SelectsPod asSelector pol pod
  no_rule : ∀ pod ∈ st.pods, HasIP pod backend.unmap →
    ∀ pol ∈ st.policies, SelectsPod asSelector pol pod → ∀ rule ∈ pol.ingress,
      ¬ (AdmitsSource asSelector st pol rule src.unmap ∧ AdmitsPort rule port)
  attributed : (∃ pod ∈ st.pods, HasIP pod src.unmap) ∨
    t.vmnet.isValid = true ∧ t.vmnet.contains src.unmap = true

end

/-! ## What the resolver collects -/

variable {a : Addr}

lemma mem_addPodIP {out : List Addr} {s : String} :
    a ∈ addPodIP out s ↔ a ∈ out ∨ ∃ b, parseAddr s = some b ∧ b.unmap = a := by
  unfold addPodIP
  cases parseAddr s with
  | none => simp
  | some b =>
    by_cases hb : b.unmap ∈ out
    · simp only [if_pos hb, Option.some.injEq, exists_eq_left']
      exact ⟨.inl, fun h => h.elim id fun heq => heq ▸ hb⟩
    · simp [if_neg hb, eq_comm]

lemma mem_podIPsOf {pod : Pod} : a ∈ podIPsOf pod ↔ HasIP pod a := by
  have hstatus : a ∈ pod.podIPs.foldl addPodIP [] ↔
      ∃ s ∈ pod.podIPs, ∃ b, parseAddr s = some b ∧ b.unmap = a := by
    rw [foldl_iff (Q := (a ∈ ·)) (f := addPodIP) pod.podIPs fun _ _ _ => mem_addPodIP]
    simp
  have hempty : parseAddr "" = none := by decide
  rw [podIPsOf, HasIP, List.exists_mem_cons_iff]
  split_ifs with hne
  · rw [mem_addPodIP, hstatus, or_comm]
  · rw [hstatus, not_not.mp hne, hempty]
    simp

lemma mem_foldl_insert {l : List Addr} {s : Finset Addr} :
    a ∈ l.foldl (fun s ip => insert ip s) s ↔ a ∈ s ∨ a ∈ l := by
  rw [foldl_iff (Q := (a ∈ ·)) (P := (a = ·)) l fun s x _ => by rw [Finset.mem_insert, or_comm]]
  simp

lemma mem_knownIPs {pods : List Pod} : a ∈ knownIPs pods ↔ ∃ pod ∈ pods, HasIP pod a := by
  have hturn : ∀ (s : Finset Addr) (pod : Pod), a ∈ (if podIPsOf pod = [] then s
      else (podIPsOf pod).foldl (fun s ip => insert ip s) s) ↔ a ∈ s ∨ HasIP pod a := by
    intro s pod
    split_ifs with hnil
    · rw [← mem_podIPsOf, hnil]
      simp
    · rw [mem_foldl_insert, mem_podIPsOf]
  rw [knownIPs, foldl_iff (Q := (a ∈ ·)) pods fun s pod _ => hturn s pod]
  simp

lemma mem_podsByNS {pods : List Pod} {ns : String} {pod : Pod} :
    pod ∈ ((podsByNS pods).lookup ns).getD [] ↔
      pod ∈ pods ∧ pod.key.ns = ns ∧ podIPsOf pod ≠ [] := by
  have hturn : ∀ (m : GoMap String (List Pod)) (x : Pod),
      pod ∈ (AList.lookup ns (if podIPsOf x = [] then m
        else GoMap.appendTo m x.key.ns [x])).getD [] ↔
      pod ∈ (m.lookup ns).getD [] ∨ podIPsOf x ≠ [] ∧ x.key.ns = ns ∧ pod = x := by
    intro m x
    split_ifs with hnil
    · simp [hnil]
    · rw [GoMap.mem_getD_appendTo, List.mem_singleton]
      simp [hnil]
  rw [podsByNS, foldl_iff (Q := fun m => pod ∈ (AList.lookup ns m).getD []) pods
    fun m x _ => hturn m x]
  simp only [AList.lookup_empty, Option.getD_none, List.not_mem_nil, false_or]
  constructor
  · rintro ⟨x, hx, hne, hns, rfl⟩
    exact ⟨hx, hns, hne⟩
  · rintro ⟨hx, hns, hne⟩
    exact ⟨pod, hx, hne, hns, rfl⟩

lemma mem_entries_nsLabels {st : PolicyStores} {e : Σ _ : String, Labels} :
    e ∈ (nsLabels st.namespaces).entries ↔
      ∃ ns ∈ st.namespaces, ns.name = e.1 ∧ ns.labels = e.2 := by
  have hkeys : (st.namespaces.map fun ns => (ns.name, ns.labels)).map Prod.fst =
      st.namespaces.map (·.name) := by simp
  have hlookup : (nsLabels st.namespaces).lookup e.1 = some e.2 ↔
      ∃ ns ∈ st.namespaces, ns.name = e.1 ∧ ns.labels = e.2 := by
    rw [nsLabels, GoMap.lookup_insertAll, AList.lookup_empty, Option.or_none,
      GoMap.lastWrite_eq_some_iff (hkeys ▸ st.namespaces_nodup)]
    simp
  rw [← hlookup]
  exact ⟨GoMap.lookup_of_mem_entries, GoMap.mem_entries_of_lookup⟩

section

variable {asSelector : AsSelector} {st : PolicyStores} {pol : NetworkPolicy}
  {peer : NetworkPolicyPeer} {a : Addr} {nss : List String} {podSel : Labels → Bool}

lemma peerNamespaces_eq_none (pol : NetworkPolicy) (m : GoMap String Labels) :
    peerNamespaces asSelector pol peer m = none ↔
      ∃ s ∈ peer.namespaceSelector, asSelector s = none := by
  unfold peerNamespaces
  cases peer.namespaceSelector with
  | none => simp
  | some s =>
    simp only [Option.mem_def, Option.some.injEq, exists_eq_left']
    cases asSelector s <;> simp

lemma peerPodSelector_eq_none :
    peerPodSelector asSelector peer = none ↔ ∃ s ∈ peer.podSelector, asSelector s = none := by
  unfold peerPodSelector
  cases peer.podSelector <;> simp

lemma peerMatches_iff
    (hns : peerNamespaces asSelector pol peer (nsLabels st.namespaces) = some nss)
    (hpod : peerPodSelector asSelector peer = some podSel) (pod : Pod) :
    PeerMatches asSelector st pol peer pod ↔ pod.key.ns ∈ nss ∧ podSel pod.labels = true := by
  refine and_congr ?_ ?_
  · unfold peerNamespaces at hns
    cases hsel : peer.namespaceSelector with
    | none =>
      simp only [hsel, Option.some.injEq] at hns
      subst hns
      simp
    | some s =>
      simp only [hsel] at hns
      cases hparse : asSelector s with
      | none => simp [hparse] at hns
      | some sel =>
        simp only [hparse, Option.some.injEq] at hns
        subst hns
        simp only [Selects, hparse, Option.some.injEq, exists_eq_left', List.mem_map,
          List.mem_filter, mem_entries_nsLabels]
        constructor
        · rintro ⟨ns, hmem, hname, hlabels⟩
          exact ⟨⟨ns.name, ns.labels⟩, ⟨⟨ns, hmem, rfl, rfl⟩, hlabels⟩, hname⟩
        · rintro ⟨e, ⟨⟨ns, hmem, hname, hlabels⟩, hsel⟩, he⟩
          exact ⟨ns, hmem, hname.trans he, hlabels ▸ hsel⟩
  · unfold peerPodSelector at hpod
    cases hsel : peer.podSelector with
    | none =>
      simp only [hsel, Option.some.injEq] at hpod
      subst hpod
      simp
    | some s =>
      simp only [hsel] at hpod
      simp [Selects, hpod]

lemma mem_addSources {m : GoMap String (List Pod)} {srcs : Finset Addr} :
    a ∈ addSources m podSel srcs nss ↔ a ∈ srcs ∨ ∃ ns ∈ nss, ∃ pod ∈ (m.lookup ns).getD [],
      podSel pod.labels = true ∧ a ∈ podIPsOf pod := by
  refine foldl_iff (Q := (a ∈ ·)) nss (fun srcs ns _ => ?_) srcs
  exact foldl_if_iff (Q := (a ∈ ·)) (P := fun pod => a ∈ podIPsOf pod)
    (f := fun srcs pod => (podIPsOf pod).foldl (fun srcs ip => insert ip srcs) srcs)
    (c := fun pod => podSel pod.labels = true) _ (fun _ _ _ => mem_foldl_insert) srcs

lemma mem_addSources_peer {srcs : Finset Addr}
    (hns : peerNamespaces asSelector pol peer (nsLabels st.namespaces) = some nss)
    (hpod : peerPodSelector asSelector peer = some podSel) :
    a ∈ addSources (podsByNS st.pods) podSel srcs nss ↔ a ∈ srcs ∨
      ∃ pod ∈ st.pods, PeerMatches asSelector st pol peer pod ∧ HasIP pod a := by
  simp only [mem_addSources, mem_podsByNS, mem_podIPsOf, peerMatches_iff hns hpod]
  refine or_congr_right ?_
  constructor
  · rintro ⟨ns, hmem, pod, ⟨hpods, rfl, -⟩, hsel, ha⟩
    exact ⟨pod, hpods, ⟨hmem, hsel⟩, ha⟩
  · rintro ⟨pod, hpods, ⟨hmem, hsel⟩, ha⟩
    refine ⟨pod.key.ns, hmem, pod, ⟨hpods, rfl, ?_⟩, hsel, ha⟩
    exact List.ne_nil_of_mem (mem_podIPsOf.mpr ha)

/-! ## Rules -/

/-- A peer admits every source or adds the addresses of the pods it matches. -/
lemma resolvePeer_cases (asSelector : AsSelector) (st : PolicyStores) (pol : NetworkPolicy)
    (peer : NetworkPolicyPeer) (acc : Finset Addr × Bool) : Unresolvable asSelector peer ∧
        resolvePeer asSelector pol (podsByNS st.pods) (nsLabels st.namespaces) acc peer =
          (acc.1, true) ∨
      ¬ Unresolvable asSelector peer ∧ ∃ nss podSel,
        peerNamespaces asSelector pol peer (nsLabels st.namespaces) = some nss ∧
        peerPodSelector asSelector peer = some podSel ∧
        resolvePeer asSelector pol (podsByNS st.pods) (nsLabels st.namespaces) acc peer =
          (addSources (podsByNS st.pods) podSel acc.1 nss, acc.2) := by
  unfold resolvePeer Unresolvable
  rw [← peerNamespaces_eq_none pol (nsLabels st.namespaces), ← peerPodSelector_eq_none]
  cases hblock : peer.ipBlock with
  | some block => simp
  | none =>
    cases hns : peerNamespaces asSelector pol peer (nsLabels st.namespaces) with
    | none => simp
    | some nss =>
      cases hpod : peerPodSelector asSelector peer with
      | none => simp
      | some podSel => simp

lemma resolvePeers_wide (asSelector : AsSelector) (st : PolicyStores) (pol : NetworkPolicy)
    (peers : List NetworkPolicyPeer) (acc : Finset Addr × Bool) :
    (peers.foldl (resolvePeer asSelector pol (podsByNS st.pods) (nsLabels st.namespaces))
      acc).2 = true ↔ acc.2 = true ∨ ∃ peer ∈ peers, Unresolvable asSelector peer := by
  refine foldl_iff (Q := fun acc : Finset Addr × Bool => acc.2 = true) peers
    (fun acc peer _ => ?_) acc
  rcases resolvePeer_cases asSelector st pol peer acc with
    ⟨hbad, heq⟩ | ⟨hgood, nss, podSel, -, -, heq⟩
  · simp [heq, hbad]
  · simp [heq, hgood]

lemma mem_resolvePeers (peers : List NetworkPolicyPeer) (acc : Finset Addr × Bool)
    (hgood : ∀ peer ∈ peers, ¬ Unresolvable asSelector peer) :
    a ∈ (peers.foldl (resolvePeer asSelector pol (podsByNS st.pods) (nsLabels st.namespaces))
      acc).1 ↔ a ∈ acc.1 ∨ ∃ peer ∈ peers,
        ∃ pod ∈ st.pods, PeerMatches asSelector st pol peer pod ∧ HasIP pod a := by
  refine foldl_iff (Q := fun acc : Finset Addr × Bool => a ∈ acc.1) peers
    (fun acc peer hpeer => ?_) acc
  rcases resolvePeer_cases asSelector st pol peer acc with
    ⟨hbad, -⟩ | ⟨-, nss, podSel, hns, hpod, heq⟩
  · exact absurd hbad (hgood peer hpeer)
  · rw [heq]
    exact mem_addSources_peer hns hpod

lemma sources_resolveRule (asSelector : AsSelector) (st : PolicyStores) (pol : NetworkPolicy)
    (rule : NetworkPolicyIngressRule) (a : Addr) :
    (match (resolveRule asSelector pol rule (podsByNS st.pods)
        (nsLabels st.namespaces)).sources with
      | none => True
      | some srcs => a ∈ srcs) ↔ AdmitsSource asSelector st pol rule a := by
  simp only [resolveRule, AdmitsSource]
  by_cases hnil : rule.from_ = []
  · simp [hnil]
  have hwide := resolvePeers_wide asSelector st pol rule.from_ (∅, false)
  simp only [hnil, if_false, false_or]
  by_cases hbad : ∃ peer ∈ rule.from_, Unresolvable asSelector peer
  · simp [hwide.mpr (.inr hbad), hbad]
  · have hgood : ∀ peer ∈ rule.from_, ¬ Unresolvable asSelector peer :=
      fun peer hpeer hun => hbad ⟨peer, hpeer, hun⟩
    have hnarrow : (rule.from_.foldl (resolvePeer asSelector pol (podsByNS st.pods)
        (nsLabels st.namespaces)) (∅, false)).2 = false := by
      rw [← Bool.not_eq_true, hwide]
      simpa using hbad
    simp [hnarrow, hbad, mem_resolvePeers rule.from_ (∅, false) hgood]

end

lemma anyPort_or_int (p : NetworkPolicyPort) :
    AnyPort p ∨ ∃ v, p.port = some (.int v) ∧ p.endPort = none := by
  unfold AnyPort
  rcases p with ⟨_ | ⟨v | name⟩, _ | e⟩ <;> simp

lemma resolvePort_of_anyPort {p : NetworkPolicyPort} (h : AnyPort p)
    (acc : Finset UInt16 × Bool) : resolvePort acc p = (acc.1, true) := by
  rcases p with ⟨_ | ⟨v | name⟩, _ | e⟩ <;> simp_all [AnyPort, resolvePort]

lemma resolvePorts_wide (ports : List NetworkPolicyPort) (acc : Finset UInt16 × Bool) :
    (ports.foldl resolvePort acc).2 = true ↔ acc.2 = true ∨ ∃ p ∈ ports, AnyPort p := by
  refine foldl_iff (Q := fun acc : Finset UInt16 × Bool => acc.2 = true) ports
    (fun acc p _ => ?_) acc
  rcases anyPort_or_int p with hany | ⟨v, hport, hend⟩
  · simp [resolvePort_of_anyPort hany, hany]
  · have hint : ¬ AnyPort p := by simp [AnyPort, hport, hend]
    simp only [resolvePort, hport, hend, hint, or_false]
    split_ifs <;> rfl

lemma mem_resolvePorts (ports : List NetworkPolicyPort) (acc : Finset UInt16 × Bool)
    (hint : ∀ p ∈ ports, ¬ AnyPort p) (port : UInt16) :
    port ∈ (ports.foldl resolvePort acc).1 ↔ port ∈ acc.1 ∨ ∃ p ∈ ports,
      ∃ v, p.port = some (.int v) ∧ 1 ≤ v ∧ v ≤ 65535 ∧ v = port.toNat := by
  refine foldl_iff (Q := fun acc : Finset UInt16 × Bool => port ∈ acc.1) ports
    (fun acc p hp => ?_) acc
  obtain ⟨v, hport, hend⟩ := (anyPort_or_int p).resolve_left (hint p hp)
  simp only [resolvePort, hport, hend, Option.some.injEq, IntOrString.int.injEq, exists_eq_left']
  by_cases hrange : 1 ≤ v ∧ v ≤ 65535
  · have hv : UInt16.ofNat v.toNat = port ↔ v = port.toNat := by
      rw [← UInt16.toNat_inj, UInt16.toNat_ofNat']
      omega
    rw [if_pos hrange, Finset.mem_insert, or_comm, eq_comm, hv]
    simp [hrange]
  · rw [if_neg hrange]
    exact (or_iff_left fun h => hrange ⟨h.1, h.2.1⟩).symm

section

variable {asSelector : AsSelector} {st : PolicyStores}

lemma ports_resolveRule (asSelector : AsSelector) (st : PolicyStores) (pol : NetworkPolicy)
    (rule : NetworkPolicyIngressRule) (port : UInt16) :
    (match (resolveRule asSelector pol rule (podsByNS st.pods) (nsLabels st.namespaces)).ports with
      | none => True
      | some ports => port ∈ ports) ↔ AdmitsPort rule port := by
  simp only [resolveRule, AdmitsPort]
  by_cases hnil : rule.ports = []
  · simp [hnil]
  have hwide := resolvePorts_wide rule.ports (∅, false)
  simp only [hnil, if_false, false_or]
  by_cases hany : ∃ p ∈ rule.ports, AnyPort p
  · simp [hwide.mpr (.inr hany), hany]
  · have hint : ∀ p ∈ rule.ports, ¬ AnyPort p := fun p hp h => hany ⟨p, hp, h⟩
    have hnarrow : (rule.ports.foldl resolvePort (∅, false)).2 = false := by
      rw [← Bool.not_eq_true, hwide]
      simpa using hany
    simp [hnarrow, hany, mem_resolvePorts rule.ports (∅, false) hint]

lemma admits_resolveRule (pol : NetworkPolicy) (rule : NetworkPolicyIngressRule) (src : Addr)
    (port : UInt16) :
    (resolveRule asSelector pol rule (podsByNS st.pods) (nsLabels st.namespaces)).admits src port =
      true ↔ AdmitsSource asSelector st pol rule src ∧ AdmitsPort rule port := by
  rw [← sources_resolveRule asSelector st pol rule src,
    ← ports_resolveRule asSelector st pol rule port, PolicyRule.admits, Bool.and_eq_true]
  refine and_congr ?_ ?_ <;> split <;> simp

/-! ## Selected backends -/

def SelectsIP (asSelector : AsSelector) (st : PolicyStores) (pol : NetworkPolicy) (ip : Addr) :
    Prop :=
  ∃ pod ∈ st.pods, HasIP pod ip ∧ SelectsPod asSelector pol pod

lemma policyAppliesToIngress_iff (pol : NetworkPolicy) :
    policyAppliesToIngress pol = true ↔ pol.policyTypes = [] ∨ .ingress ∈ pol.policyTypes := by
  simp [policyAppliesToIngress]

lemma selectPod_iff {Q : GoMap Addr (List PolicyRule) → Prop} {R : List PolicyRule → Prop}
    {ip : Addr} (happend : ∀ m k rules, Q (GoMap.appendTo m k rules) ↔ Q m ∨ k = ip ∧ R rules)
    (rules : List PolicyRule) (m : GoMap Addr (List PolicyRule)) (pod : Pod) :
    Q (selectPod rules m pod) ↔ Q m ∨ HasIP pod ip ∧ R rules := by
  rw [selectPod, foldl_iff (Q := Q) _ fun m k _ => happend m k rules]
  refine or_congr_right ?_
  constructor
  · rintro ⟨k, hk, rfl, hr⟩
    exact ⟨mem_podIPsOf.mp hk, hr⟩
  · rintro ⟨hip, hr⟩
    exact ⟨ip, mem_podIPsOf.mpr hip, rfl, hr⟩

lemma selectPolicy_iff {Q : GoMap Addr (List PolicyRule) → Prop} {R : List PolicyRule → Prop}
    {ip : Addr} (happend : ∀ m k rules, Q (GoMap.appendTo m k rules) ↔ Q m ∨ k = ip ∧ R rules)
    (m : GoMap Addr (List PolicyRule)) (pol : NetworkPolicy) :
    Q (selectPolicy asSelector (podsByNS st.pods) (nsLabels st.namespaces) m pol) ↔
      Q m ∨ SelectsIP asSelector st pol ip ∧ R (pol.ingress.map fun rule =>
        resolveRule asSelector pol rule (podsByNS st.pods) (nsLabels st.namespaces)) := by
  unfold selectPolicy SelectsIP SelectsPod
  rw [← policyAppliesToIngress_iff]
  cases happ : policyAppliesToIngress pol with
  | false => simp
  | true =>
    simp only [Bool.not_true, Bool.false_eq_true, if_false, true_and]
    cases hsel : asSelector pol.podSelector with
    | none => simp [Selects, hsel]
    | some podSel =>
      dsimp only
      rw [foldl_if_iff (Q := Q) (c := fun pod : Pod => podSel pod.labels = true) _
        fun m pod _ => selectPod_iff happend _ m pod]
      refine or_congr_right ?_
      simp only [mem_podsByNS, Selects, hsel, Option.some.injEq, exists_eq_left']
      constructor
      · rintro ⟨pod, ⟨hpod, hns, -⟩, hmatch, hip, hr⟩
        exact ⟨⟨pod, hpod, hip, hns, hmatch⟩, hr⟩
      · rintro ⟨⟨pod, hpod, hip, hns, hmatch⟩, hr⟩
        exact ⟨pod, ⟨hpod, hns, List.ne_nil_of_mem (mem_podIPsOf.mpr hip)⟩, hmatch, hip, hr⟩

variable {t : PolicyTable} {ip : Addr}

lemma isSome_selected : ((recompute asSelector t st).selected.lookup ip).isSome = true ↔
      ∃ pol ∈ st.policies, SelectsIP asSelector st pol ip := by
  have hturn : ∀ m pol, (AList.lookup ip (selectPolicy asSelector (podsByNS st.pods)
      (nsLabels st.namespaces) m pol)).isSome = true ↔
      (AList.lookup ip m).isSome = true ∨ SelectsIP asSelector st pol ip ∧ True :=
    selectPolicy_iff (Q := fun m => (AList.lookup ip m).isSome = true) (R := fun _ => True)
      fun m k rules => by rw [GoMap.isSome_lookup_appendTo, and_true]
  have h := foldl_iff (Q := fun m => (AList.lookup ip m).isSome = true) st.policies
    (fun m pol _ => hturn m pol) ∅
  simpa [recompute, PolicyTable.update] using h

lemma mem_selected {r : PolicyRule} : r ∈ ((recompute asSelector t st).selected.lookup ip).getD [] ↔
      ∃ pol ∈ st.policies, SelectsIP asSelector st pol ip ∧ ∃ rule ∈ pol.ingress,
        resolveRule asSelector pol rule (podsByNS st.pods) (nsLabels st.namespaces) = r := by
  have hturn : ∀ m pol, r ∈ (AList.lookup ip (selectPolicy asSelector (podsByNS st.pods)
      (nsLabels st.namespaces) m pol)).getD [] ↔ r ∈ (AList.lookup ip m).getD [] ∨
      SelectsIP asSelector st pol ip ∧ r ∈ pol.ingress.map fun rule =>
        resolveRule asSelector pol rule (podsByNS st.pods) (nsLabels st.namespaces) :=
    selectPolicy_iff (Q := fun m => r ∈ (AList.lookup ip m).getD []) (R := (r ∈ ·))
      fun m k rules => GoMap.mem_getD_appendTo
  have h := foldl_iff (Q := fun m => r ∈ (AList.lookup ip m).getD []) st.policies
    (fun m pol _ => hturn m pol) ∅
  simpa [recompute, PolicyTable.update] using h

end

/-! ## The verdict -/

lemma allow_eq_false {t : PolicyTable} {src backend : Addr} {port : UInt16} :
    PolicyTable.allow (some t) src backend port = false ↔
      src.unmap.isLoopback = false ∧ src.unmap ∉ t.alwaysAllow ∧
        (t.selected.lookup backend.unmap).isSome = true ∧
        (∀ r ∈ (t.selected.lookup backend.unmap).getD [], ¬ r.admits src.unmap port = true) ∧
        (src.unmap ∈ t.known ∨ t.vmnet.isValid = true ∧ t.vmnet.contains src.unmap = true) := by
  simp only [PolicyTable.allow]
  by_cases hloop : src.unmap.isLoopback = true
  · simp [hloop]
  by_cases halways : src.unmap ∈ t.alwaysAllow
  · simp [hloop, halways]
  cases hsel : t.selected.lookup backend.unmap with
  | none => simp [hloop, halways]
  | some rules =>
    by_cases hany : rules.any (·.admits src.unmap port) = true
    · obtain ⟨r, hr, hadm⟩ := List.any_eq_true.mp hany
      constructor
      · intro h
        simp [hloop, halways, hany] at h
      · rintro ⟨-, -, -, hnone, -⟩
        exact absurd hadm (hnone r hr)
    · have hnone : ∀ r ∈ rules, ¬ r.admits src.unmap port = true :=
        fun r hr hadm => hany (List.any_eq_true.mpr ⟨r, hr, hadm⟩)
      by_cases hknown : src.unmap ∈ t.known
      · simp_all
      · simp_all

section

variable {asSelector : AsSelector} {t : PolicyTable} {st st' : PolicyStores} {src backend : Addr}
  {port : UInt16}

/-- No rule of an address admits the flow, in the terms of the API. -/
lemma no_rule_iff (hip : Addr) :
    (∀ r ∈ ((recompute asSelector t st).selected.lookup hip).getD [], ¬ r.admits src port = true) ↔
    ∀ pod ∈ st.pods, HasIP pod hip → ∀ pol ∈ st.policies, SelectsPod asSelector pol pod →
      ∀ rule ∈ pol.ingress, ¬ (AdmitsSource asSelector st pol rule src ∧ AdmitsPort rule port) := by
  simp only [mem_selected]
  constructor
  · intro h pod hpod hip pol hpol hsel rule hrule hadm
    refine h _ ⟨pol, hpol, ⟨pod, hpod, hip, hsel⟩, rule, hrule, rfl⟩ ?_
    exact (admits_resolveRule pol rule src port).mpr hadm
  · rintro h r ⟨pol, hpol, ⟨pod, hpod, hip, hsel⟩, rule, hrule, rfl⟩ hadm
    exact h pod hpod hip pol hpol hsel rule hrule ((admits_resolveRule pol rule src port).mp hadm)

lemma allow_recompute_eq_false :
    PolicyTable.allow (some (recompute asSelector t st)) src backend port = false ↔
      Denies asSelector t st src backend port := by
  have hselected : (∃ pol ∈ st.policies, SelectsIP asSelector st pol backend.unmap) ↔
      ∃ pod ∈ st.pods, HasIP pod backend.unmap ∧
        ∃ pol ∈ st.policies, SelectsPod asSelector pol pod := by
    constructor
    · rintro ⟨pol, hpol, pod, hpod, hip, hsel⟩
      exact ⟨pod, hpod, hip, pol, hpol, hsel⟩
    · rintro ⟨pod, hpod, hip, pol, hpol, hsel⟩
      exact ⟨pol, hpol, pod, hpod, hip, hsel⟩
  have hknown : (recompute asSelector t st).known = knownIPs st.pods := rfl
  rw [allow_eq_false, isSome_selected, hselected, no_rule_iff, hknown, mem_knownIPs]
  constructor
  · rintro ⟨hloop, hexempt, hsel, hrule, hattr⟩
    exact ⟨hloop, hexempt, hsel, hrule, hattr⟩
  · rintro ⟨hloop, hexempt, hsel, hrule, hattr⟩
    exact ⟨hloop, hexempt, hsel, hrule, hattr⟩

/-! ## The order of the stores -/

lemma AdmitsSource.reorder (h : st.Reorders st') {pol : NetworkPolicy}
    {rule : NetworkPolicyIngressRule} (hadm : AdmitsSource asSelector st pol rule src) :
    AdmitsSource asSelector st' pol rule src := by
  refine hadm.imp_right fun hadm => hadm.imp_right ?_
  rintro ⟨peer, hpeer, pod, hpod, ⟨hns, hsel⟩, hip⟩
  refine ⟨peer, hpeer, pod, h.pods.mem_iff.mp hpod, ⟨?_, hsel⟩, hip⟩
  revert hns
  cases peer.namespaceSelector with
  | none => exact id
  | some s => exact fun ⟨ns, hmem, hns⟩ => ⟨ns, h.namespaces.mem_iff.mp hmem, hns⟩

lemma Denies.reorder (h : st.Reorders st') (hd : Denies asSelector t st src backend port) :
    Denies asSelector t st' src backend port where
  not_loopback := hd.not_loopback
  not_exempt := hd.not_exempt
  selected := by
    obtain ⟨pod, hpod, hip, pol, hpol, hsel⟩ := hd.selected
    exact ⟨pod, h.pods.mem_iff.mp hpod, hip, pol, h.policies.mem_iff.mp hpol, hsel⟩
  no_rule pod hpod hip pol hpol hsel rule hrule hadm :=
    hd.no_rule pod (h.pods.mem_iff.mpr hpod) hip pol (h.policies.mem_iff.mpr hpol) hsel rule hrule
      ⟨hadm.1.reorder h.symm, hadm.2⟩
  attributed := hd.attributed.imp_left fun ⟨pod, hpod, hip⟩ =>
    ⟨pod, h.pods.mem_iff.mp hpod, hip⟩

end

/-- The table denies exactly the flows the policies deny, however the stores are listed. -/
theorem policy_verdict (asSelector : AsSelector) (t : PolicyTable) (st : PolicyStores)
    (src backend : Addr) (port : UInt16) :
    (PolicyTable.allow (some (recompute asSelector t st)) src backend port = false ↔
      Denies asSelector t st src backend port) ∧
    ∀ st', st.Reorders st' →
      PolicyTable.allow (some (recompute asSelector t st')) src backend port =
        PolicyTable.allow (some (recompute asSelector t st)) src backend port := by
  refine ⟨allow_recompute_eq_false, fun st' h => ?_⟩
  have hiff : PolicyTable.allow (some (recompute asSelector t st')) src backend port = false ↔
      PolicyTable.allow (some (recompute asSelector t st)) src backend port = false := by
    rw [allow_recompute_eq_false, allow_recompute_eq_false]
    exact ⟨.reorder h.symm, .reorder h⟩
  cases hst : PolicyTable.allow (some (recompute asSelector t st)) src backend port with
  | false => exact hiff.mpr hst
  | true =>
    refine Bool.eq_true_of_not_eq_false fun hst' => ?_
    rw [hiff.mp hst'] at hst
    cases hst

def labelled (app : String) : Labels := (∅ : Labels).insert "app" app

def appSelector (app : String) : LabelSelector := ⟨labelled app, []⟩

def samplePod (name ip : String) : Pod := ⟨⟨"default", name⟩, labelled name, [ip], ip⟩

def samplePolicy : NetworkPolicy where
  key := ⟨"default", "server"⟩
  podSelector := appSelector "server"
  ingress := [⟨[⟨some (.int 8080), none⟩], [⟨some (appSelector "admin"), none, none⟩]⟩]
  policyTypes := []

def samplePods : List Pod :=
  [samplePod "server" "10.42.0.5", samplePod "admin" "::ffff:10.42.0.6",
    samplePod "guest" "10.42.0.7"]

def sampleStores : PolicyStores where
  pods := samplePods
  namespaces := []
  policies := [samplePolicy]
  pods_nodup := by decide
  namespaces_nodup := by decide
  policies_nodup := by decide

def reversedStores : PolicyStores where
  pods := samplePods.reverse
  namespaces := []
  policies := [samplePolicy]
  pods_nodup := by decide
  namespaces_nodup := by decide
  policies_nodup := by decide

theorem policy_verdict_sampleStores :
    Denies .standard (newPolicyTableVMNet .zero []) sampleStores (.v4 0x0a2a0007#32)
        (.v4 0x0a2a0005#32) 8080 ∧
      ¬ Denies .standard (newPolicyTableVMNet .zero []) sampleStores (.v4 0x0a2a0006#32)
        (.v4 0x0a2a0005#32) 8080 ∧
      PolicyTable.allow (some (recompute .standard (newPolicyTableVMNet .zero []) reversedStores))
        (.v4 0x0a2a0007#32) (.v4 0x0a2a0005#32) 8080 =
      PolicyTable.allow (some (recompute .standard (newPolicyTableVMNet .zero []) sampleStores))
        (.v4 0x0a2a0007#32) (.v4 0x0a2a0005#32) 8080 := by
  refine ⟨(policy_verdict .standard _ sampleStores _ _ _).1.mp (by decide), fun h => ?_,
    (policy_verdict .standard _ sampleStores _ _ _).2 reversedStores
      ⟨(List.reverse_perm samplePods).symm, .refl _, .refl _⟩⟩
  exact absurd ((policy_verdict .standard _ sampleStores _ _ _).1.mpr h) (by decide)

end DarwinNet.Proxy
