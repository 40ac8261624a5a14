import DarwinNet.Netd.Identity
import DarwinNet.Netd.MeshIdentity

/-!
The privilege boundary of the daemon (`handleEnsureAlias`, `handleRemoveAlias`,
`handleConfigureMesh`): what the strings of a request can make the root executor do.

Requests are handled one at a time here, on any number of connections (`OneAtATime`), so the
identity a request was checked against is still in force when the executor is called.
`executor_call_allowed`: every alias call is for a unicast IPv4 address of the node or of the
Service CIDR, and every plan has only /24s of the aggregate off the node's own.
-/

namespace DarwinNet.Netd

open Lib Netip
open Mesh (Plan Netv1 MeshPeerSpec validatePlan accepted_of_validatePlan IsNodeRange)

/-! ## What the executor may be asked for -/

/-- A unicast IPv4 address of the node, or of the Service CIDR. -/
structure AliasPolicy (cfg : Config) (node : Prefix) (ip : Addr) : Prop where
  is4 : ip.is4 = true
  unicast : isMulticast ip = false ∧ isUnspecified ip = false
  range : cfg.clusterAggregate.contains ip = true ∧ node.contains ip = true ∨
    cfg.serviceCIDR.contains ip = true

/-- A /24 in the aggregate that shares no address with the node. -/
structure PeerRange (cfg : Config) (node r : Prefix) : Prop where
  isNodeRange : IsNodeRange r
  inside : ∀ ip, r.contains ip = true → cfg.clusterAggregate.contains ip = true
  disjoint : ∀ ip, r.contains ip = true → node.contains ip = false

/-- Routes and allowed IPs are ranges of peers, and no more than the cap. -/
structure PlanPolicy (cfg : Config) (node : Prefix) (plan : Plan) : Prop where
  routes : ∀ r ∈ plan.routes, PeerRange cfg node r
  allowed : ∀ pc ∈ plan.peers, ∀ a ∈ pc.allowedIPs, PeerRange cfg node a
  cap : plan.routes.length ≤ cfg.maxPerConn

inductive ExecCall
  | ensureAlias (ip : Addr)
  | removeAlias (ip : Addr)
  | configureMesh (plan : Plan)

def execCall (s : Server) : Label → Option ExecCall
  | .ensureExec c _ =>
    match s.stage c with
    | .ensuring ip => some (.ensureAlias ip)
    | _ => none
  | .removeExec c _ =>
    match s.stage c with
    | .removing ip => some (.removeAlias ip)
    | _ => none
  | .configureExec c _ =>
    match s.stage c with
    | .keyed plan => some (.configureMesh plan)
    | _ => none
  | _ => none

/-- What the node may ask of the executor. -/
def ExecCall.Allowed (cfg : Config) (node : Prefix) : ExecCall → Prop
  | .ensureAlias ip | .removeAlias ip => AliasPolicy cfg node ip
  | .configureMesh plan => PlanPolicy cfg node plan

/-! ## What the checks of a request give -/

variable {cfg : Config} {node : Prefix}

lemma aliasPolicy_of_validate {ip : Addr} (h : validateAliasIP cfg node ip = true) :
    AliasPolicy cfg node ip := by
  have h4 := is4_of_validateAliasIP h
  unfold validateAliasIP at h
  split at h
  · cases h
  split at h
  · cases h
  rename_i hunicast
  simp only [Bool.or_eq_true, not_or, Bool.not_eq_true] at hunicast
  split at h
  · rename_i hnode
    exact ⟨h4, hunicast, .inl (by simpa using hnode)⟩
  · simp only [Bool.and_eq_true] at h
    exact ⟨h4, hunicast, .inr h.2⟩

lemma peerRange_of_overlaps {r : Prefix} (hbits : cfg.clusterAggregate.bits ≤ 24)
    (hnode : IsNodeRange node) (hr : IsNodeRange r) (hoff : r.overlaps node = false)
    (hin : cfg.clusterAggregate.contains r.ip = true) : PeerRange cfg node r := by
  have hwithin : withinAggregate r cfg.clusterAggregate = true := by
    have h24 : r.bits = 24 := by
      obtain ⟨base, -, rfl⟩ := hr
      rfl
    simp only [withinAggregate, hin, h24, Bool.true_and, decide_eq_true_eq]
    exact hbits
  refine ⟨hr, ?_, ?_⟩
  · intro ip hip
    obtain ⟨x, rfl⟩ := hr.exists_v4 hip
    exact aggregate_contains hr hwithin hip
  · intro ip hip
    rw [Bool.eq_false_iff]
    intro hown
    have hover := (hr.overlaps_iff hnode).mpr (hr.eq_of_contains hnode hip hown)
    cases hoff.symm.trans hover

lemma planPolicy_of_validate {specs : List MeshPeerSpec} {plan : Plan}
    (hbits : cfg.clusterAggregate.bits ≤ 24) (hmasked : node.masked = node)
    (h : validatePlan cfg.netv1 node specs = .ok plan)
    (hroutes : ∀ r ∈ plan.routes, cfg.clusterAggregate.contains r.ip = true)
    (hcap : plan.routes.length ≤ cfg.maxPerConn) : PlanPolicy cfg node plan := by
  have hacc := accepted_of_validatePlan h
  have hnode : IsNodeRange node := hmasked ▸ hacc.own_range
  -- a peer's range is one of the routes, so the check on the routes covers it
  have hpeer : ∀ pc ∈ plan.peers, PeerRange cfg node pc.podRange ∧
      ∀ a ∈ pc.allowedIPs, a = pc.podRange := by
    intro pc hpc
    obtain ⟨spec, hmem⟩ := hacc.exists_spec hpc
    have hplanned := hacc.planned hmem
    have hroute : pc.podRange ∈ plan.routes :=
      (hacc.mem_routes _).mpr (List.mem_map.mpr ⟨pc, hpc, rfl⟩)
    refine ⟨?_, hplanned.allowed⟩
    exact peerRange_of_overlaps hbits hnode hplanned.isNodeRange (hmasked ▸ hplanned.off_self)
      (hroutes _ hroute)
  refine ⟨?_, ?_, hcap⟩
  · intro r hr
    obtain ⟨pc, hpc, rfl⟩ := List.mem_map.mp ((hacc.mem_routes r).mp hr)
    exact (hpeer pc hpc).1
  · intro pc hpc a ha
    rw [(hpeer pc hpc).2 a ha]
    exact (hpeer pc hpc).1

/-! ## One request at a time -/

def Label.begins : Label → Bool
  | .ensureAlias .. | .removeAlias .. | .configureMesh .. | .removeMesh .. | .icRequest .. => true
  | _ => false

def Stage.busy (st : Stage) : Bool := st ≠ .idle

/-- A request begins only when no other one is being served. -/
def OneAtATime (s : Server) (a : Label) : Prop := a.begins = true → s.anyStage Stage.busy = false

instance decidableOneAtATime (s : Server) (a : Label) : Decidable (OneAtATime s a) :=
  inferInstanceAs (Decidable (_ → _))

lemma OneAtATime.idle {s : Server} {a : Label} (h : OneAtATime s a) (ha : a.begins = true)
    (c : Nat) : s.stage c = .idle := by
  have hbusy := Server.stage_of_anyStage rfl (h ha) c
  simpa [Stage.busy] using hbusy

def Stage.aliasIP? : Stage → Option Addr
  | .ensuring ip | .removing ip => some ip
  | _ => none

/-- One request is being served, and the call it is about to make is allowed. -/
structure Bounded (cfg : Config) (s : Server) : Prop where
  single : ∀ c c', s.stage c ≠ .idle → s.stage c' ≠ .idle → c' = c
  aliases : ∀ c ip, (s.stage c).aliasIP? = some ip → AliasPolicy cfg s.nodePodCIDR ip
  plans : ∀ c plan, (s.stage c).plan? = some plan → PlanPolicy cfg s.nodePodCIDR plan

namespace Bounded

variable {cfg : Config} {s s' t : Server} {a : Label} {c : Nat} {x : Conn}

lemma others (hs : Bounded cfg s) {st : Stage} (hc : s.stage c = st) (hst : st ≠ .idle) :
    ∀ c', c' ≠ c → s.stage c' = .idle := by
  intro c' hne
  by_contra hbusy
  exact hne (hs.single c c' (by rw [hc]; exact hst) hbusy)

lemma setConn (hothers : ∀ c', c' ≠ c → s.stage c' = .idle) (hconns : s'.conns = s.conns)
    (halias : ∀ ip, x.stage.aliasIP? = some ip → AliasPolicy cfg s'.nodePodCIDR ip)
    (hplan : ∀ plan, x.stage.plan? = some plan → PlanPolicy cfg s'.nodePodCIDR plan) :
    Bounded cfg (s'.setConn c x) := by
  have hidle : ∀ c', c' ≠ c → (s'.setConn c x).stage c' = .idle := by
    intro c' hne
    rw [Base.stage_other hconns c' hne, hothers c' hne]
  have hself : (s'.setConn c x).stage c = x.stage := Base.stage_self
  refine ⟨?_, ?_, ?_⟩
  · intro c₁ c₂ h₁ h₂
    by_cases hc₁ : c₁ = c
    · by_cases hc₂ : c₂ = c
      · rw [hc₁, hc₂]
      · exact absurd (hidle c₂ hc₂) h₂
    · exact absurd (hidle c₁ hc₁) h₁
  · intro c' ip h
    by_cases hc' : c' = c
    · rw [hc', hself] at h
      exact halias ip h
    · rw [hidle c' hc'] at h
      cases h
  · intro c' plan h
    by_cases hc' : c' = c
    · rw [hc', hself] at h
      exact hplan plan h
    · rw [hidle c' hc'] at h
      cases h

lemma plain (hothers : ∀ c', c' ≠ c → s.stage c' = .idle) (hconns : s'.conns = s.conns)
    (halias : x.stage.aliasIP? = none) (hplan : x.stage.plan? = none) :
    Bounded cfg (s'.setConn c x) := by
  refine setConn hothers hconns ?_ ?_
  · intro ip h
    cases halias.symm.trans h
  · intro plan h
    cases hplan.symm.trans h

lemma init (h : Started cfg s) : Bounded cfg s := by
  refine ⟨?_, ?_, ?_⟩
  · intro c c' hc
    exact absurd (h.stage c) hc
  · intro c ip hc
    rw [h.stage c] at hc
    cases hc
  · intro c plan hc
    rw [h.stage c] at hc
    cases hc

lemma step (hbits : cfg.clusterAggregate.bits ≤ 24) (hb : Base cfg s) (hs : Bounded cfg s)
    (hok : OneAtATime s a) (h : StepCase cfg s a t) : Bounded cfg t := by
  cases h with
  | refused a => exact hs
  | ensureAlias c text ip x hmu hc hvalid hx =>
    refine setConn (fun c' _ => hok.idle rfl c') rfl ?_ ?_
    · intro ip' h
      rw [hx] at h
      cases h
      exact aliasPolicy_of_validate hvalid
    · intro plan h
      rw [hx] at h
      cases h
  | ensureExec c o ip x hc hx | removeExec c o ip x hc hx =>
    rcases hx with ⟨hx, -⟩ | ⟨hx, -⟩ <;>
      exact plain (hs.others hc (by simp)) rfl (by rw [hx]; rfl) (by rw [hx]; rfl)
  | removeAlias c text ip hmu hc hvalid =>
    refine setConn (fun c' _ => hok.idle rfl c') rfl ?_ ?_
    · intro ip' h
      cases h
      exact aliasPolicy_of_validate hvalid
    · intro plan h
      cases h
  | trackAlias c ip hmu hc | untrackAlias c ip hmu hc | confirm c args hc
  | adoptRefused c want args hc | adoptChecked c want args hic hmu hc
  | adoptFailed c o want args hc | adoptSet c o want args hc | adoptWrite c want args hc
  | trackMesh c n hmu hc | untrackMesh c hmu hc | icLock c verb slot addr hic hc
  | icOwn c slot addr hmu hc | icDrop c slot addr hmu hc | icUnlock c hc =>
    exact plain (hs.others hc (by simp)) rfl rfl rfl
  | configureMesh c args st hc hst =>
    rcases hst with rfl | rfl | ⟨want, rfl, -⟩ <;>
      exact plain (fun c' _ => hok.idle rfl c') rfl rfl rfl
  | validate c args x hmu hc hx =>
    have hothers := hs.others hc (by simp)
    rcases hx with hx | ⟨specs, plan, hx, hvalid, hroutes, hcap⟩
    · exact plain hothers rfl (by rw [hx]; rfl) (by rw [hx]; rfl)
    refine setConn hothers rfl ?_ ?_
    · intro ip h
      rw [hx] at h
      cases h
    · intro plan' h
      rw [hx] at h
      cases h
      exact planPolicy_of_validate hbits hb.masked hvalid hroutes hcap
  | resolveKey c err plan st hc hst =>
    have hothers := hs.others hc (by simp)
    rcases hst with rfl | rfl
    · exact plain hothers rfl rfl rfl
    refine setConn hothers rfl ?_ ?_
    · intro ip h
      cases h
    · intro plan' h
      refine hs.plans c plan' ?_
      rw [hc]
      exact h
  | configureExec c o plan st hc hst =>
    rcases hst with rfl | ⟨n, rfl⟩ <;> exact plain (hs.others hc (by simp)) rfl rfl rfl
  | removeMesh c o st hc hst =>
    rcases hst with rfl | rfl <;> exact plain (fun c' _ => hok.idle rfl c') rfl rfl rfl
  | icRequest => exact plain (fun c' _ => hok.idle rfl c') rfl rfl rfl
  | icExec c o verb slot addr st hc hst =>
    rcases hst with rfl | rfl <;> exact plain (hs.others hc (by simp)) rfl rfl rfl

lemma allowed (hs : Bounded cfg s) {call : ExecCall} (h : execCall s a = some call) :
    call.Allowed cfg s.nodePodCIDR := by
  unfold execCall at h
  (repeat' split at h) <;> cases h
  next c _ _ _ hc => exact hs.aliases c _ (by rw [hc]; rfl)
  next c _ _ _ hc => exact hs.aliases c _ (by rw [hc]; rfl)
  next c _ _ _ hc => exact hs.plans c _ (by rw [hc]; rfl)

end Bounded

/-- Where requests do not overlap, the root executor is called only for addresses and plans that the
node may have, whatever the requests say. -/
theorem executor_call_allowed {cfg : Config} (hbits : cfg.clusterAggregate.bits ≤ 24) {s : Server}
    (h : (netdMachine cfg).Reach OneAtATime s) {a : Label} {call : ExecCall}
    (hcall : execCall s a = some call) : call.Allowed cfg s.nodePodCIDR :=
  (Base.under h Bounded.init (Bounded.step hbits)).2.allowed hcall

def adoptedPlanSteps : List Label :=
  adoptSteps 1 ++ [.validate 1, .resolveKey 1 none, .configureExec 1 {}, .trackMesh 1] ++
    planSteps 0 "10.42.2.0/24"

theorem executor_call_allowed_adopted : ∃ s plan, (netdMachine labConfig).Reach OneAtATime s ∧
    execCall s (.configureExec 0 {}) = some (.configureMesh plan) ∧
      plan.routes = [Prefix.v4 0x0a2a0200 24] ∧ PlanPolicy labConfig s.nodePodCIDR plan := by
  obtain ⟨s, hreach, hfact⟩ : ∃ s, (netdMachine labConfig).Reach OneAtATime s ∧
      (keyedPlan s 0).map (·.routes) = some [Prefix.v4 0x0a2a0200 24] :=
    Machine.Reach.exists_run adoptedPlanSteps started_labServer (by decide +kernel)
      (by decide +kernel)
  obtain ⟨plan, hplan, hroutes⟩ := Option.map_eq_some_iff.mp hfact
  have hcall : execCall s (.configureExec 0 {}) = some (.configureMesh plan) := by
    simp only [execCall, stage_of_keyedPlan hplan]
  exact ⟨s, plan, hreach, hcall, hroutes, executor_call_allowed (by decide) hreach hcall⟩

end DarwinNet.Netd
