import DarwinNet.Netd.Steps

/-!
The identity a mesh plan is validated against (`handleConfigureMesh`).

The plan is validated against the identity read under `s.mu`, and handed to the executor
later. An adoption on another connection can run in between, since its guard sees recorded
meshes only (`configureMesh_stale_plan`). Without such an adoption no plan reaches the
executor that overlaps its node pod CIDR (`configureMesh_off_identity`).
-/

namespace DarwinNet.Netd

open Lib Netip
open Mesh (Plan PeerConfig Netv1 MeshPeerSpec validatePlan accepted_of_validatePlan)

/-- No route or allowed IP of the plan overlaps the range. -/
def OffCIDR (plan : Plan) (cidr : Prefix) : Prop :=
  (∀ r ∈ plan.routes, r.overlaps cidr = false) ∧
    ∀ pc ∈ plan.peers, ∀ a ∈ pc.allowedIPs, a.overlaps cidr = false

instance decidableOffCIDR (plan : Plan) (cidr : Prefix) : Decidable (OffCIDR plan cidr) :=
  inferInstanceAs (Decidable (_ ∧ _))

lemma offCIDR_of_validatePlan {N : Netv1} {node : Prefix} {specs : List MeshPeerSpec}
    {plan : Plan} (h : validatePlan N node specs = .ok plan) (hmasked : node.masked = node) :
    OffCIDR plan node := by
  have hacc := accepted_of_validatePlan h
  have hoff : ∀ pc ∈ plan.peers, pc.podRange.overlaps node = false ∧
      ∀ a ∈ pc.allowedIPs, a = pc.podRange := by
    intro pc hpc
    obtain ⟨spec, hmem⟩ := hacc.exists_spec hpc
    have hplanned := hacc.planned hmem
    have hself := hplanned.off_self
    rw [hmasked] at hself
    exact ⟨hself, hplanned.allowed⟩
  constructor
  · intro r hr
    obtain ⟨pc, hpc, rfl⟩ := List.mem_map.mp ((hacc.mem_routes r).mp hr)
    exact (hoff pc hpc).1
  · intro pc hpc a ha
    rw [(hoff pc hpc).2 a ha]
    exact (hoff pc hpc).1

namespace Stage

/-- The validated plan a request has not yet handed to the executor. -/
def plan? : Stage → Option Plan
  | .planned plan | .keyed plan => some plan
  | _ => none

def holdsPlan (st : Stage) : Bool := st.plan?.isSome

end Stage

/-- Every plan on its way is off the identity in force; none is while the executor has
moved. -/
structure PlansOff (s : Server) : Prop where
  off : ∀ c plan, (s.stage c).plan? = some plan → OffCIDR plan s.nodePodCIDR
  moved : ∀ c p, (s.stage c).moved? = some p → ∀ c', (s.stage c').plan? = none

namespace PlansOff

variable {cfg : Config} {s s' t : Server} {a : Label} {c : Nat}

lemma setConn (hb : Base cfg s) (hs : PlansOff s) {x : Conn} (hconns : s'.conns = s.conns)
    (hnode : s'.nodePodCIDR = s.nodePodCIDR) (hmoved : x.stage.moved? = none)
    (hplan : ∀ plan, x.stage.plan? = some plan →
      (s.stage c).plan? = some plan ∨ s.mu = none ∧ OffCIDR plan s.nodePodCIDR) :
    PlansOff (s'.setConn c x) := by
  have hother := Base.stage_other (c := c) (x := x) hconns
  have hself : (s'.setConn c x).stage c = x.stage := Base.stage_self
  have hnode' : (s'.setConn c x).nodePodCIDR = s.nodePodCIDR := hnode
  constructor
  · intro c' plan h
    rw [hnode']
    by_cases hc : c' = c
    · rw [hc, hself] at h
      rcases hplan plan h with hold | ⟨-, hoff⟩
      · exact hs.off c plan hold
      · exact hoff
    · rw [hother c' hc] at h
      exact hs.off c' plan h
  · intro c' p h c''
    have hne : c' ≠ c := by
      rintro rfl
      rw [hself, hmoved] at h
      cases h
    rw [hother c' hne] at h
    by_cases hc : c'' = c
    · rw [hc, hself]
      cases hx : x.stage.plan? with
      | none => rfl
      | some plan =>
        rcases hplan plan hx with hold | ⟨hfree, -⟩
        · cases (hs.moved c' p h c).symm.trans hold
        · cases (hb.not_moved hfree c').symm.trans h
    · rw [hother c'' hc]
      exact hs.moved c' p h c''

lemma plain (hb : Base cfg s) (hs : PlansOff s) {x : Conn} (hconns : s'.conns = s.conns)
    (hnode : s'.nodePodCIDR = s.nodePodCIDR) (hmoved : x.stage.moved? = none)
    (hplan : x.stage.plan? = none) : PlansOff (s'.setConn c x) := by
  refine setConn hb hs hconns hnode hmoved ?_
  intro plan h
  rw [hplan] at h
  cases h

lemma adoptSet {o : MeshOutcomes} {want : Prefix} {args : ConfigureMeshArgs}
    (hc : s.stage c = .adoptChecked want args) (hset : (s.priv.setNodePodCIDR o want).2 = none)
    (hquiet : Quiet Stage.holdsPlan s (.adoptExec c o)) :
    PlansOff ({ s with priv := (s.priv.setNodePodCIDR o want).1 }.goto c
      (.adoptSet want args)) := by
  have hnone : ∀ c', (({ s with priv := (s.priv.setNodePodCIDR o want).1 }.goto c
      (.adoptSet want args)).stage c').plan? = none := by
    intro c'
    rw [Server.stage_goto]
    split
    · rfl
    · have hnot : ((s.stage c').plan?).isSome = false := hquiet.stage hc hset rfl c'
      exact Option.isNone_iff_eq_none.mp (Option.isSome_eq_false_iff.mp hnot)
  refine ⟨?_, fun _ _ _ => hnone⟩
  intro c' plan h
  cases (hnone c').symm.trans h

lemma adoptWrite (hs : PlansOff s) {want : Prefix} {args : ConfigureMeshArgs}
    (hc : s.stage c = .adoptSet want args) :
    PlansOff ({ s with nodePodCIDR := want, identityConfirmed := true, icMu := none
                       mu := none }.goto c (.adopted args)) := by
  have hnone : ∀ c', (({ s with nodePodCIDR := want, identityConfirmed := true, icMu := none
                                mu := none }.goto c (.adopted args)).stage c').plan? = none := by
    intro c'
    rw [Server.stage_goto]
    split
    · rfl
    · exact hs.moved c want (by rw [hc]; rfl) c'
  refine ⟨?_, fun _ _ _ => hnone⟩
  intro c' plan h
  cases (hnone c').symm.trans h

lemma step (hb : Base cfg s) (hs : PlansOff s) (hok : Quiet Stage.holdsPlan s a)
    (h : StepCase cfg s a t) : PlansOff t := by
  cases h with
  | refused a => exact hs
  | ensureAlias c text ip x hmu hc hvalid hx =>
    exact plain hb hs rfl rfl (by rw [hx]; rfl) (by rw [hx]; rfl)
  | ensureExec c o ip x hc hx | removeExec c o ip x hc hx =>
    rcases hx with ⟨hx, -⟩ | ⟨hx, -⟩ <;>
      exact plain hb hs rfl rfl (by rw [hx]; rfl) (by rw [hx]; rfl)
  | adoptSet c o want args hc hset => exact adoptSet hc hset hok
  | adoptWrite c want args hc => exact adoptWrite hs hc
  | validate c args x hmu hc hx =>
    rcases hx with hx | ⟨specs, plan, hx, hvalid, -⟩
    · exact plain hb hs rfl rfl (by rw [hx]; rfl) (by rw [hx]; rfl)
    refine setConn hb hs rfl rfl (by rw [hx]; rfl) ?_
    intro plan' h
    rw [hx] at h
    cases h
    exact .inr ⟨hmu, offCIDR_of_validatePlan hvalid hb.masked⟩
  | resolveKey c err plan st hc hst =>
    rcases hst with rfl | rfl
    · exact plain hb hs rfl rfl rfl rfl
    refine setConn hb hs rfl rfl rfl ?_
    intro plan' h
    rw [hc]
    exact .inl h
  | configureMesh c args st hc hst =>
    rcases hst with rfl | rfl | ⟨want, rfl, -⟩ <;> exact plain hb hs rfl rfl rfl rfl
  | configureExec c o plan st hc hst =>
    rcases hst with rfl | ⟨n, rfl⟩ <;> exact plain hb hs rfl rfl rfl rfl
  | removeMesh c o st hc hst | icExec c o verb slot addr st hc hst =>
    rcases hst with rfl | rfl <;> exact plain hb hs rfl rfl rfl rfl
  | _ => exact plain hb hs rfl rfl rfl rfl

lemma init (h : Started cfg s) : PlansOff s := by
  constructor
  · intro c plan hc
    rw [h.stage c] at hc
    cases hc
  · intro c p hc
    rw [h.stage c] at hc
    cases hc

end PlansOff

/-- A plan on its way to the executor is off the executor's pod CIDR, where no adoption comes
between its validation and its use. -/
theorem configureMesh_off_identity {cfg : Config} {s : Server}
    (h : (netdMachine cfg).Reach (Quiet Stage.holdsPlan) s) {c : Nat} {plan : Plan}
    (hc : s.stage c = .keyed plan) : OffCIDR plan s.priv.nodePodCIDR := by
  have hinv : Base cfg s ∧ PlansOff s := Base.under h .init .step
  have hplan : (s.stage c).plan? = some plan := by
    rw [hc]
    rfl
  have hsynced : s.priv.nodePodCIDR = s.nodePodCIDR := by
    refine hinv.1.synced fun c' => ?_
    cases hm : (s.stage c').moved? with
    | none => rfl
    | some p => cases (hinv.2.moved c' p hm c).symm.trans hplan
  rw [hsynced]
  exact hinv.2.off c plan hplan

def planSteps (c : Nat) (podCIDR : String) : List Label :=
  [.configureMesh c ⟨"", [⟨Mesh.keyA, "b:51820", [podCIDR]⟩]⟩, .validate c, .resolveKey c none]

def keyedPlan (s : Server) (c : Nat) : Option Plan :=
  match s.stage c with
  | .keyed plan => some plan
  | _ => none

lemma stage_of_keyedPlan {s : Server} {c : Nat} {plan : Plan} (h : keyedPlan s c = some plan) :
    s.stage c = .keyed plan := by
  unfold keyedPlan at h
  split at h
  · rename_i hstage
    cases h
    exact hstage
  · cases h

/-- A plan validated before an adoption is applied after it, with a route to the new pod CIDR. -/
theorem configureMesh_stale_plan : ∃ s t plan, (netdMachine labConfig).Reach Machine.always s ∧
    s.stage 0 = .keyed plan ∧ (netdMachine labConfig).step s (.configureExec 0 {}) = some t ∧
      s.priv.nodePodCIDR ∈ plan.routes ∧ ¬ OffCIDR plan s.priv.nodePodCIDR := by
  have hrun : ((netdMachine labConfig).run labServer
      (planSteps 0 "10.42.1.0/24" ++ adoptSteps 1)).bind (fun s => (keyedPlan s 0).map fun plan =>
        (((netdMachine labConfig).step s (.configureExec 0 {})).isSome,
          decide (s.priv.nodePodCIDR ∈ plan.routes ∧ ¬ OffCIDR plan s.priv.nodePodCIDR))) =
      some (true, true) := by
    decide +kernel
  obtain ⟨s, hs, hrun⟩ := Option.bind_eq_some_iff.mp hrun
  obtain ⟨plan, hplan, hfact⟩ := Option.map_eq_some_iff.mp hrun
  obtain ⟨hstep, hfact⟩ := Prod.mk.inj hfact
  obtain ⟨t, ht⟩ := Option.isSome_iff_exists.mp hstep
  exact ⟨s, t, plan, .of_run _ started_labServer (Machine.meets_always _ _) hs,
    stage_of_keyedPlan hplan, ht, of_decide_eq_true hfact⟩

theorem configureMesh_off_identity_adopted : ∃ s plan,
    (netdMachine labConfig).Reach (Quiet Stage.holdsPlan) s ∧ s.stage 0 = .keyed plan ∧
      plan.routes = [Prefix.v4 0x0a2a0200 24] ∧ OffCIDR plan s.priv.nodePodCIDR := by
  obtain ⟨s, hreach, hfact⟩ : ∃ s, (netdMachine labConfig).Reach (Quiet Stage.holdsPlan) s ∧
      (keyedPlan s 0).map (·.routes) = some [Prefix.v4 0x0a2a0200 24] :=
    Machine.Reach.exists_run (adoptSteps 1 ++ planSteps 0 "10.42.2.0/24") started_labServer
      (by decide +kernel) (by decide +kernel)
  obtain ⟨plan, hplan, hroutes⟩ := Option.map_eq_some_iff.mp hfact
  have hkeyed := stage_of_keyedPlan hplan
  exact ⟨s, plan, hreach, hkeyed, hroutes, configureMesh_off_identity hreach hkeyed⟩

end DarwinNet.Netd
