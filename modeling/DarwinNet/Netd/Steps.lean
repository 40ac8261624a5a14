import DarwinNet.Lib.Mutex
import DarwinNet.Netd.Server

/-!
What a step of the daemon can do (`StepCase`, `step_cases`), and what holds in every
interleaving (`Base`): who holds the locks, and that executor and policy have one
identity except inside an adoption.
-/

namespace DarwinNet.Netd

open Lib Netip Podnet
open Mesh (Plan validatePlan isNodeCIDR)

namespace Server

variable (s : Server) (c c' : Nat) (x : Conn) (st : Stage)

@[simp] lemma conn_setConn : (s.setConn c x).conn c' = if c' = c then x else s.conn c' := by
  simp only [conn, setConn, GoMap.lookup_insert_ite]
  split <;> rfl

@[simp] lemma stage_setConn :
    (s.setConn c x).stage c' = if c' = c then x.stage else s.stage c' := by
  simp only [stage, conn_setConn]
  split <;> rfl

@[simp] lemma stage_goto : (s.goto c st).stage c' = if c' = c then st else s.stage c' :=
  stage_setConn s c c' _

variable {s}

lemma stage_back {β : Type} (f : Stage → β) {v : β} {s' : Server} {c c' : Nat} {x : Conn}
    (hconns : s'.conns = s.conns) (hx : f x.stage ≠ v) (h : f ((s'.setConn c x).stage c') = v) :
    c' ≠ c ∧ f (s.stage c') = v := by
  rw [stage_setConn] at h
  split at h
  · exact absurd h hx
  · rename_i hne
    rw [stage, conn, hconns] at h
    exact ⟨hne, h⟩

lemma stage_of_anyStage {p : Stage → Bool} (hidle : p .idle = false) (h : s.anyStage p = false)
    (c : Nat) : p (s.stage c) = false := by
  unfold stage conn
  cases hc : s.conns.lookup c with
  | none => exact hidle
  | some x =>
    have hmem := GoMap.mem_entries_of_lookup hc
    simpa using List.any_eq_false.mp h _ hmem

end Server

/-- What a step can do. A failed or refused request goes back to `idle`. -/
inductive StepCase (cfg : Config) (s : Server) : Label → Server → Prop
  | refused (a : Label) : StepCase cfg s a s
  | ensureAlias (c : Nat) (text : String) (ip : Addr) (x : Conn) : s.mu = none →
      s.stage c = .idle → validateAliasIP cfg s.nodePodCIDR ip = true → x.stage = .ensuring ip →
      StepCase cfg s (.ensureAlias c text) (s.setConn c x)
  | ensureExec (c : Nat) (o : Outcomes) (ip : Addr) (x : Conn) : s.stage c = .ensuring ip →
      (x.stage = .idle ∧ (s.priv.ensureAlias o ip).2 ≠ none ∨
        x.stage = .ensured ip ∧ (s.priv.ensureAlias o ip).2 = none) →
      StepCase cfg s (.ensureExec c o) ({ s with
        priv := (s.priv.ensureAlias o ip).1
        plumbed := if s.priv.plumbs o ip then insert ip s.plumbed else s.plumbed }.setConn c x)
  | trackAlias (c : Nat) (ip : Addr) : s.mu = none → s.stage c = .ensured ip →
      StepCase cfg s (.trackAlias c) ({ s with aliases := insert ip s.aliases }.goto c .idle)
  | removeAlias (c : Nat) (text : String) (ip : Addr) : s.mu = none → s.stage c = .idle →
      validateAliasIP cfg s.nodePodCIDR ip = true →
      StepCase cfg s (.removeAlias c text) (s.goto c (.removing ip))
  | removeExec (c : Nat) (o : Outcomes) (ip : Addr) (x : Conn) : s.stage c = .removing ip →
      (x.stage = .idle ∧ (s.priv.removeAlias o ip).2 ≠ none ∨
        x.stage = .removed ip ∧ (s.priv.removeAlias o ip).2 = none) →
      StepCase cfg s (.removeExec c o)
        ({ s with priv := (s.priv.removeAlias o ip).1 }.setConn c x)
  | untrackAlias (c : Nat) (ip : Addr) : s.mu = none → s.stage c = .removed ip →
      StepCase cfg s (.untrackAlias c) ({ s with aliases := s.aliases.erase ip }.goto c .idle)
  | configureMesh (c : Nat) (args : ConfigureMeshArgs) (st : Stage) : s.stage c = .idle →
      (st = .idle ∨ st = .adopted args ∨ ∃ want, st = .adopting want args ∧
        want.masked = want ∧ withinAggregate want cfg.clusterAggregate = true) →
      StepCase cfg s (.configureMesh c args) (s.goto c st)
  | confirm (c : Nat) (args : ConfigureMeshArgs) :
      s.stage c = .adopting s.nodePodCIDR args →
      StepCase cfg s (.adoptCheck c) ({ s with identityConfirmed := true }.goto c (.adopted args))
  | adoptRefused (c : Nat) (want : Prefix) (args : ConfigureMeshArgs) :
      s.stage c = .adopting want args → StepCase cfg s (.adoptCheck c) (s.goto c .idle)
  | adoptChecked (c : Nat) (want : Prefix) (args : ConfigureMeshArgs) : s.icMu = none →
      s.mu = none → s.stage c = .adopting want args → s.nodePodCIDR ≠ want →
      s.livePodAliases = 0 → s.icOwned.size = 0 →
      StepCase cfg s (.adoptCheck c)
        ({ s with icMu := some c, mu := some c }.goto c (.adoptChecked want args))
  | adoptFailed (c : Nat) (o : MeshOutcomes) (want : Prefix) (args : ConfigureMeshArgs) :
      s.stage c = .adoptChecked want args →
      StepCase cfg s (.adoptExec c o) ({ s with icMu := none, mu := none }.goto c .idle)
  | adoptSet (c : Nat) (o : MeshOutcomes) (want : Prefix) (args : ConfigureMeshArgs) :
      s.stage c = .adoptChecked want args → (s.priv.setNodePodCIDR o want).2 = none →
      StepCase cfg s (.adoptExec c o)
        ({ s with priv := (s.priv.setNodePodCIDR o want).1 }.goto c (.adoptSet want args))
  | adoptWrite (c : Nat) (want : Prefix) (args : ConfigureMeshArgs) :
      s.stage c = .adoptSet want args →
      StepCase cfg s (.adoptWrite c) ({ s with
        nodePodCIDR := want, identityConfirmed := true, icMu := none, mu := none }.goto c
          (.adopted args))
  | validate (c : Nat) (args : ConfigureMeshArgs) (x : Conn) : s.mu = none →
      s.stage c = .adopted args →
      (x.stage = .idle ∨ ∃ specs plan, x.stage = .planned plan ∧
        validatePlan cfg.netv1 s.nodePodCIDR specs = .ok plan ∧
        (∀ r ∈ plan.routes, cfg.clusterAggregate.contains r.ip = true) ∧
        plan.routes.length ≤ cfg.maxPerConn) →
      StepCase cfg s (.validate c) (s.setConn c x)
  | resolveKey (c : Nat) (err : Option String) (plan : Plan) (st : Stage) :
      s.stage c = .planned plan → (st = .idle ∨ st = .keyed plan) →
      StepCase cfg s (.resolveKey c err) (s.goto c st)
  | configureExec (c : Nat) (o : MeshOutcomes) (plan : Plan) (st : Stage) :
      s.stage c = .keyed plan → (st = .idle ∨ ∃ n, st = .configured n) →
      StepCase cfg s (.configureExec c o)
        ({ s with priv := (s.priv.configureMesh o).1 }.goto c st)
  | trackMesh (c n : Nat) : s.mu = none → s.stage c = .configured n →
      StepCase cfg s (.trackMesh c) ({ s with meshUp := true, meshRoutes := n }.goto c .idle)
  | removeMesh (c : Nat) (o : MeshOutcomes) (st : Stage) : s.stage c = .idle →
      (st = .idle ∨ st = .meshRemoved) →
      StepCase cfg s (.removeMesh c o) ({ s with priv := (s.priv.removeMesh o).1 }.goto c st)
  | untrackMesh (c : Nat) : s.mu = none → s.stage c = .meshRemoved →
      StepCase cfg s (.untrackMesh c) ({ s with meshUp := false, meshRoutes := 0 }.goto c .idle)
  | icRequest (c : Nat) (verb : IcVerb) (slot : Int) (addr : Addr) : s.mu = none →
      s.stage c = .idle → interconnectTarget cfg s slot = some addr →
      StepCase cfg s (.icRequest c verb slot) (s.goto c (.icTarget verb slot addr))
  | icLock (c : Nat) (verb : IcVerb) (slot : Int) (addr : Addr) : s.icMu = none →
      s.stage c = .icTarget verb slot addr →
      StepCase cfg s (.icLock c) ({ s with icMu := some c }.goto c (.icHeld verb slot addr))
  | icExec (c : Nat) (o : IcOutcomes) (verb : IcVerb) (slot : Int) (addr : Addr) (st : Stage) :
      s.stage c = .icHeld verb slot addr → (st = .icCommit verb slot addr ∨ st = .icDone) →
      StepCase cfg s (.icExec c o) (s.goto c st)
  | icOwn (c : Nat) (slot : Int) (addr : Addr) : s.mu = none →
      s.stage c = .icCommit .ensure slot addr →
      StepCase cfg s (.icCommit c)
        ({ s with icOwned := s.icOwned.insert slot addr }.goto c .icDone)
  | icDrop (c : Nat) (slot : Int) (addr : Addr) : s.mu = none →
      s.stage c = .icCommit .remove slot addr →
      StepCase cfg s (.icCommit c) ({ s with icOwned := s.icOwned.erase slot }.goto c .icDone)
  | icUnlock (c : Nat) : s.stage c = .icDone →
      StepCase cfg s (.icUnlock c) ({ s with icMu := none }.goto c .idle)

section Cases

variable {cfg : Config} {s t : Server} {c : Nat}

lemma ensureExec_cases {o : Outcomes} (h : step cfg s (.ensureExec c o) = some t) :
    StepCase cfg s (.ensureExec c o) t := by
  simp only [step] at h
  split at h
  · rename_i ip hstage
    cases h
    unfold ensureExec
    simp only
    split
    · rename_i err herr
      exact .ensureExec c o ip _ hstage (.inl ⟨rfl, by simp [herr]⟩)
    · rename_i herr
      exact .ensureExec c o ip _ hstage (.inr ⟨rfl, herr⟩)
  · cases h

lemma removeExec_cases {o : Outcomes} (h : step cfg s (.removeExec c o) = some t) :
    StepCase cfg s (.removeExec c o) t := by
  simp only [step] at h
  split at h
  · rename_i ip hstage
    cases h
    unfold removeExec
    simp only
    split
    · rename_i err herr
      exact .removeExec c o ip _ hstage (.inl ⟨rfl, by simp [herr]⟩)
    · rename_i herr
      exact .removeExec c o ip _ hstage (.inr ⟨rfl, herr⟩)
  · cases h

lemma startConfigureMesh_cases (cfg : Config) (args : ConfigureMeshArgs) :
    startConfigureMesh cfg args = .idle ∨ startConfigureMesh cfg args = .adopted args ∨
      ∃ want, startConfigureMesh cfg args = .adopting want args ∧ want.masked = want ∧
        withinAggregate want cfg.clusterAggregate = true := by
  unfold startConfigureMesh
  split
  · exact .inl rfl
  split
  · exact .inr (.inl rfl)
  · split
    · exact .inl rfl
    · rename_i want hwant
      split
      · rename_i hwithin
        exact .inr (.inr ⟨want.masked, rfl, Prefix.masked_masked want, hwithin⟩)
      · exact .inl rfl

lemma adoptCheck_cases (h : step cfg s (.adoptCheck c) = some t) :
    StepCase cfg s (.adoptCheck c) t := by
  simp only [step] at h
  split at h
  · rename_i want args hstage
    split_ifs at h with hlocks
    cases h
    unfold adoptCheck
    split
    · rename_i heq
      subst heq
      exact .confirm c args hstage
    · rename_i hne
      split
      · exact .adoptRefused c want args hstage
      · rename_i hlive
        simp only [not_or, Nat.not_lt, Nat.le_zero] at hlive
        exact .adoptChecked c want args hlocks.1 hlocks.2 hstage hne hlive.1 hlive.2.2.2
  · cases h

lemma adoptExec_cases {o : MeshOutcomes} (h : step cfg s (.adoptExec c o) = some t) :
    StepCase cfg s (.adoptExec c o) t := by
  simp only [step] at h
  split at h
  · rename_i want args hstage
    cases h
    have hspec := s.priv.setNodePodCIDR_spec o want
    unfold adoptExec
    split
    · rename_i priv err hset
      rw [hset] at hspec
      have hpriv : priv = s.priv := hspec.1 (by simp)
      rw [hpriv]
      exact .adoptFailed c o want args hstage
    · rename_i priv hset
      have hpriv : priv = (s.priv.setNodePodCIDR o want).1 := by rw [hset]
      rw [hpriv]
      exact .adoptSet c o want args hstage (by rw [hset])
  · cases h

lemma le_of_setMeshRoutes {conn x : Conn} {max n : Nat} (h : conn.setMeshRoutes max n = some x) :
    n ≤ max := by
  unfold Conn.setMeshRoutes at h
  split_ifs at h
  omega

lemma validate_cases (h : step cfg s (.validate c) = some t) : StepCase cfg s (.validate c) t := by
  simp only [step] at h
  split at h
  · rename_i args hstage
    split_ifs at h with hmu
    cases h
    unfold validate
    split
    · exact .validate c args _ hmu hstage (.inl rfl)
    rename_i specs hspecs
    split
    · exact .validate c args _ hmu hstage (.inl rfl)
    · rename_i plan hplan
      split
      · exact .validate c args _ hmu hstage (.inl rfl)
      · rename_i hroutes
        split
        · exact .validate c args _ hmu hstage (.inl rfl)
        · rename_i x hx
          refine .validate c args _ hmu hstage (.inr ⟨specs, plan, rfl, hplan, ?_, ?_⟩)
          · simpa using hroutes
          · exact le_of_setMeshRoutes hx
  · cases h

/-- What one step of the daemon can do. -/
lemma step_cases {a : Label} (h : step cfg s a = some t) : StepCase cfg s a t := by
  cases a
  case ensureExec => exact ensureExec_cases h
  case removeExec => exact removeExec_cases h
  case adoptCheck => exact adoptCheck_cases h
  case adoptExec => exact adoptExec_cases h
  case validate => exact validate_cases h
  all_goals simp only [step] at h; (repeat' split at h) <;> cases h
  next => exact .refused _
  next => exact .refused _
  next => exact .refused _
  next hfree _ _ _ hvalid _ _ _ =>
    exact .ensureAlias _ _ _ _ hfree.2 hfree.1 (by simpa using hvalid) rfl
  next hstage hmu => exact .trackAlias _ _ hmu hstage
  next => exact .refused _
  next => exact .refused _
  next hfree _ _ _ hvalid =>
    exact .removeAlias _ _ _ hfree.2 hfree.1 (by simpa using hvalid)
  next hstage hmu => exact .untrackAlias _ _ hmu hstage
  next hidle => exact .configureMesh _ _ _ hidle (startConfigureMesh_cases cfg _)
  next hstage => exact .adoptWrite _ _ _ hstage
  next hstage _ => exact .resolveKey _ _ _ _ hstage (.inl rfl)
  next hstage _ => exact .resolveKey _ _ _ _ hstage (.inr rfl)
  next o _ _ hstage _ priv _ hexec =>
    obtain rfl : priv = (s.priv.configureMesh o).1 := by rw [hexec]
    exact .configureExec _ _ _ _ hstage (.inl rfl)
  next o _ _ hstage _ priv hexec =>
    obtain rfl : priv = (s.priv.configureMesh o).1 := by rw [hexec]
    exact .configureExec _ _ _ _ hstage (.inr ⟨_, rfl⟩)
  next hstage hmu => exact .trackMesh _ _ hmu hstage
  next o hidle _ priv _ hexec =>
    obtain rfl : priv = (s.priv.removeMesh o).1 := by rw [hexec]
    exact .removeMesh _ _ _ hidle (.inl rfl)
  next o hidle _ priv hexec =>
    obtain rfl : priv = (s.priv.removeMesh o).1 := by rw [hexec]
    exact .removeMesh _ _ _ hidle (.inr rfl)
  next hstage hmu => exact .untrackMesh _ hmu hstage
  next => exact .refused _
  next hfree _ _ htarget => exact .icRequest _ _ _ _ hfree.2 hfree.1 htarget
  next hstage hic => exact .icLock _ _ _ _ hic hstage
  next hstage _ _ => exact .icExec _ _ _ _ _ _ hstage (.inl rfl)
  next hstage _ _ => exact .icExec _ _ _ _ _ _ hstage (.inr rfl)
  next hstage hmu => exact .icOwn _ _ _ hmu hstage
  next hstage hmu => exact .icDrop _ _ _ hmu hstage
  next hstage => exact .icUnlock _ hstage

end Cases

/-! ## Locks and identity -/

namespace Stage

def holdsMu : Stage → Bool
  | .adoptChecked .. | .adoptSet .. => true
  | _ => false

def holdsIcMu : Stage → Bool
  | .adoptChecked .. | .adoptSet .. | .icHeld .. | .icCommit .. | .icDone => true
  | _ => false

def want? : Stage → Option Prefix
  | .adopting want _ | .adoptChecked want _ | .adoptSet want _ => some want
  | _ => none

/-- The CIDR the executor has moved to ahead of the policy. -/
def moved? : Stage → Option Prefix
  | .adoptSet want _ => some want
  | _ => none

def locks (st : Stage) : Bool × Bool × Option Prefix := (st.holdsMu, st.holdsIcMu, st.moved?)

variable {st : Stage}

lemma want_of_moved {p : Prefix} (h : st.moved? = some p) : st.want? = some p := by
  cases st <;> first | exact h | cases h

lemma holdsMu_of_moved {p : Prefix} (h : st.moved? = some p) : st.holdsMu = true := by
  cases st <;> first | rfl | cases h

lemma moved_of_not_holdsMu (h : st.holdsMu = false) : st.moved? = none := by
  cases st <;> first | rfl | cases h

end Stage

lemma Started.stage {cfg : Config} {s : Server} (h : Started cfg s) (c : Nat) :
    s.stage c = .idle := by
  rw [Server.stage, Server.conn, h.conns]
  rfl

/-- Who holds the locks, and what a pending adoption has moved. -/
structure Base (cfg : Config) (s : Server) : Prop where
  mu : Owns Stage.holdsMu s.mu s.stage
  icMu : Owns Stage.holdsIcMu s.icMu s.stage
  masked : s.nodePodCIDR.masked = s.nodePodCIDR
  want : ∀ c p, (s.stage c).want? = some p →
    p.masked = p ∧ withinAggregate p cfg.clusterAggregate = true
  moved : ∀ c p, (s.stage c).moved? = some p → s.priv.nodePodCIDR = p ∧ isNodeCIDR p = true
  synced : (∀ c, (s.stage c).moved? = none) → s.priv.nodePodCIDR = s.nodePodCIDR

namespace Base

variable {cfg : Config} {s s' t : Server} {a : Label} {c : Nat}

lemma not_moved (hs : Base cfg s) (hmu : s.mu = none) (c : Nat) : (s.stage c).moved? = none :=
  Stage.moved_of_not_holdsMu (hs.mu.outside hmu c)

lemma not_moved_of_ne (hs : Base cfg s) {c' : Nat} (hc : (s.stage c).holdsMu = true)
    (hne : c' ≠ c) : (s.stage c').moved? = none := by
  refine Stage.moved_of_not_holdsMu ?_
  rw [← Bool.not_eq_true]
  exact fun hc' => hne (hs.mu.unique hc' hc)

lemma priv_eq (hs : Base cfg s) (hmu : s.mu = none) : s.priv.nodePodCIDR = s.nodePodCIDR :=
  hs.synced (hs.not_moved hmu)

section Move

variable {c : Nat} {x : Conn}

lemma stage_other (hconns : s'.conns = s.conns) (c' : Nat) (hne : c' ≠ c) :
    (s'.setConn c x).stage c' = s.stage c' := by
  rw [Server.stage_setConn, if_neg hne, Server.stage, Server.conn, hconns]
  rfl

lemma stage_self : (s'.setConn c x).stage c = x.stage := by
  rw [Server.stage_setConn, if_pos rfl]

lemma move (hs : Base cfg s) (hconns : s'.conns = s.conns)
    (hmu : Handed Stage.holdsMu s.mu s'.mu c (s.stage c) x.stage)
    (hic : Handed Stage.holdsIcMu s.icMu s'.icMu c (s.stage c) x.stage)
    (hnode : s'.nodePodCIDR = s.nodePodCIDR) (hpriv : s'.priv.nodePodCIDR = s.priv.nodePodCIDR)
    (hmoved : x.stage.moved? = (s.stage c).moved?) (hwant : ∀ p, x.stage.want? = some p →
      p.masked = p ∧ withinAggregate p cfg.clusterAggregate = true) :
    Base cfg (s'.setConn c x) := by
  have hmoved' : ∀ c', ((s'.setConn c x).stage c').moved? = (s.stage c').moved? := by
    intro c'
    by_cases hc : c' = c
    · rw [hc, stage_self, hmoved]
    · rw [stage_other hconns c' hc]
  have hpriv' : (s'.setConn c x).priv.nodePodCIDR = s.priv.nodePodCIDR := hpriv
  have hnode' : (s'.setConn c x).nodePodCIDR = s.nodePodCIDR := hnode
  refine ⟨hs.mu.hand (stage_other hconns) (stage_self ▸ hmu),
    hs.icMu.hand (stage_other hconns) (stage_self ▸ hic), ?_, ?_, ?_, ?_⟩
  · rw [hnode']
    exact hs.masked
  · intro c' p hp
    by_cases hc : c' = c
    · rw [hc, stage_self] at hp
      exact hwant p hp
    · rw [stage_other hconns c' hc] at hp
      exact hs.want c' p hp
  · intro c' p hp
    rw [hmoved'] at hp
    rw [hpriv']
    exact hs.moved c' p hp
  · intro h
    rw [hpriv', hnode']
    exact hs.synced fun c' => (hmoved' c').symm.trans (h c')

lemma setConn (hs : Base cfg s) (hconns : s'.conns = s.conns) (hmu : s'.mu = s.mu)
    (hic : s'.icMu = s.icMu) (hnode : s'.nodePodCIDR = s.nodePodCIDR)
    (hpriv : s'.priv.nodePodCIDR = s.priv.nodePodCIDR) (hlocks : x.stage.locks = (s.stage c).locks)
    (hwant : x.stage.want? = none) : Base cfg (s'.setConn c x) := by
  simp only [Stage.locks, Prod.mk.injEq] at hlocks
  refine hs.move hconns (.kept hmu hlocks.1) (.kept hic hlocks.2.1) hnode hpriv hlocks.2.2 ?_
  intro p hp
  rw [hwant] at hp
  cases hp

end Move

lemma adoptSet (hs : Base cfg s) {o : MeshOutcomes} {want : Prefix} {args : ConfigureMeshArgs}
    (hc : s.stage c = .adoptChecked want args) (hset : (s.priv.setNodePodCIDR o want).2 = none) :
    Base cfg ({ s with priv := (s.priv.setNodePodCIDR o want).1 }.goto c
      (.adoptSet want args)) := by
  obtain ⟨hcidr, hnode, -⟩ := (s.priv.setNodePodCIDR_spec o want).2 hset
  have hholds : (s.stage c).holdsMu = true := by
    rw [hc]
    rfl
  refine ⟨hs.mu.hand (stage_other rfl) (.kept rfl ?_),
    hs.icMu.hand (stage_other rfl) (.kept rfl ?_), hs.masked, ?_, ?_, ?_⟩
  · rw [Server.stage_goto, if_pos rfl, hc]
    rfl
  · rw [Server.stage_goto, if_pos rfl, hc]
    rfl
  · intro c' p hp
    rw [Server.stage_goto] at hp
    split at hp
    · cases hp
      exact hs.want c want (by rw [hc]; rfl)
    · exact hs.want c' p hp
  · intro c' p hp
    rw [Server.stage_goto] at hp
    split at hp
    · cases hp
      exact ⟨hcidr, hnode⟩
    · rename_i hne
      cases (hs.not_moved_of_ne hholds hne).symm.trans hp
  · intro h
    have hself := h c
    rw [Server.stage_goto, if_pos rfl] at hself
    cases hself

lemma adoptWrite (hs : Base cfg s) {want : Prefix} {args : ConfigureMeshArgs}
    (hc : s.stage c = .adoptSet want args) :
    Base cfg ({ s with nodePodCIDR := want, identityConfirmed := true, icMu := none
                       mu := none }.goto c (.adopted args)) := by
  have hholds : (s.stage c).holdsMu = true := by
    rw [hc]
    rfl
  have hwant : (s.stage c).want? = some want := by
    rw [hc]
    rfl
  have hmoved : (s.stage c).moved? = some want := by
    rw [hc]
    rfl
  refine ⟨?_, ?_, (hs.want c want hwant).1, ?_, ?_, fun _ => (hs.moved c want hmoved).1⟩
  · refine hs.mu.hand (stage_other rfl) (.released hholds rfl ?_)
    rw [Server.stage_goto, if_pos rfl]
    rfl
  · refine hs.icMu.hand (stage_other rfl) (.released (by rw [hc]; rfl) rfl ?_)
    rw [Server.stage_goto, if_pos rfl]
    rfl
  · intro c' p hp
    exact hs.want c' p (Server.stage_back Stage.want? rfl (fun h => by cases h) hp).2
  · intro c' p hp
    obtain ⟨hne, hp⟩ := Server.stage_back Stage.moved? rfl (fun h => by cases h) hp
    cases (hs.not_moved_of_ne hholds hne).symm.trans hp

lemma step (hs : Base cfg s) (h : StepCase cfg s a t) : Base cfg t := by
  cases h with
  | refused a => exact hs
  | ensureAlias c text ip x hmu hc hvalid hx =>
    exact hs.setConn rfl rfl rfl rfl rfl (by rw [hc, hx]; rfl) (by rw [hx]; rfl)
  | ensureExec c o ip x hc hx =>
    have hpriv := (s.priv.ensureAlias_sameMesh o ip).nodePodCIDR
    rcases hx with ⟨hx, -⟩ | ⟨hx, -⟩ <;>
      exact hs.setConn rfl rfl rfl rfl hpriv (by rw [hc, hx]; rfl) (by rw [hx]; rfl)
  | removeExec c o ip x hc hx =>
    have hpriv := (s.priv.removeAlias_sameMesh o ip).nodePodCIDR
    rcases hx with ⟨hx, -⟩ | ⟨hx, -⟩ <;>
      exact hs.setConn rfl rfl rfl rfl hpriv (by rw [hc, hx]; rfl) (by rw [hx]; rfl)
  | trackAlias c ip hmu hc | untrackAlias c ip hmu hc | removeAlias c text ip hmu hc
  | confirm c args hc | adoptRefused c want args hc | trackMesh c n hmu hc
  | untrackMesh c hmu hc | icRequest c verb slot addr hmu hc | icOwn c slot addr hmu hc
  | icDrop c slot addr hmu hc =>
    exact hs.setConn rfl rfl rfl rfl rfl (by rw [hc]; rfl) rfl
  | configureMesh c args st hc hst =>
    rcases hst with rfl | rfl | ⟨want, rfl, hwant⟩
    · exact hs.setConn rfl rfl rfl rfl rfl (by rw [hc]) rfl
    · exact hs.setConn rfl rfl rfl rfl rfl (by rw [hc]; rfl) rfl
    · refine hs.move rfl (.kept rfl (by rw [hc]; rfl)) (.kept rfl (by rw [hc]; rfl)) rfl rfl
        (by rw [hc]; rfl) fun p hp => ?_
      cases hp
      exact hwant
  | adoptChecked c want args hic hmu hc =>
    refine hs.move rfl (.taken hmu rfl rfl) (.taken hic rfl rfl) rfl rfl (by rw [hc]; rfl)
      fun p hp => ?_
    cases hp
    exact hs.want c want (by rw [hc]; rfl)
  | adoptFailed c o want args hc =>
    exact hs.move rfl (.released (by rw [hc]; rfl) rfl rfl) (.released (by rw [hc]; rfl) rfl rfl)
      rfl rfl (by rw [hc]; rfl) fun p hp => by cases hp
  | adoptSet c o want args hc hset => exact hs.adoptSet hc hset
  | adoptWrite c want args hc => exact hs.adoptWrite hc
  | validate c args x hmu hc hx =>
    rcases hx with hx | ⟨specs, plan, hx, -⟩ <;>
      exact hs.setConn rfl rfl rfl rfl rfl (by rw [hc, hx]; rfl) (by rw [hx]; rfl)
  | resolveKey c err plan st hc hst | icExec c o verb slot addr st hc hst =>
    rcases hst with rfl | rfl <;> exact hs.setConn rfl rfl rfl rfl rfl (by rw [hc]; rfl) rfl
  | configureExec c o plan st hc hst =>
    have hpriv := (s.priv.configureMesh_samePods o).nodePodCIDR
    rcases hst with rfl | ⟨n, rfl⟩ <;>
      exact hs.setConn rfl rfl rfl rfl hpriv (by rw [hc]; rfl) rfl
  | removeMesh c o st hc hst =>
    have hpriv := (s.priv.removeMesh_samePods o).nodePodCIDR
    rcases hst with rfl | rfl
    · exact hs.setConn rfl rfl rfl rfl hpriv (by rw [hc]) rfl
    · exact hs.setConn rfl rfl rfl rfl hpriv (by rw [hc]; rfl) rfl
  | icLock c verb slot addr hic hc =>
    exact hs.move rfl (.kept rfl (by rw [hc]; rfl)) (.taken hic rfl rfl) rfl rfl
      (by rw [hc]; rfl) fun p hp => by cases hp
  | icUnlock c hc =>
    exact hs.move rfl (.kept rfl (by rw [hc]; rfl)) (.released (by rw [hc]; rfl) rfl rfl) rfl rfl
      (by rw [hc]; rfl) fun p hp => by cases hp

lemma init (h : Started cfg s) : Base cfg s := by
  have hstage : ∀ c, s.stage c = .idle := h.stage
  refine ⟨?_, ?_, h.masked, ?_, ?_, fun _ => h.priv.1⟩
  · intro c
    rw [h.locks.2, hstage c]
    simp [Stage.holdsMu]
  · intro c
    rw [h.locks.1, hstage c]
    simp [Stage.holdsIcMu]
  · intro c p hp
    rw [hstage c] at hp
    cases hp
  · intro c p hp
    rw [hstage c] at hp
    cases hp

lemma under {ok : Server → Label → Prop} {I : Server → Prop} (h : (netdMachine cfg).Reach ok s)
    (hinit : ∀ {s}, Started cfg s → I s)
    (hstep : ∀ {s t a}, Base cfg s → I s → ok s a → StepCase cfg s a t → I t) :
    Base cfg s ∧ I s := by
  refine h.invariant (I := fun s => Base cfg s ∧ I s) (fun s hs => ⟨.init hs, hinit hs⟩) ?_
  intro s a t hs hok hst
  have hcase := step_cases hst
  exact ⟨hs.1.step hcase, hstep hs.1 hs.2 hok hcase⟩

end Base

/-! ## Adoptions -/

def repoints (s : Server) : Label → Bool
  | .adoptExec c o =>
    match s.stage c with
    | .adoptChecked want _ => (s.priv.setNodePodCIDR o want).2.isNone
    | _ => false
  | _ => false

/-- An adoption has the executor re-pointed only while no request is at such a stage. -/
def Quiet (p : Stage → Bool) (s : Server) (a : Label) : Prop :=
  repoints s a = true → s.anyStage p = false

instance decidableQuiet (p : Stage → Bool) (s : Server) (a : Label) : Decidable (Quiet p s a) :=
  inferInstanceAs (Decidable (_ → _))

lemma Quiet.stage {p : Stage → Bool} {s : Server} {c : Nat} {o : MeshOutcomes} {want : Prefix}
    {args : ConfigureMeshArgs} (h : Quiet p s (.adoptExec c o))
    (hc : s.stage c = .adoptChecked want args) (hset : (s.priv.setNodePodCIDR o want).2 = none)
    (hidle : p .idle = false) (c' : Nat) : p (s.stage c') = false := by
  refine Server.stage_of_anyStage hidle (h ?_) c'
  simp [repoints, hc, hset]

/-! ## A daemon on the node of 10.42.0.0/24 -/

def labInterconnect : InterconnectApi where
  slotAddress := fun idx slot => some (.v4 (0xa9fe0000 + BitVec.ofNat 32 (8 * idx + slot.toNat)))
  maxSlot := 7
  maxNodeIndex := 255
  cidrBits := 16

def labConfig : Config where
  netv1 := Mesh.readableNetv1
  interconnect := labInterconnect
  clusterAggregate := Prefix.v4 0x0a2a0000 16
  serviceCIDR := Prefix.v4 0x0a2b0000 16
  maxPerConn := 256
  meshKeyResolver := true

def labServer : Server where
  nodePodCIDR := Prefix.v4 0x0a2a0000 24
  identityConfirmed := true
  aliases := ∅
  icOwned := ∅
  meshRoutes := 0
  meshUp := false
  icMu := none
  mu := none
  conns := ∅
  priv := ⟨Prefix.v4 0x0a2a0000 24, none, false, ∅, none, ⟨∅, ∅, ∅⟩⟩
  plumbed := ∅

lemma started_labServer : Started labConfig labServer := by
  refine ⟨rfl, rfl, rfl, ⟨rfl, rfl⟩, ⟨rfl, rfl⟩, by decide, ⟨rfl, rfl, rfl, rfl⟩, ?_⟩
  intro slot addr h
  cases h

def adoptSteps (c : Nat) : List Label :=
  [.configureMesh c ⟨"10.42.1.0/24", []⟩, .adoptCheck c, .adoptExec c {}, .adoptWrite c]

end DarwinNet.Netd
