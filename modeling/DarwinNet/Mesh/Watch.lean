import DarwinNet.Mesh.Cryptokey
import DarwinNet.Mesh.Roaming

/-!
The watcher that drives the mesh (`watch.go`, `mesh.go`). Informer events and ticks only arm a
trigger of one slot; one loop drains it, lists the informer's cache in some order, builds the plan
and applies it. What meets a full slot is dropped, and an update that keeps the `ResourceVersion`
arms nothing.

Nothing is lost by that: where the loop is at rest and no event that arms is left to handle, the
device holds the plan of the cache as it is, or no pass has succeeded since its last `Up` or failed
`IpcSet`; then the next tick makes up for it (`mesh_follows_cache`).
-/

namespace DarwinNet.Mesh

open Lib Netip

structure MeshPeer where
  spec : MeshPeerSpec
  resourceVersion : String
  deriving DecidableEq

/-- A notification of the informer. -/
inductive PeerEvent
  | add
  | update (old new : MeshPeer)
  | delete

def meshPeerChanged (old new : MeshPeer) : Bool := old.resourceVersion ≠ new.resourceVersion

/-- Whether the handler of the event calls `trigger`. -/
def PeerEvent.arms : PeerEvent → Bool
  | .update old new => meshPeerChanged old new
  | _ => true

/-- `reconcileLoop` is in its `select`, past the receive from `kick`, or past the listing. -/
inductive LoopPC
  | select
  | resync
  | reconcile (specs : List MeshPeerSpec)
  deriving DecidableEq

/-- The informer with the events it has yet to hand over, the `kick` channel, `reconcileLoop` and
the mesh that the loop drives. -/
structure MeshWatch (E : Type) where
  store : GoMap String MeshPeer
  pending : List PeerEvent
  kick : Bool
  pc : LoopPC
  mesh : MeshState E

inductive MeshWatchLabel (E : Type)
  | set (name : String) (peer : MeshPeer)
  | remove (name : String)
  | handle
  | tick
  | drain
  | list (specs : List MeshPeerSpec)
  | reconcile (o : ApplyOutcome E)
  | start (err : Option String)
  | close
  | roam (k : WgKey) (e : E)

variable {E : Type} (N : Netv1) (self : Prefix) (W : Wireguard E)

namespace MeshWatch

def specs (s : MeshWatch E) : List MeshPeerSpec := s.store.entries.map fun e => e.2.spec

/-- The cache changes before the handlers are told. -/
def notice (s : MeshWatch E) (store : GoMap String MeshPeer) (e : PeerEvent) : MeshWatch E :=
  { s with store, pending := s.pending ++ [e] }

def drive (s : MeshWatch E) (pc : LoopPC) (l : MeshLabel E) : Option (MeshWatch E) :=
  (meshStep W s.mesh l).map fun mesh => { s with pc, mesh }

def step (s : MeshWatch E) : MeshWatchLabel E → Option (MeshWatch E)
  | .set name peer =>
    match s.store.lookup name with
    | none => some (s.notice (s.store.insert name peer) .add)
    | some old => some (s.notice (s.store.insert name peer) (.update old peer))
  | .remove name =>
    if name ∈ s.store then some (s.notice (s.store.erase name) .delete) else none
  | .handle =>
    match s.pending with
    | [] => none
    | e :: es => some { s with pending := es, kick := s.kick || e.arms }
  | .tick =>
    match s.pc with
    | .select => some { s with kick := true }
    | _ => none
  | .drain =>
    match s.pc, s.kick with
    | .select, true => some { s with kick := false, pc := .resync }
    | _, _ => none
  | .list specs =>
    match s.pc with
    | .resync => if specs.Perm s.specs then some { s with pc := .reconcile specs } else none
    | _ => none
  | .reconcile o =>
    match s.pc with
    | .reconcile specs =>
      match buildPlan N self specs with
      | .error _ => some { s with pc := .select }
      | .ok plan => s.drive W .select (.apply plan o)
    | _ => none
  | .start err => s.drive W s.pc (.up err)
  | .close => s.drive W s.pc .down
  | .roam k e => s.drive W s.pc (.roam k e)

/-- An object that keeps its `ResourceVersion` is the same object, and every plan has distinct
keys and disjoint `AllowedIPs`. -/
def Served (s : MeshWatch E) : MeshWatchLabel E → Prop
  | .set name peer => ∀ old ∈ s.store.lookup name,
      old.resourceVersion = peer.resourceVersion → old = peer
  | .reconcile _ => ∀ specs plan, s.pc = .reconcile specs → buildPlan N self specs = .ok plan →
      PlanOk plan
  | _ => True

/-- The loop waits, and nothing that would wake it is on its way. -/
def AtRest (s : MeshWatch E) : Prop :=
  s.pc = .select ∧ s.kick = false ∧ ∀ e ∈ s.pending, e.arms = false

/-- A pass is to come that lists the cache, or the one under way has listed it as it is, or the
device has the plan of it. -/
inductive Follows (s : MeshWatch E) : Prop
  | armed : s.kick = true → Follows s
  | noticed (e : PeerEvent) : e ∈ s.pending → e.arms = true → Follows s
  | drained : s.pc = .resync → Follows s
  | listed (specs : List MeshPeerSpec) : s.pc = .reconcile specs → specs.Perm s.specs → Follows s
  | unplanned : s.pc = .select → s.mesh.last = none → Follows s
  | planned (specs : List MeshPeerSpec) (plan : Plan) : s.pc = .select → specs.Perm s.specs →
      buildPlan N self specs = .ok plan → s.mesh.last = some plan → Follows s

end MeshWatch

def meshWatchMachine : Machine (MeshWatch E) (MeshWatchLabel E) where
  init s := s = ⟨∅, [], false, .select, ⟨⟨none, ∅, []⟩, none⟩⟩
  step s l := s.step N self W l

section

variable {N self W} {s t : MeshWatch E} {plan : Plan} {o : ApplyOutcome E} {m m' : MeshState E}

lemma exists_buildPlan (hself : isNodeCIDR self.masked = true) (specs : List MeshPeerSpec) :
    ∃ plan, buildPlan N self specs = .ok plan := by
  simp [buildPlan, routeSet, hself, (isNodeRange_masked hself).masked_eq]

/-- After an `Apply` the device has its plan, or none at all. -/
lemma last_of_apply (hm : Inv W m) (h : meshStep W m (.apply plan o) = some m') :
    m'.last = some plan ∨ m'.last = none ∧ (o.ipcFailure = none → m'.wg.dev = none) := by
  simp only [meshStep] at h
  split at h <;> cases h
  next happly =>
  simp only [WGDevice.apply] at happly
  (repeat' split at happly) <;> cases happly
  next hdev =>
    refine .inr ⟨Option.eq_none_iff_forall_ne_some.mpr fun last hlast => ?_, fun _ => hdev⟩
    obtain ⟨dev, hdev', -⟩ := hm.held last hlast
    cases hdev.symm.trans hdev'
  next hipc => exact .inr ⟨rfl, fun hnone => by cases hipc.symm.trans hnone⟩
  all_goals exact .inl (lastAfter_routes ..)

namespace MeshWatch

lemma Follows.keep (h : Follows N self s) (hkick : s.kick = true → t.kick = true)
    (hpending : ∀ e ∈ s.pending, e.arms = true → t.kick = true ∨ e ∈ t.pending)
    (hpc : t.pc = s.pc) (hspecs : s.specs.Perm t.specs)
    (hlast : t.mesh.last = s.mesh.last ∨ t.mesh.last = none) : Follows N self t := by
  cases h with
  | armed h => exact .armed (hkick h)
  | noticed e he harms =>
    rcases hpending e he harms with h | h
    · exact .armed h
    · exact .noticed e h harms
  | drained h => exact .drained (hpc.trans h)
  | listed specs h hperm => exact .listed specs (hpc.trans h) (hperm.trans hspecs)
  | unplanned h hnone => exact .unplanned (hpc.trans h) (hlast.elim (·.trans hnone) id)
  | planned specs plan h hperm hplan hold =>
    rcases hlast with heq | hnone
    · exact .planned specs plan (hpc.trans h) (hperm.trans hspecs) hplan (heq.trans hold)
    · exact .unplanned (hpc.trans h) hnone

lemma Follows.notice (h : Follows N self s) {store : GoMap String MeshPeer} {e : PeerEvent}
    (he : e.arms = false → s.specs.Perm (s.notice store e).specs) :
    Follows N self (s.notice store e) := by
  cases harms : e.arms with
  | true => exact .noticed e (by simp [MeshWatch.notice]) harms
  | false =>
    refine h.keep id (fun e' he' _ => .inr ?_) rfl (he harms) (.inl rfl)
    simp [MeshWatch.notice, he']

lemma Follows.drive (h : Follows N self s) {l : MeshLabel E} (hst : s.drive W s.pc l = some t)
    (hlast : ∀ m, meshStep W s.mesh l = some m → m.last = s.mesh.last ∨ m.last = none) :
    Follows N self t := by
  obtain ⟨mesh, hmesh, rfl⟩ := Option.map_eq_some_iff.mp hst
  exact h.keep id (fun _ he _ => .inr he) rfl (.refl _) (hlast mesh hmesh)

/-- What was owed before a pass is still owed, unless the pass has listed the cache as it is. -/
lemma Follows.reconcile (h : Follows N self s) {specs : List MeshPeerSpec}
    (hpc : s.pc = .reconcile specs) (hplan : buildPlan N self specs = .ok plan)
    (hlast : m.last = some plan ∨ m.last = none) :
    Follows N self { s with pc := .select, mesh := m } := by
  cases h with
  | armed hkick => exact .armed hkick
  | noticed e he harms => exact .noticed e he harms
  | listed specs' hpc' hperm =>
    cases hpc.symm.trans hpc'
    rcases hlast with hlast | hnone
    · exact .planned specs plan rfl hperm hplan hlast
    · exact .unplanned rfl hnone
  | drained h | unplanned h | planned _ _ h => cases hpc.symm.trans h

lemma mesh_step {l : MeshWatchLabel E} (hm : Inv W s.mesh) (hok : s.Served N self l)
    (hst : s.step N self W l = some t) : Inv W t.mesh := by
  have hdrive : ∀ pc l, s.drive W pc l = some t → PlansOk s.mesh l → Inv W t.mesh := by
    intro pc l hst hplans
    obtain ⟨mesh, hmesh, rfl⟩ := Option.map_eq_some_iff.mp hst
    exact hm.step hplans hmesh
  cases l with
  | start | close | roam => exact hdrive _ _ hst trivial
  | reconcile o =>
    simp only [MeshWatch.step] at hst
    (repeat' split at hst)
    next => exact (Option.some.inj hst) ▸ hm
    next hpc _ plan hplan => exact hdrive _ _ hst (hok _ plan hpc hplan)
    next => cases hst
  | _ =>
    simp only [MeshWatch.step] at hst
    (repeat' split at hst) <;> cases hst <;> exact hm

lemma Follows.step (hself : isNodeCIDR self.masked = true) {l : MeshWatchLabel E}
    (h : Follows N self s) (hm : Inv W s.mesh) (hok : s.Served N self l)
    (hst : s.step N self W l = some t) : Follows N self t := by
  cases l <;> simp only [MeshWatch.step] at hst
  case start =>
    refine h.drive hst ?_
    rintro _ ⟨⟩
    simp only
    split_ifs <;> simp
  case close => exact h.drive hst (by rintro _ ⟨⟩; exact .inr rfl)
  case roam =>
    refine h.drive hst fun m hmesh => ?_
    simp only [meshStep] at hmesh
    split at hmesh <;> cases hmesh
    exact .inl rfl
  case reconcile o =>
    split at hst
    · next specs hpc =>
      obtain ⟨plan, hplan⟩ := exists_buildPlan (N := N) hself specs
      simp only [hplan] at hst
      obtain ⟨mesh, hmesh, rfl⟩ := Option.map_eq_some_iff.mp hst
      exact h.reconcile hpc hplan ((last_of_apply hm hmesh).imp_right And.left)
    · cases hst
  all_goals (repeat' split at hst) <;> cases hst
  next => exact h.notice fun he => by cases he
  next old hold =>
    refine h.notice fun he => ?_
    cases hok old hold (by simpa [PeerEvent.arms, meshPeerChanged] using he)
    exact (GoMap.entries_perm hold).map _
  next => exact h.notice fun he => by cases he
  next e es hpending =>
    refine h.keep (by simp +contextual) ?_ rfl (.refl _) (.inl rfl)
    intro e' he' harms
    rw [hpending] at he'
    rcases List.mem_cons.mp he' with rfl | he'
    · exact .inl (by simp [harms])
    · exact .inr he'
  next => exact .armed rfl
  next => exact .drained rfl
  next hperm => exact .listed _ rfl hperm

end MeshWatch

end

/-- At rest the device holds the plan of the cache, if a pass has succeeded since the last `Up` or
failed `IpcSet`; and one tick whose `IpcSet` does not fail puts it there. -/
theorem mesh_follows_cache (hself : isNodeCIDR self.masked = true) {s : MeshWatch E}
    (h : (meshWatchMachine N self W).Reach (MeshWatch.Served N self) s) :
    (s.AtRest → s.mesh.last = none ∨ ∃ specs plan dev, specs.Perm s.specs ∧
      buildPlan N self specs = .ok plan ∧ s.mesh.wg.dev = some dev ∧ Holds dev plan) ∧
    ∀ specs plan o t dev, buildPlan N self specs = .ok plan → PlanOk plan → o.ipcFailure = none →
      (meshWatchMachine N self W).run s [.tick, .drain, .list specs, .reconcile o] = some t →
      t.mesh.wg.dev = some dev → specs.Perm t.specs ∧ Holds dev plan := by
  have hinv : Inv W s.mesh ∧ s.Follows N self := by
    refine Machine.Reach.invariant (I := fun s => Inv W s.mesh ∧ s.Follows N self) ?_ ?_ h
    · rintro _ rfl
      exact ⟨.of_fresh, .unplanned rfl rfl⟩
    · intro s l t hs hok hst
      exact ⟨MeshWatch.mesh_step hs.1 hok hst, hs.2.step hself hs.1 hok hst⟩
  obtain ⟨hmesh, hfollows⟩ := hinv
  constructor
  · rintro ⟨hpc, hkick, hpending⟩
    cases hfollows with
    | armed h => cases hkick.symm.trans h
    | noticed e he harms => cases (hpending e he).symm.trans harms
    | drained h | listed _ h => cases hpc.symm.trans h
    | unplanned _ hnone => exact .inl hnone
    | planned specs plan _ hperm hplan hlast =>
      obtain ⟨dev, hdev, hholds⟩ := hmesh.held plan hlast
      exact .inr ⟨specs, plan, dev, hperm, hplan, hdev, hholds⟩
  · intro specs plan o t dev hplan hok hipc hrun hdev
    simp only [Machine.run, meshWatchMachine, MeshWatch.step] at hrun
    cases hpc : s.pc with
    | resync | reconcile => simp [hpc] at hrun
    | select =>
      simp only [hpc, Option.bind_some] at hrun
      split_ifs at hrun with hperm
      · simp only [hplan, Option.bind_some, Option.bind_fun_some] at hrun
        obtain ⟨m, hm, rfl⟩ := Option.map_eq_some_iff.mp hrun
        refine ⟨hperm, ?_⟩
        rcases last_of_apply hmesh hm with hlast | ⟨-, hdown⟩
        · obtain ⟨dev', hdev', hholds⟩ :=
            (hmesh.step (show PlansOk s.mesh (.apply plan o) from hok) hm).held plan hlast
          cases hdev.symm.trans hdev'
          exact hholds
        · cases (hdown hipc).symm.trans hdev
      · cases hrun

def joinedSpec : MeshPeerSpec := nodeSpec "b" keyA "100.64.1.0/24"

/-- The device is up, a peer joins, and a pass applies it. -/
def joinedRun : List (MeshWatchLabel String) :=
  [.start none, .set "b" ⟨joinedSpec, "1"⟩, .handle, .drain, .list [joinedSpec],
    .reconcile ⟨none, none⟩]

def joinedSelf : Prefix := Prefix.v4 0x64400000 24

theorem mesh_follows_cache_joined : ∃ s, (meshWatchMachine readableNetv1 joinedSelf
        (tableWireguard [Prefix.v4 0x64400100 24])).run
          ⟨∅, [], false, .select, ⟨⟨none, ∅, []⟩, none⟩⟩ joinedRun = some s ∧
      ∃ plan dev, s.mesh.wg.dev = some dev ∧ Holds dev plan := by
  have hplan : ∀ plan ∈ (buildPlan readableNetv1 joinedSelf [joinedSpec]).toOption,
      ((plan.peers.map PeerConfig.publicKeyHex).Nodup ∧ plan.peers.length = 1) ∧
      ∀ pc ∈ plan.peers, '\n' ∉ pc.endpoint.toList ∧
        ∀ a ∈ pc.allowedIPs, a.ip.hasZone = false := by decide +kernel
  have hok : (meshWatchMachine readableNetv1 joinedSelf
      (tableWireguard [Prefix.v4 0x64400100 24])).Meets (MeshWatch.Served readableNetv1 joinedSelf)
        ⟨∅, [], false, .select, ⟨⟨none, ∅, []⟩, none⟩⟩ joinedRun := by
    refine ⟨trivial, ?_⟩
    rintro _ ⟨⟩
    refine ⟨by rintro _ ⟨⟩, ?_⟩
    rintro _ ⟨⟩
    iterate 3
      refine ⟨trivial, ?_⟩
      rintro _ ⟨⟩
    refine ⟨?_, fun _ _ => trivial⟩
    rintro _ plan ⟨⟩ hbuild
    obtain ⟨⟨hkeys, hone⟩, hpeer⟩ := hplan plan (by rw [hbuild]; rfl)
    obtain ⟨pc, hpc⟩ := List.length_eq_one_iff.mp hone
    exact ⟨hkeys, by simp [hpc], fun pc h => (hpeer pc h).1, fun pc h => (hpeer pc h).2⟩
  refine Machine.exists_run_of (P := fun s => (s.pc = .select ∧ s.kick = false ∧
    ∀ e ∈ s.pending, e.arms = false) ∧ s.mesh.last.isSome = true) rfl hok (by decide +kernel) ?_
  rintro s hreach ⟨hrest, hlast⟩
  rcases (mesh_follows_cache _ _ _ (by decide) hreach).1 hrest with hnone | h
  · rw [hnone] at hlast
    cases hlast
  · obtain ⟨-, plan, dev, -, -, hdev, hholds⟩ := h
    exact ⟨plan, dev, hdev, hholds⟩

end DarwinNet.Mesh
