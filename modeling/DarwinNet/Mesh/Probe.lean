import DarwinNet.Lib.GoMap
import DarwinNet.Lib.Machine
import DarwinNet.Netip.Addr

/-!
The interconnect probe (`probe.go`: `SetTargets`, `round`, `Alive`): a round copies the targets,
sends each an echo without the lock, and folds the results into the state of the targets of that
moment, matched by value. `SetTargets` may come at any time in between.

A target removed and added again while its echo is out takes the result of an echo sent before
it was added (`stale_echo_counts`). Where no `SetTargets` adds a target that the round has
already sent its echo to, a target is alive exactly if an echo sent since it was added was
answered and fewer than `ProbeMisses` have gone unanswered since (`alive_reflects_echoes`).
-/

namespace DarwinNet.Mesh

open Lib Netip

def probeMisses : Nat := 3

structure ProbeTarget where
  iface : String
  peer : Addr
  deriving DecidableEq

structure ProbeState where
  alive : Bool
  misses : Nat
  deriving DecidableEq

/-- The result of one echo folded into a state, and the transition to report. -/
def ProbeState.fold (st : ProbeState) : Bool → ProbeState × Option Bool
  | true => (⟨true, 0⟩, if st.alive then none else some true)
  | false =>
    if st.alive ∧ st.misses + 1 ≥ probeMisses then (⟨false, st.misses + 1⟩, some false)
    else ({ st with misses := st.misses + 1 }, none)

structure Echo where
  target : ProbeTarget
  sent : Option Nat
  answered : Option Bool

/-- The prober and the round in flight. `reported` are the calls of `onChange`. The rest is
history: a clock of steps, when each target was last added, and the results folded in of the
echoes sent to it since, the newest first. -/
structure ProbeRun where
  targets : GoMap ProbeTarget ProbeState
  flight : Option (List Echo)
  reported : List (ProbeTarget × Bool)
  clock : Nat
  added : ProbeTarget → Nat
  heard : ProbeTarget → List Bool

inductive ProbeLabel
  | setTargets (targets : List ProbeTarget)
  | begin (order : List ProbeTarget)
  | send (i : Nat)
  | answer (i : Nat) (ok : Bool)
  | fold
  | abort

namespace ProbeRun

def nextTargets (s : ProbeRun) : List ProbeTarget → GoMap ProbeTarget ProbeState
  | [] => ∅
  | t :: ts => (s.nextTargets ts).insert t ((s.targets.lookup t).getD ⟨false, 0⟩)

def setTargets (s : ProbeRun) (targets : List ProbeTarget) : ProbeRun :=
  { s with
    targets := s.nextTargets targets
    added := fun t => if (s.targets.lookup t).isNone then s.clock else s.added t
    heard := fun t => if (s.targets.lookup t).isNone then [] else s.heard t }

/-- One turn of the loop of `round` over its results. -/
def foldEcho (s : ProbeRun) (e : Echo) (ok : Bool) : ProbeRun :=
  match s.targets.lookup e.target with
  | none => s
  | some st =>
    { s with
      targets := s.targets.insert e.target (st.fold ok).1
      reported := s.reported ++ ((st.fold ok).2.map fun alive => (e.target, alive)).toList
      -- only an echo sent since the target was added counts
      heard := if ∃ n ∈ e.sent, s.added e.target ≤ n then
        Function.update s.heard e.target (ok :: s.heard e.target) else s.heard }

def foldAll (s : ProbeRun) : List Echo → Option ProbeRun
  | [] => some s
  | e :: es => e.answered.bind fun ok => (s.foldEcho e ok).foldAll es

def tick (s : ProbeRun) : ProbeRun := { s with clock := s.clock + 1 }

def act (s : ProbeRun) : ProbeLabel → Option ProbeRun
  | .setTargets targets => some (s.setTargets targets)
  | .begin order =>
    if s.flight.isNone ∧ order.Perm s.targets.keys then
      some { s with flight := some (order.map fun t => ⟨t, none, none⟩) }
    else none
  | .send i =>
    s.flight.bind fun es => es[i]?.bind fun e =>
      if e.sent.isNone then
        some { s with flight := some (es.set i { e with sent := some s.clock }) }
      else none
  | .answer i ok =>
    s.flight.bind fun es => es[i]?.bind fun e =>
      if e.sent.isSome ∧ e.answered.isNone then
        some { s with flight := some (es.set i { e with answered := some ok }) }
      else none
  | .fold => s.flight.bind fun es => { s with flight := none }.foldAll es
  | .abort => s.flight.map fun _ => { s with flight := none }

def alive (s : ProbeRun) (t : ProbeTarget) : Bool := (s.targets.lookup t).any (·.alive)

end ProbeRun

def probeMachine : Machine ProbeRun ProbeLabel where
  init s := s.targets = ∅ ∧ s.flight = none
  step s a := (s.act a).map ProbeRun.tick

/-- `SetTargets` adds no target that the round in flight has sent its echo to. -/
def NoReadd (s : ProbeRun) : ProbeLabel → Prop
  | .setTargets targets => ∀ es ∈ s.flight, ∀ e ∈ es, e.target ∈ targets →
      s.targets.lookup e.target = none → e.sent = none
  | _ => True

instance decidableNoReadd (s : ProbeRun) : ∀ a, Decidable (NoReadd s a)
  | .setTargets _ => inferInstanceAs (Decidable (∀ es ∈ s.flight, _))
  | .begin _ => isTrue trivial
  | .send _ => isTrue trivial
  | .answer _ _ => isTrue trivial
  | .fold => isTrue trivial
  | .abort => isTrue trivial

/-- Some echo was answered, and fewer than `ProbeMisses` have gone unanswered since. -/
def Answers (heard : List Bool) : Prop :=
  ∃ misses older, heard = List.replicate misses false ++ true :: older ∧ misses < probeMisses

/-- The state of a target that has heard these results. -/
inductive Reflects : ProbeState → List Bool → Prop
  | silent (n : Nat) : Reflects ⟨false, n⟩ (List.replicate n false)
  | answered (n : Nat) (older : List Bool) :
      Reflects ⟨decide (n < probeMisses), n⟩ (List.replicate n false ++ true :: older)

lemma replicate_false_inj {n m : Nat} {l l' : List Bool}
    (h : List.replicate n false ++ true :: l = List.replicate m false ++ true :: l') : n = m := by
  induction n generalizing m with
  | zero =>
    cases m with
    | zero => rfl
    | succ m => simp [List.replicate_succ] at h
  | succ n ih =>
    cases m with
    | zero => simp [List.replicate_succ] at h
    | succ m =>
      simp only [List.replicate_succ, List.cons_append, List.cons.injEq, true_and] at h
      rw [ih h]

namespace Reflects

variable {st : ProbeState} {heard : List Bool}

lemma alive_iff (h : Reflects st heard) : st.alive = true ↔ Answers heard := by
  cases h with
  | silent n =>
    constructor
    · intro hf
      cases hf
    · rintro ⟨misses, older, heq, -⟩
      have hmem : true ∈ List.replicate n false := by simp [heq]
      simpa using List.eq_of_mem_replicate hmem
  | answered n older =>
    rw [decide_eq_true_eq]
    constructor
    · intro hlt
      exact ⟨n, older, rfl, hlt⟩
    · rintro ⟨misses, older', heq, hlt⟩
      rw [replicate_false_inj heq]
      exact hlt

lemma fold (h : Reflects st heard) (ok : Bool) : Reflects (st.fold ok).1 (ok :: heard) := by
  cases ok with
  | true => exact .answered 0 heard
  | false =>
    cases h with
    | silent n => exact .silent (n + 1)
    | answered n older =>
      have hmiss : Reflects ⟨decide (n + 1 < probeMisses), n + 1⟩
          (false :: (List.replicate n false ++ true :: older)) := .answered (n + 1) older
      unfold ProbeState.fold
      by_cases hdead : n < probeMisses ∧ n + 1 ≥ probeMisses
      · have hfalse : decide (n + 1 < probeMisses) = false := by
          rw [decide_eq_false_iff_not]
          omega
        rw [hfalse] at hmiss
        simpa [hdead] using hmiss
      · have hsame : decide (n + 1 < probeMisses) = decide (n < probeMisses) := by
          rw [decide_eq_decide]
          omega
        rw [hsame] at hmiss
        simpa [hdead] using hmiss

end Reflects

namespace ProbeRun

variable {s u : ProbeRun}

lemma lookup_nextTargets (ts : List ProbeTarget) (t : ProbeTarget) : (s.nextTargets ts).lookup t =
      if t ∈ ts then some ((s.targets.lookup t).getD ⟨false, 0⟩) else none := by
  induction ts with
  | nil => simp [nextTargets]
  | cons t' ts ih =>
    rw [nextTargets, GoMap.lookup_insert_ite, ih]
    by_cases heq : t = t'
    · subst heq
      simp
    · simp [heq]

/-- Each target is in the state its echoes lead to. -/
def Reflecting (s : ProbeRun) : Prop :=
  ∀ t st, s.targets.lookup t = some st → Reflects st (s.heard t)

def Counts (s : ProbeRun) (e : Echo) : Prop :=
  ∀ n ∈ e.sent, (s.targets.lookup e.target).isSome → s.added e.target ≤ n

/-- Each target is in the state of its echoes; those in flight count from its addition. -/
structure Tracks (s : ProbeRun) : Prop where
  reflects : s.Reflecting
  added : ∀ t, (s.targets.lookup t).isSome → s.added t ≤ s.clock
  counts : ∀ es ∈ s.flight, ∀ e ∈ es, s.Counts e
  sent : ∀ es ∈ s.flight, ∀ e ∈ es, e.answered.isSome → e.sent.isSome

lemma isSome_foldEcho (e : Echo) (ok : Bool) (t : ProbeTarget) :
    ((s.foldEcho e ok).targets.lookup t).isSome = (s.targets.lookup t).isSome := by
  unfold foldEcho
  split
  · rfl
  rename_i st hst
  dsimp only
  rw [GoMap.lookup_insert_ite]
  split
  · rename_i heq
    rw [heq, hst]
    rfl
  · rfl

lemma added_foldEcho (e : Echo) (ok : Bool) : (s.foldEcho e ok).added = s.added := by
  unfold foldEcho
  split <;> rfl

lemma clock_foldEcho (e : Echo) (ok : Bool) : (s.foldEcho e ok).clock = s.clock := by
  unfold foldEcho
  split <;> rfl

lemma flight_foldEcho (e : Echo) (ok : Bool) : (s.foldEcho e ok).flight = s.flight := by
  unfold foldEcho
  split <;> rfl

lemma Reflecting.foldEcho (h : s.Reflecting) {e : Echo} (hcounts : s.Counts e)
    (hsent : e.sent.isSome) (ok : Bool) : (s.foldEcho e ok).Reflecting := by
  obtain ⟨n, hn⟩ := Option.isSome_iff_exists.mp hsent
  intro t st' hst'
  unfold ProbeRun.foldEcho at hst' ⊢
  split at hst'
  · exact h t st' hst'
  rename_i st hst
  have hadded : ∃ n ∈ e.sent, s.added e.target ≤ n := ⟨n, hn, hcounts n hn (by rw [hst]; rfl)⟩
  dsimp only at hst' ⊢
  rw [if_pos hadded]
  rw [GoMap.lookup_insert_ite] at hst'
  split at hst'
  · rename_i heq
    cases hst'
    rw [heq, Function.update_self]
    exact (h e.target st hst).fold ok
  · rename_i hne
    rw [Function.update_of_ne hne]
    exact h t st' hst'

/-- A fold of a whole round keeps the targets in the state of their echoes. -/
lemma foldAll_spec {es : List Echo} (h : s.Reflecting) (hcounts : ∀ e ∈ es, s.Counts e)
    (hsent : ∀ e ∈ es, e.answered.isSome → e.sent.isSome) (hu : s.foldAll es = some u) :
    u.Reflecting ∧ u.added = s.added ∧ u.clock = s.clock ∧ u.flight = s.flight ∧
      ∀ t, (u.targets.lookup t).isSome = (s.targets.lookup t).isSome := by
  induction es generalizing s with
  | nil =>
    cases hu
    exact ⟨h, rfl, rfl, rfl, fun _ => rfl⟩
  | cons e es ih =>
    obtain ⟨ok, hok, hu⟩ := Option.bind_eq_some_iff.mp hu
    have he := hcounts e List.mem_cons_self
    have hesent := hsent e List.mem_cons_self (by rw [hok]; rfl)
    have hrest : ∀ e' ∈ es, (s.foldEcho e ok).Counts e' := by
      intro e' he' n hn hmem
      rw [isSome_foldEcho] at hmem
      rw [added_foldEcho]
      exact hcounts e' (List.mem_cons_of_mem e he') n hn hmem
    obtain ⟨hreflects, hadded, hclock, hflight, hmem⟩ := ih (h.foldEcho he hesent ok) hrest
      (fun e' he' => hsent e' (List.mem_cons_of_mem e he')) hu
    refine ⟨hreflects, ?_, ?_, ?_, fun t => ?_⟩
    · rw [hadded, added_foldEcho]
    · rw [hclock, clock_foldEcho]
    · rw [hflight, flight_foldEcho]
    · rw [hmem, isSome_foldEcho]

namespace Tracks

lemma tick (h : s.Tracks) : s.tick.Tracks :=
  ⟨h.reflects, fun t ht => Nat.le_succ_of_le (h.added t ht), h.counts, h.sent⟩

lemma setTargets (h : s.Tracks) {ts : List ProbeTarget}
    (hok : NoReadd s (.setTargets ts)) : (s.setTargets ts).Tracks := by
  have hlookup : ∀ t, (s.setTargets ts).targets.lookup t =
      if t ∈ ts then some ((s.targets.lookup t).getD ⟨false, 0⟩) else none :=
    lookup_nextTargets ts
  refine ⟨fun t st hst => ?_, fun t ht => ?_, fun es hes e he n hn hmem => ?_, h.sent⟩
  · rw [hlookup] at hst
    split_ifs at hst
    cases hold : s.targets.lookup t with
    | none =>
      rw [hold] at hst
      cases hst
      have hheard : (s.setTargets ts).heard t = [] := if_pos (by rw [hold]; rfl)
      rw [hheard]
      exact .silent 0
    | some st₀ =>
      rw [hold] at hst
      cases hst
      have hheard : (s.setTargets ts).heard t = s.heard t := if_neg (by simp [hold])
      rw [hheard]
      exact h.reflects t st₀ hold
  · show (if (s.targets.lookup t).isNone then s.clock else s.added t) ≤ s.clock
    split
    · exact Nat.le_refl _
    · rename_i hold
      exact h.added t (by simpa [Option.isSome_iff_ne_none] using hold)
  · show (if (s.targets.lookup e.target).isNone then s.clock else s.added e.target) ≤ n
    split
    · -- the target is added now: its echo has not been sent
      rename_i hold
      have hin : e.target ∈ ts := by
        rw [hlookup] at hmem
        by_contra hnot
        simp [hnot] at hmem
      have hunsent := hok es hes e he hin (Option.isNone_iff_eq_none.mp hold)
      rw [hunsent] at hn
      cases hn
    · rename_i hold
      refine h.counts es hes e he n hn ?_
      simpa [Option.isSome_iff_ne_none] using hold

lemma set (h : s.Tracks) {es : List Echo} {i : Nat} {e : Echo} (hes : s.flight = some es)
    (hcounts : s.Counts e) (hsent : e.answered.isSome → e.sent.isSome) :
    Tracks { s with flight := some (es.set i e) } := by
  refine ⟨h.reflects, h.added, ?_, ?_⟩
  · rintro es' ⟨⟩ e' he'
    rcases List.mem_or_eq_of_mem_set he' with he' | rfl
    · exact h.counts es hes e' he'
    · exact hcounts
  · rintro es' ⟨⟩ e' he'
    rcases List.mem_or_eq_of_mem_set he' with he' | rfl
    · exact h.sent es hes e' he'
    · exact hsent

lemma act {a : ProbeLabel} (h : s.Tracks) (hok : NoReadd s a) (hu : s.act a = some u) :
    u.Tracks := by
  cases a with
  | setTargets ts =>
    cases hu
    exact h.setTargets hok
  | begin order =>
    simp only [ProbeRun.act, Option.ite_none_right_eq_some] at hu
    obtain ⟨-, hu⟩ := hu
    cases hu
    refine ⟨h.reflects, h.added, ?_, ?_⟩
    · rintro es ⟨⟩ e he n hn
      obtain ⟨t, -, rfl⟩ := List.mem_map.mp he
      cases hn
    · rintro es ⟨⟩ e he hanswered
      obtain ⟨t, -, rfl⟩ := List.mem_map.mp he
      cases hanswered
  | send i =>
    obtain ⟨es, hes, hu⟩ := Option.bind_eq_some_iff.mp hu
    obtain ⟨e, he, hu⟩ := Option.bind_eq_some_iff.mp hu
    simp only [Option.ite_none_right_eq_some] at hu
    obtain ⟨-, hu⟩ := hu
    cases hu
    refine h.set hes ?_ fun _ => rfl
    rintro n ⟨⟩ hmem
    exact h.added e.target hmem
  | answer i ok =>
    obtain ⟨es, hes, hu⟩ := Option.bind_eq_some_iff.mp hu
    obtain ⟨e, he, hu⟩ := Option.bind_eq_some_iff.mp hu
    simp only [Option.ite_none_right_eq_some] at hu
    obtain ⟨⟨hsent, -⟩, hu⟩ := hu
    cases hu
    exact h.set hes (h.counts es hes e (List.mem_of_getElem? he)) fun _ => hsent
  | fold =>
    obtain ⟨es, hes, hu⟩ := Option.bind_eq_some_iff.mp hu
    obtain ⟨hreflects, hadded, hclock, hflight, hmem⟩ :=
      foldAll_spec (s := { s with flight := none }) h.reflects (h.counts es hes) (h.sent es hes) hu
    refine ⟨hreflects, fun t ht => ?_, ?_, ?_⟩
    · rw [hadded, hclock]
      rw [hmem] at ht
      exact h.added t ht
    · rw [hflight]
      rintro es' ⟨⟩
    · rw [hflight]
      rintro es' ⟨⟩
  | abort =>
    obtain ⟨es, -, rfl⟩ := Option.map_eq_some_iff.mp hu
    refine ⟨h.reflects, h.added, ?_, ?_⟩
    · rintro es' ⟨⟩
    · rintro es' ⟨⟩

end Tracks

end ProbeRun

/-- An address is alive exactly if it is a target and the echoes sent since it was added say so,
where no target is added again while its echo is out. -/
theorem alive_reflects_echoes (s : ProbeRun) (h : probeMachine.Reach NoReadd s) (t : ProbeTarget) :
    s.alive t = true ↔ (s.targets.lookup t).isSome = true ∧ Answers (s.heard t) := by
  have hinv : s.Tracks := by
    refine h.invariant (fun s hs => ?_) fun s a u hs ha hu => ?_
    · obtain ⟨hempty, hflight⟩ := hs
      refine ⟨fun t st hst => ?_, fun t ht => ?_, ?_, ?_⟩
      · rw [hempty] at hst
        cases hst
      · rw [hempty] at ht
        cases ht
      · rw [hflight]
        rintro es ⟨⟩
      · rw [hflight]
        rintro es ⟨⟩
    · obtain ⟨v, hv, rfl⟩ := Option.map_eq_some_iff.mp hu
      exact (hs.act ha hv).tick
  unfold ProbeRun.alive
  cases hst : s.targets.lookup t with
  | none => simp
  | some st =>
    have hiff := (hinv.reflects t st hst).alive_iff
    simpa using hiff

/-! ## One peer on a cable -/

def cablePeer : ProbeTarget := ⟨"en5", .v4 0xa9fe0102#32⟩

def newProber : ProbeRun := ⟨∅, none, [], 0, fun _ => 0, fun _ => []⟩

/-- An echo sent before a target was dropped and added again counts for the new one. -/
theorem stale_echo_counts : ∃ s, probeMachine.Reach Machine.always s ∧
    s.alive cablePeer = true ∧ ¬ Answers (s.heard cablePeer) := by
  let labels : List ProbeLabel := [.setTargets [cablePeer], .begin [cablePeer], .send 0,
    .setTargets [], .setTargets [cablePeer], .answer 0 true, .fold]
  obtain ⟨s, hreach, halive, hheard⟩ : ∃ s, probeMachine.Reach Machine.always s ∧
      s.alive cablePeer = true ∧ s.heard cablePeer = [] :=
    Machine.Reach.exists_run (s := newProber) labels ⟨rfl, rfl⟩ (Machine.meets_always _ _)
      (by decide)
  refine ⟨s, hreach, halive, ?_⟩
  rintro ⟨misses, older, heq, -⟩
  rw [hheard] at heq
  have hlen := congrArg List.length heq
  simp at hlen

theorem alive_reflects_echoes_cable : ∃ s, probeMachine.Reach NoReadd s ∧
    s.alive cablePeer = true ∧ Answers (s.heard cablePeer) := by
  let labels : List ProbeLabel := [.setTargets [cablePeer], .begin [cablePeer], .send 0,
    .answer 0 true, .fold, .setTargets [], .setTargets [cablePeer], .begin [cablePeer], .send 0,
    .answer 0 true, .fold]
  obtain ⟨s, hreach, halive⟩ : ∃ s, probeMachine.Reach NoReadd s ∧ s.alive cablePeer = true :=
    Machine.Reach.exists_run (s := newProber) labels ⟨rfl, rfl⟩ (by decide) (by decide)
  exact ⟨s, hreach, halive, ((alive_reflects_echoes s hreach cablePeer).mp halive).2⟩

end DarwinNet.Mesh
