import DarwinNet.Proxy.Pass

/-!
When the anti-entropy passes relist (`antientropy.go`: `maybeRelist`, `endEpisode`; the fields
`episodeRelisted`, `nextRelist` and `relistBackoff` of `watch.go`), over any sequence of passes
with any changes of the stores in between.

An episode relists at most once, and no sooner than the backoff allows. Its flag is set before the
relist is tried and stays set if that does not sync: the episode never tries again
(`failed_relist_given_up`). `relists_throttled` says exactly when a pass that is due tries. What a
pass tried is read off the calls of `relist` it has made.
-/

namespace DarwinNet.Proxy

open Lib Netip Api

/-- What a pass found; `unchecked` if a list failed and nothing was compared. -/
inductive Finding
  | diverging
  | clean
  | unchecked
  deriving DecidableEq

inductive Attempt
  | notTried
  | failed
  | swapped
  deriving DecidableEq

/-- A pass: what it found and did, its two readings of the clock, and the time and the backoff
it began with. -/
structure PassRecord where
  finding : Finding
  attempt : Attempt
  now : Int
  later : Int
  nextRelist : Option Int
  backoff : Int
  deriving DecidableEq

/-- The passes since the last clean one, the newest first as in the record. -/
def episode (passes : List PassRecord) : List PassRecord :=
  passes.takeWhile fun r => r.finding ≠ .clean

structure RelistState where
  watcher : Watcher
  passes : List PassRecord

inductive RelistLabel
  | pass (env : PassEnv)
  | elsewhere (w : WatchState)

section

variable (api : Netv1) (static : StaticBackends)

namespace Watcher

def finding (w : Watcher) (env : PassEnv) : Finding :=
  match w.compared api static env with
  | none => .unchecked
  | some l => if divergences api static (listLive l) w.view = [] then .clean else .diverging

/-- The calls of `relist` between `w` and `w'`. -/
def attempt (w w' : Watcher) : Attempt :=
  match w'.relists.take (w'.relists.length - w.relists.length) with
  | [] => .notTried
  | false :: _ => .failed
  | true :: _ => .swapped

/-- A pass that turns `w` into `w'`. -/
def record (w w' : Watcher) (env : PassEnv) : PassRecord where
  finding := w.finding api static env
  attempt := w.attempt w'
  now := env.now
  later := env.later
  nextRelist := w.nextRelist
  backoff := w.relistBackoff

end Watcher

def RelistState.step (s : RelistState) : RelistLabel → Option RelistState
  | .pass env =>
    if env.now ≤ env.later then
      (s.watcher.antiEntropyPass api static env).map fun r =>
        ⟨r.1, s.watcher.record api static r.1 env :: s.passes⟩
    else none
  | .elsewhere w => some ⟨{ s.watcher with toWatchState := w }, s.passes⟩

def relistMachine : Machine RelistState RelistLabel where
  init s := (∃ w confirmDelay, s.watcher = newWatcher w confirmDelay) ∧ s.passes = []
  step s a := s.step api static a

end

inductive ThrottleCase (w w' : Watcher) (env : PassEnv) : Finding → Attempt → Prop
  | unchecked (hflag : w'.episodeRelisted = w.episodeRelisted)
      (hnext : w'.nextRelist = w.nextRelist) (hbackoff : w'.relistBackoff = w.relistBackoff) :
      ThrottleCase w w' env .unchecked .notTried
  | clean (hflag : w'.episodeRelisted = false) (hnext : w'.nextRelist = w.nextRelist)
      (hbackoff : w'.relistBackoff = w.relistBackoff ∨ w'.relistBackoff = relistBackoffInitial) :
      ThrottleCase w w' env .clean .notTried
  | held (hheld : w.episodeRelisted = true ∨ ∃ next ∈ w.nextRelist, env.now < next)
      (hflag : w'.episodeRelisted = w.episodeRelisted)
      (hnext : w'.nextRelist = w.nextRelist) (hbackoff : w'.relistBackoff = w.relistBackoff) :
      ThrottleCase w w' env .diverging .notTried
  | failed (hfree : w.episodeRelisted = false) (hdue : ∀ next ∈ w.nextRelist, next ≤ env.now)
      (hflag : w'.episodeRelisted = true) (hnext : w'.nextRelist = w.nextRelist)
      (hbackoff : w'.relistBackoff = w.relistBackoff) :
      ThrottleCase w w' env .diverging .failed
  | swapped (hfree : w.episodeRelisted = false) (hdue : ∀ next ∈ w.nextRelist, next ≤ env.now)
      (hflag : w'.episodeRelisted = true)
      (hnext : w'.nextRelist = some (env.later + w.relistBackoff))
      (hbackoff : w'.relistBackoff = min (2 * w.relistBackoff) relistBackoffMax) :
      ThrottleCase w w' env .diverging .swapped

/-- Nothing relisted from `w` to `w'`, and the throttle was left alone. -/
structure SameThrottle (w w' : Watcher) : Prop where
  flag : w'.episodeRelisted = w.episodeRelisted
  next : w'.nextRelist = w.nextRelist
  backoff : w'.relistBackoff = w.relistBackoff
  calls : w'.relists = w.relists

section

variable {api : Netv1} {static : StaticBackends} {w w' : Watcher} {env : PassEnv}

lemma attempt_of_eq (h : w'.relists = w.relists) : w.attempt w' = .notTried := by
  rw [Watcher.attempt, h, Nat.sub_self]
  rfl

lemma attempt_of_cons (swapped : Bool) (h : w'.relists = swapped :: w.relists) :
    w.attempt w' = if swapped then .swapped else .failed := by
  rw [Watcher.attempt, h, List.length_cons, Nat.add_sub_cancel_left]
  cases swapped <;> rfl

lemma ThrottleCase.tried {f : Finding} {a : Attempt} (h : ThrottleCase w w' env f a)
    (ha : w.attempt w' = a) : ThrottleCase w w' env f (w.attempt w') := by
  rwa [ha]

lemma SameThrottle.repairs {live : ServiceView} {repairs : List (ObjectKey × List Divergence)}
    (h : SameThrottle w w') :
    SameThrottle w (repairs.foldl (Watcher.repairService api static live) w') := by
  induction repairs generalizing w' with
  | nil => exact h
  | cons x repairs ih =>
    refine ih ?_
    unfold Watcher.repairService
    split
    · exact h
    · exact ⟨h.flag, h.next, h.backoff, h.calls⟩

lemma throttleCase_maybeRelist (hsame : SameThrottle w w') :
    ThrottleCase w (w'.maybeRelist api static env) env .diverging
      (w.attempt (w'.maybeRelist api static env)) := by
  obtain ⟨hflag, hnext, hbackoff, hcalls⟩ := hsame
  unfold Watcher.maybeRelist
  rw [hflag, hnext]
  by_cases hheld : w.episodeRelisted = true ∨ ∃ next ∈ w.nextRelist, env.now < next
  · rw [if_pos hheld]
    exact .tried (.held hheld hflag hnext hbackoff) (attempt_of_eq hcalls)
  rw [if_neg hheld]
  push Not at hheld
  have hfree : w.episodeRelisted = false := by simpa using hheld.1
  unfold Watcher.relist
  cases env.replacement with
  | none =>
    exact .tried (.failed hfree hheld.2 rfl rfl hbackoff)
      (attempt_of_cons false (congrArg (false :: ·) hcalls))
  | some fresh =>
    refine .tried (.swapped hfree hheld.2 rfl ?_ ?_)
      (attempt_of_cons true (congrArg (true :: ·) hcalls))
    · rw [← hbackoff]
      rfl
    · rw [← hbackoff]
      rfl

lemma throttleCase_pass {found : Bool} (h : w.antiEntropyPass api static env = some (w', found)) :
    ThrottleCase w w' env (w.finding api static env) (w.attempt w') := by
  unfold Watcher.antiEntropyPass at h
  cases hl : w.compared api static env with
  | none =>
    have hfound : w.finding api static env = .unchecked := by
      rw [Watcher.finding, hl]
    rw [hl] at h
    cases h
    rw [hfound]
    exact .tried (.unchecked rfl rfl rfl) (attempt_of_eq rfl)
  | some l =>
    rw [hl] at h
    simp only [Option.ite_none_right_eq_some] at h
    obtain ⟨-, h⟩ := h
    by_cases hclean : divergences api static (listLive l) w.view = []
    · have hfound : w.finding api static env = .clean := by
        rw [Watcher.finding, hl]
        exact if_pos hclean
      rw [if_pos hclean] at h
      cases h
      rw [hfound]
      refine .tried (.clean rfl rfl ?_) (attempt_of_eq rfl)
      -- the backoff is reset or kept
      simp only [Watcher.endEpisode, Watcher.endKeyEpisodes, Watcher.settleRepaired,
        Watcher.callAll]
      split
      · split
        · exact .inl rfl
        · exact .inr rfl
      · exact .inl rfl
    · have hfound : w.finding api static env = .diverging := by
        rw [Watcher.finding, hl]
        exact if_neg hclean
      rw [if_neg hclean] at h
      rw [hfound]
      split at h
      · cases h
        exact throttleCase_maybeRelist ⟨rfl, rfl, rfl, rfl⟩
      · cases h
        exact throttleCase_maybeRelist (SameThrottle.repairs ⟨rfl, rfl, rfl, rfl⟩)

lemma throttleCase_record {found : Bool}
    (h : w.antiEntropyPass api static env = some (w', found)) :
    ThrottleCase w w' env (w.record api static w' env).finding
      (w.record api static w' env).attempt :=
  throttleCase_pass h

end

/-! ## Episodes -/

section

variable {r : PassRecord} {passes : List PassRecord}

lemma episode_cons_clean (h : r.finding = .clean) : episode (r :: passes) = [] := by
  simp [episode, h]

lemma episode_cons (h : r.finding ≠ .clean) : episode (r :: passes) = r :: episode passes := by
  simp [episode, h]

end

/-- What the record says of a run: the flag tells whether the episode has tried, it has tried
at most once, and the time of the next relist is past the backoff of every earlier one. -/
structure RelistState.Accounted (s : RelistState) : Prop where
  backoff : 0 ≤ s.watcher.relistBackoff
  flag : s.watcher.episodeRelisted = false ↔ ∀ e ∈ episode s.passes, e.attempt = .notTried
  once : (episode s.passes).countP (fun e => e.attempt ≠ .notTried) ≤ 1
  spaced : ∀ e ∈ s.passes, e.attempt = .swapped →
    ∃ next ∈ s.watcher.nextRelist, e.later + e.backoff ≤ next

/-- A swap keeps the backoff, and the first pass of an episode that may tries a relist. -/
structure PassRecord.Follows (r : PassRecord) (older : List PassRecord) : Prop where
  spaced : r.attempt = .swapped → ∀ e ∈ older, e.attempt = .swapped → e.later + e.backoff ≤ r.now
  tried : r.finding = .diverging → (∀ next ∈ r.nextRelist, next ≤ r.now) →
    (r.attempt ≠ .notTried ↔ ∀ e ∈ episode older, e.attempt = .notTried)

namespace RelistState.Accounted

variable {api : Netv1} {static : StaticBackends} {s : RelistState} {w' : Watcher} {env : PassEnv}
  {r : PassRecord}

lemma newWatcher (w : WatchState) (confirmDelay : Int) :
    Accounted ⟨newWatcher w confirmDelay, []⟩ where
  backoff := show 0 ≤ relistBackoffInitial by decide
  flag := by simp [episode, Proxy.newWatcher]
  once := by simp [episode]
  spaced := by simp

/-- A pass without a swap leaves the next relist past every earlier backoff. -/
lemma spaced_cons (h : s.Accounted) (hnext : w'.nextRelist = s.watcher.nextRelist)
    (hr : r.attempt ≠ .swapped) : ∀ e ∈ r :: s.passes, e.attempt = .swapped →
      ∃ next ∈ w'.nextRelist, e.later + e.backoff ≤ next := by
  intro e he hswapped
  rw [hnext]
  rcases List.mem_cons.mp he with rfl | he
  · exact absurd hswapped hr
  · exact h.spaced e he hswapped

lemma idle (h : s.Accounted) (hflag : w'.episodeRelisted = s.watcher.episodeRelisted)
    (hnext : w'.nextRelist = s.watcher.nextRelist)
    (hbackoff : w'.relistBackoff = s.watcher.relistBackoff) (hfound : r.finding ≠ .clean)
    (htried : r.attempt = .notTried) : Accounted ⟨w', r :: s.passes⟩ := by
  refine ⟨?_, ?_, ?_, h.spaced_cons hnext (by simp [htried])⟩
  · rw [hbackoff]
    exact h.backoff
  · rw [hflag, h.flag, episode_cons hfound]
    simp [htried]
  · rw [episode_cons hfound, List.countP_cons_of_neg (by simp [htried])]
    exact h.once

lemma tried (h : s.Accounted) (hfree : s.watcher.episodeRelisted = false)
    (hfound : r.finding ≠ .clean) (htried : r.attempt ≠ .notTried)
    (hflag : w'.episodeRelisted = true) (hbackoff : 0 ≤ w'.relistBackoff)
    (hspaced : ∀ e ∈ r :: s.passes, e.attempt = .swapped →
      ∃ next ∈ w'.nextRelist, e.later + e.backoff ≤ next) : Accounted ⟨w', r :: s.passes⟩ := by
  have hnone := h.flag.mp hfree
  refine ⟨hbackoff, ?_, ?_, hspaced⟩
  · rw [episode_cons hfound]
    simp [hflag, htried]
  have hzero : (episode s.passes).countP (fun e => e.attempt ≠ .notTried) = 0 := by
    rw [List.countP_eq_zero]
    intro e he
    simp [hnone e he]
  rw [episode_cons hfound, List.countP_cons_of_pos (by simp [htried]), hzero]

lemma pass {found : Bool} (h : s.Accounted) (hclock : env.now ≤ env.later)
    (hpass : s.watcher.antiEntropyPass api static env = some (w', found)) :
    Accounted ⟨w', s.watcher.record api static w' env :: s.passes⟩ := by
  have hcase := throttleCase_record hpass
  have hlater : (s.watcher.record api static w' env).later = env.later := rfl
  have hback : (s.watcher.record api static w' env).backoff = s.watcher.relistBackoff := rfl
  generalize s.watcher.record api static w' env = r at hcase hlater hback ⊢
  generalize hf : r.finding = f at hcase
  generalize ha : r.attempt = a at hcase
  cases hcase with
  | unchecked hflag hnext hbackoff =>
    exact h.idle hflag hnext hbackoff (by simp [hf]) ha
  | held _ hflag hnext hbackoff =>
    exact h.idle hflag hnext hbackoff (by simp [hf]) ha
  | clean hflag hnext hbackoff =>
    refine ⟨?_, ?_, ?_, h.spaced_cons hnext (by simp [ha])⟩
    · rcases hbackoff with hkept | hreset
      · rw [hkept]
        exact h.backoff
      · rw [hreset]
        decide
    · rw [episode_cons_clean hf]
      simp [hflag]
    · rw [episode_cons_clean hf]
      simp
  | failed hfree _ hflag hnext hbackoff =>
    exact h.tried hfree (by simp [hf]) (by simp [ha]) hflag (by rw [hbackoff]; exact h.backoff)
      (h.spaced_cons hnext (by simp [ha]))
  | swapped hfree hdue hflag hnext hbackoff =>
    have hnonneg := h.backoff
    have hmax : 0 ≤ relistBackoffMax := by decide
    refine h.tried hfree (by simp [hf]) (by simp [ha]) hflag (by rw [hbackoff]; omega) ?_
    intro e he hswapped
    refine ⟨_, hnext, ?_⟩
    rcases List.mem_cons.mp he with rfl | he
    · rw [hlater, hback]
    -- the time an earlier relist set has been reached
    obtain ⟨next, hmem, hle⟩ := h.spaced e he hswapped
    have := hdue next hmem
    omega

lemma follows {found : Bool} (h : s.Accounted)
    (hpass : s.watcher.antiEntropyPass api static env = some (w', found)) :
    (s.watcher.record api static w' env).Follows s.passes := by
  have hcase := throttleCase_record hpass
  have hnow : (s.watcher.record api static w' env).now = env.now := rfl
  have hprev : (s.watcher.record api static w' env).nextRelist = s.watcher.nextRelist := rfl
  generalize s.watcher.record api static w' env = r at hcase hnow hprev ⊢
  refine ⟨fun hswapped e he heswapped => ?_, fun hdiverging hdue => ?_⟩
  · rw [hswapped] at hcase
    generalize r.finding = f at hcase
    cases hcase with
    | swapped _ hdue =>
      obtain ⟨next, hmem, hle⟩ := h.spaced e he heswapped
      have := hdue next hmem
      omega
  · rw [hdiverging] at hcase
    rw [← h.flag]
    generalize r.attempt = a at hcase ⊢
    cases hcase with
    | held hheld =>
      rcases hheld with hset | ⟨next, hmem, hlt⟩
      · simp [hset]
      · -- the pass is due, so it is not held by the backoff
        have := hdue next (hprev ▸ hmem)
        omega
    | failed hfree => simp [hfree]
    | swapped hfree => simp [hfree]

end RelistState.Accounted

section

variable {api : Netv1} {static : StaticBackends} {s t : RelistState} {a : RelistLabel}

/-- A step is a pass, which is recorded, or leaves the throttle alone. -/
lemma RelistState.step_cases (h : s.step api static a = some t) :
    (∃ env w' found, env.now ≤ env.later ∧
      s.watcher.antiEntropyPass api static env = some (w', found) ∧
      t = ⟨w', s.watcher.record api static w' env :: s.passes⟩) ∨
    (SameThrottle s.watcher t.watcher ∧ t.passes = s.passes) := by
  cases a with
  | pass env =>
    simp only [RelistState.step, Option.ite_none_right_eq_some, Option.map_eq_some_iff] at h
    obtain ⟨hclock, ⟨w', found⟩, hpass, rfl⟩ := h
    exact .inl ⟨env, w', found, hclock, hpass, rfl⟩
  | elsewhere w =>
    cases h
    exact .inr ⟨⟨rfl, rfl, rfl, rfl⟩, rfl⟩

lemma RelistState.Accounted.elsewhere (h : s.Accounted)
    (hsame : SameThrottle s.watcher t.watcher) (hpasses : t.passes = s.passes) : t.Accounted := by
  refine ⟨?_, ?_, ?_, ?_⟩
  · rw [hsame.backoff]
    exact h.backoff
  · rw [hsame.flag, hpasses]
    exact h.flag
  · rw [hpasses]
    exact h.once
  · rw [hpasses, hsame.next]
    exact h.spaced

structure RelistState.Lawful (s : RelistState) : Prop where
  account : s.Accounted
  newest : ∀ r older, s.passes = r :: older → r.Follows older

/-- Every pass of every run follows those before it. -/
lemma RelistState.Lawful.reach (h : (relistMachine api static).Reach Machine.always s) :
    s.Lawful := by
  refine h.invariant (fun s hs => ?_) fun s a t hs _ ht => ?_
  · obtain ⟨⟨w, confirmDelay, hw⟩, hpasses⟩ := hs
    obtain ⟨watcher, passes⟩ := s
    subst hw hpasses
    exact ⟨.newWatcher w confirmDelay, by simp⟩
  · rcases RelistState.step_cases ht with ⟨env, w', found, hclock, hpass, rfl⟩ | ⟨hsame, hpasses⟩
    · refine ⟨hs.account.pass hclock hpass, ?_⟩
      rintro r older ⟨⟩
      exact hs.account.follows hpass
    · exact ⟨hs.account.elsewhere hsame hpasses, hpasses ▸ hs.newest⟩

/-- An episode relists at most once, two relists are at least the backoff in force after the
first apart, and a diverging pass that is due while its episode has not relisted tries, unless
an earlier try of the episode failed. -/
theorem relists_throttled (s : RelistState)
    (h : (relistMachine api static).Reach Machine.always s) :
    (episode s.passes).countP (fun e => e.attempt = .swapped) ≤ 1 ∧
    ∀ r older, s.passes = r :: older → (r.attempt = .swapped → ∀ e ∈ older, e.attempt = .swapped →
        e.later + e.backoff ≤ r.now) ∧
      (r.finding = .diverging → (∀ next ∈ r.nextRelist, next ≤ r.now) →
        (∀ e ∈ episode older, e.attempt ≠ .swapped) →
        (r.attempt ≠ .notTried ↔ ∀ e ∈ episode older, e.attempt ≠ .failed)) := by
  obtain ⟨hacc, hlast⟩ := RelistState.Lawful.reach h
  refine ⟨?_, fun r older hpasses => ⟨(hlast r older hpasses).spaced, ?_⟩⟩
  · refine le_trans (List.countP_mono_left fun e _ he => ?_) hacc.once
    simp only [decide_eq_true_eq] at he
    simp [he]
  · intro hdiverging hdue hnoswap
    rw [(hlast r older hpasses).tried hdiverging hdue]
    refine forall₂_congr fun e he => ?_
    have := hnoswap e he
    cases hattempt : e.attempt with
    | notTried => simp
    | failed => simp
    | swapped => exact absurd hattempt this

end

/-! ## A node whose Service is no longer listed -/

def webPass (now : Int) (replacement : Option Replacement)
    (divs : List (ObjectKey × List Divergence)) (deletes : List Service) : RelistLabel :=
  .pass ⟨some nothingListed, some nothingListed, now, now, replacement, [], divs, deletes, []⟩

def webRelists (labels : WatchState → List RelistLabel) : Option RelistState :=
  ((watchMachine Netv1.standard ∅ ∅ (defaultConfig .zero)).run watchStart webRun).bind fun w =>
    (relistMachine Netv1.standard ∅).run ⟨newWatcher w 0, []⟩ (labels w)

lemma reach_webRelists {labels : WatchState → List RelistLabel} {s : RelistState}
    (h : webRelists labels = some s) : (relistMachine Netv1.standard ∅).Reach Machine.always s := by
  obtain ⟨w, -, hs⟩ := Option.bind_eq_some_iff.mp h
  exact .of_run (labels w) ⟨⟨w, 0, rfl⟩, rfl⟩ (Machine.meets_always _ _) hs

/-- A relist that failed is not tried again while the divergence lasts. -/
theorem failed_relist_given_up : ∃ s, (relistMachine Netv1.standard ∅).Reach Machine.always s ∧
    s.passes.map (fun r => (r.finding, r.attempt, r.nextRelist)) =
      [(.diverging, .notTried, none), (.diverging, .notTried, none),
        (.diverging, .failed, none)] := by
  have hrun : (webRelists fun _ => [webPass 0 none webDivs [],
      webPass (1800 * 10 ^ 9) none webDivs [], webPass (3600 * 10 ^ 9) none webDivs []]).map
        (fun s => s.passes.map fun r => (r.finding, r.attempt, r.nextRelist)) =
      some [(.diverging, .notTried, none), (.diverging, .notTried, none),
        (.diverging, .failed, none)] := by
    decide +kernel
  obtain ⟨s, hs, hpasses⟩ := Option.map_eq_some_iff.mp hrun
  exact ⟨s, reach_webRelists hs, hpasses⟩

theorem relists_throttled_twice : ∃ s, (relistMachine Netv1.standard ∅).Reach Machine.always s ∧
    s.passes.map PassRecord.attempt = [.swapped, .notTried, .swapped] ∧
    (episode s.passes).countP (fun e => e.attempt = .swapped) ≤ 1 := by
  have hrun : (webRelists fun w => [webPass 0 (some emptyReplacement) webDivs [webService [80]],
      webPass (10 * 10 ^ 9) none [] [], .elsewhere w,
      webPass (60 * 10 ^ 9) (some emptyReplacement) webDivs [webService [80]]]).map
        (fun s => s.passes.map PassRecord.attempt) = some [.swapped, .notTried, .swapped] := by
    decide +kernel
  obtain ⟨s, hs, hpasses⟩ := Option.map_eq_some_iff.mp hrun
  exact ⟨s, reach_webRelists hs, hpasses, (relists_throttled s (reach_webRelists hs)).1⟩

end DarwinNet.Proxy
