import DarwinNet.Proxy.Table
import DarwinNet.Lib.Machine

/-!
`claimDropWarn` (`routing.go`): which dropped connection of a key logs its Warn. A call reads
and writes the two atomics of the `KeyMeta` one after the other without a lock, so each load and
each compare-and-swap is a step of its own, of any number of threads.

In every schedule a generation warns once and two Warns of the key are a floor apart
(`claimInv_of_reach`). A call that has swapped `dropWarned` and then loses the swap of
`lastDropWarn` to a call for another generation has used its generation up without a Warn
(`dropWarn_consumed`). Where calls for different generations do not overlap, every
generation in `dropWarned` has warned (`dropWarn_claims`).
-/

namespace DarwinNet.Proxy

open Lib

def dropWarnFloor : Int := 10 * 10 ^ 9

structure Claim where
  gen : Nat
  now : Int
  deriving DecidableEq, Repr

/-- The next atomic step of a call, with what it has loaded. -/
inductive ClaimPc
  | idle
  | loadLast (c : Claim)
  | loadWarned (c : Claim) (last : Int)
  | swapWarned (c : Claim) (last : Int) (warned : Nat)
  | swapLast (c : Claim) (last : Int)
  deriving DecidableEq, Repr

def ClaimPc.claim : ClaimPc → Option Claim
  | .idle => none
  | .loadLast c => some c
  | .loadWarned c _ => some c
  | .swapWarned c _ _ => some c
  | .swapLast c _ => some c

structure ClaimReturn extends Claim where
  won : Bool
  deriving DecidableEq, Repr

/-- One `KeyMeta`, the calls on it, and what has been returned, newest first. -/
structure ClaimRun where
  keyMeta : KeyMeta
  clock : Int
  pc : Nat → ClaimPc
  returned : List ClaimReturn

inductive ClaimLabel
  | begin (tid : Nat) (c : Claim)
  | advance (tid : Nat)
  deriving DecidableEq, Repr

namespace ClaimRun

def won (s : ClaimRun) : List ClaimReturn := s.returned.filter (·.won)

/-- No claim is under way. -/
def Quiescent (s : ClaimRun) : Prop := ∀ tid, s.pc tid = .idle

def move (s : ClaimRun) (tid : Nat) (pc : ClaimPc) (m : KeyMeta) : ClaimRun :=
  { s with keyMeta := m, pc := Function.update s.pc tid pc }

def finish (s : ClaimRun) (tid : Nat) (c : Claim) (won : Bool) (m : KeyMeta) : ClaimRun :=
  { s.move tid .idle m with returned := ⟨c, won⟩ :: s.returned }

def advance (s : ClaimRun) (tid : Nat) : Option ClaimRun :=
  let m := s.keyMeta
  match s.pc tid with
  | .idle => none
  | .loadLast c =>
    if m.lastDropWarn ≠ 0 ∧ c.now - m.lastDropWarn < dropWarnFloor then
      some (s.finish tid c false m)
    else some (s.move tid (.loadWarned c m.lastDropWarn) m)
  | .loadWarned c last =>
    if c.gen ≤ m.dropWarned then some (s.finish tid c false m)
    else some (s.move tid (.swapWarned c last m.dropWarned) m)
  | .swapWarned c last warned =>
    if m.dropWarned = warned then
      some (s.move tid (.swapLast c last) { m with dropWarned := c.gen })
    else some (s.move tid (.loadWarned c last) m)
  | .swapLast c last =>
    if m.lastDropWarn = last then
      some (s.finish tid c true { m with lastDropWarn := c.now })
    else some (s.finish tid c false m)

/-- Generations start at one, and times are positive and do not decrease from one call to
the next. -/
def step (s : ClaimRun) : ClaimLabel → Option ClaimRun
  | .begin tid c =>
    if s.pc tid = .idle ∧ 1 ≤ c.gen ∧ 0 < c.now ∧ s.clock ≤ c.now then
      some { s.move tid (.loadLast c) s.keyMeta with clock := c.now }
    else none
  | .advance tid => s.advance tid

end ClaimRun

/-- A `KeyMeta` starts with no generation warned and the time it was given. -/
def claimMachine : Machine ClaimRun ClaimLabel where
  init s := s.keyMeta.dropWarned = 0 ∧ s.Quiescent ∧ s.returned = []
  step := ClaimRun.step

/-- A call begins only while every call under way is for its generation. -/
def SameGeneration (s : ClaimRun) : ClaimLabel → Prop
  | .begin _ c => ∀ tid c', (s.pc tid).claim = some c' → c'.gen = c.gen
  | .advance _ => True

/-! ## What one step does -/

inductive Stepped (s : ClaimRun) : ClaimLabel → ClaimRun → Prop
  | begin {tid : Nat} {c : Claim} : s.pc tid = .idle → 0 < c.now →
    Stepped s (.begin tid c) { s.move tid (.loadLast c) s.keyMeta with clock := c.now }
  | floor {tid : Nat} {c : Claim} : s.pc tid = .loadLast c →
    Stepped s (.advance tid) (s.finish tid c false s.keyMeta)
  | passed {tid : Nat} {c : Claim} : s.pc tid = .loadLast c →
    (s.keyMeta.lastDropWarn = 0 ∨ dropWarnFloor ≤ c.now - s.keyMeta.lastDropWarn) →
    Stepped s (.advance tid) (s.move tid (.loadWarned c s.keyMeta.lastDropWarn) s.keyMeta)
  | stale {tid : Nat} {c : Claim} {last : Int} : s.pc tid = .loadWarned c last →
    c.gen ≤ s.keyMeta.dropWarned →
    Stepped s (.advance tid) (s.finish tid c false s.keyMeta)
  | loaded {tid : Nat} {c : Claim} {last : Int} : s.pc tid = .loadWarned c last →
    s.keyMeta.dropWarned < c.gen →
    Stepped s (.advance tid) (s.move tid (.swapWarned c last s.keyMeta.dropWarned) s.keyMeta)
  | claimed {tid : Nat} {c : Claim} {last : Int} :
    s.pc tid = .swapWarned c last s.keyMeta.dropWarned →
    Stepped s (.advance tid)
      (s.move tid (.swapLast c last) { s.keyMeta with dropWarned := c.gen })
  | again {tid : Nat} {c : Claim} {last : Int} {warned : Nat} :
    s.pc tid = .swapWarned c last warned →
    Stepped s (.advance tid) (s.move tid (.loadWarned c last) s.keyMeta)
  | won {tid : Nat} {c : Claim} : s.pc tid = .swapLast c s.keyMeta.lastDropWarn →
    Stepped s (.advance tid) (s.finish tid c true { s.keyMeta with lastDropWarn := c.now })
  | lost {tid : Nat} {c : Claim} {last : Int} : s.pc tid = .swapLast c last →
    s.keyMeta.lastDropWarn ≠ last →
    Stepped s (.advance tid) (s.finish tid c false s.keyMeta)

section

variable {s t : ClaimRun}

lemma stepped_of_step {l : ClaimLabel} (h : s.step l = some t) : Stepped s l t := by
  cases l with
  | begin tid c =>
    simp only [ClaimRun.step] at h
    split_ifs at h with hbegin
    cases h
    exact .begin hbegin.1 hbegin.2.2.1
  | advance tid =>
    simp only [ClaimRun.step, ClaimRun.advance] at h
    (repeat' split at h) <;> cases h
    next hpc _ => exact .floor hpc
    next hpc hpass =>
      refine .passed hpc ?_
      by_cases hzero : s.keyMeta.lastDropWarn = 0
      · exact .inl hzero
      · exact .inr (not_lt.mp fun hlt => hpass ⟨hzero, hlt⟩)
    next hpc hstale => exact .stale hpc hstale
    next hpc hlt => exact .loaded hpc (not_le.mp hlt)
    next hpc heq => exact .claimed (heq ▸ hpc)
    next hpc _ => exact .again hpc
    next hpc heq => exact .won (heq ▸ hpc)
    next hpc hne => exact .lost hpc hne

end

/-! ## Once per generation, a floor apart -/

/-- There was no Warn yet, or the floor has passed since. -/
def Claim.Passed (c : Claim) (last : Int) : Prop := last = 0 ∨ dropWarnFloor ≤ c.now - last

/-- The call has swapped `dropWarned` and is about to swap `lastDropWarn`. -/
def ClaimPc.claims : ClaimPc → Bool
  | .swapLast _ _ => true
  | _ => false

/-- What a claim has read is still true enough for its swap. -/
def ClaimPc.Sound (m : KeyMeta) (won : List ClaimReturn) : ClaimPc → Prop
  | .idle => True
  | .loadLast c => 0 < c.now
  | .loadWarned c last => 0 < c.now ∧ c.Passed last
  | .swapWarned c last warned => 0 < c.now ∧ c.Passed last ∧ warned < c.gen
  | .swapLast c last =>
    0 < c.now ∧ c.Passed last ∧ c.gen ≤ m.dropWarned ∧ ∀ r ∈ won, r.gen ≠ c.gen

/-- At most one claim per generation is past its first swap, and Warns are a floor apart. -/
structure ClaimInv (s : ClaimRun) : Prop where
  sound : ∀ tid, (s.pc tid).Sound s.keyMeta s.won
  claims : ∀ {tid tid' c c' last last'}, s.pc tid = .swapLast c last →
    s.pc tid' = .swapLast c' last' → c.gen = c'.gen → tid = tid'
  warned : ∀ r ∈ s.won, r.gen ≤ s.keyMeta.dropWarned ∧ 0 < r.now ∧ r.now ≤ s.keyMeta.lastDropWarn
  once : s.won.Pairwise fun later earlier => later.gen ≠ earlier.gen
  apart : s.won.Pairwise fun later earlier => dropWarnFloor ≤ later.now - earlier.now

lemma ClaimPc.Sound.mono {m m' : KeyMeta} {won won' : List ClaimReturn} {p : ClaimPc}
    (h : p.Sound m won) (hm : m.dropWarned ≤ m'.dropWarned)
    (hwon : ∀ c last, p = .swapLast c last → ∀ r ∈ won', r.gen ≠ c.gen) : p.Sound m' won' := by
  cases p with
  | idle => exact h
  | loadLast c => exact h
  | loadWarned c last => exact h
  | swapWarned c last warned => exact h
  | swapLast c last => exact ⟨h.1, h.2.1, h.2.2.1.trans hm, hwon c last rfl⟩

section

variable {s t : ClaimRun} {tid : Nat} {c : Claim}

lemma ClaimInv.quiet (h : ClaimInv s) {pc : ClaimPc} (hpc : t.pc = Function.update s.pc tid pc)
    (hm : t.keyMeta = s.keyMeta) (hwon : t.won = s.won) (hsound : pc.Sound s.keyMeta s.won)
    (hclaims : pc.claims = false) : ClaimInv t where
  sound tid' := by
    rw [hpc, hm, hwon, Function.update_apply]
    split
    · exact hsound
    · exact h.sound tid'
  claims {tid₁ tid₂ _ _ _ _} h₁ h₂ hgen := by
    rw [hpc, Function.update_apply] at h₁ h₂
    split at h₁
    · simp [h₁, ClaimPc.claims] at hclaims
    split at h₂
    · simp [h₂, ClaimPc.claims] at hclaims
    exact h.claims h₁ h₂ hgen
  warned := by
    rw [hm, hwon]
    exact h.warned
  once := by
    rw [hwon]
    exact h.once
  apart := by
    rw [hwon]
    exact h.apart

lemma claimInv_claimed (h : ClaimInv s) {last : Int}
    (hpc : s.pc tid = .swapWarned c last s.keyMeta.dropWarned) :
    ClaimInv (s.move tid (.swapLast c last) { s.keyMeta with dropWarned := c.gen }) := by
  have hsound : 0 < c.now ∧ c.Passed last ∧ s.keyMeta.dropWarned < c.gen := by
    have hs := h.sound tid
    rwa [hpc] at hs
  obtain ⟨hnow, hpassed, hlt⟩ := hsound
  have hold : ∀ {tid' c' last'}, s.pc tid' = .swapLast c' last' → c'.gen < c.gen := by
    intro tid' c' last' hpc'
    have hs := h.sound tid'
    rw [hpc'] at hs
    exact lt_of_le_of_lt hs.2.2.1 hlt
  refine ⟨fun tid' => ?_, fun {tid₁ tid₂ c₁ c₂ _ _} h₁ h₂ hgen => ?_, fun r hr => ?_, h.once,
    h.apart⟩
  · change ClaimPc.Sound _ s.won (Function.update s.pc tid _ tid')
    rw [Function.update_apply]
    split
    · exact ⟨hnow, hpassed, le_rfl, fun r hr => ((h.warned r hr).1.trans_lt hlt).ne⟩
    refine (h.sound tid').mono hlt.le fun c' last' hpc' r hr => ?_
    have hs := h.sound tid'
    rw [hpc'] at hs
    exact hs.2.2.2 r hr
  · simp only [ClaimRun.move, Function.update_apply] at h₁ h₂
    split at h₁
    · rename_i heq₁
      split at h₂
      · rename_i heq₂
        exact heq₁.trans heq₂.symm
      · cases h₁
        exact absurd hgen (hold h₂).ne'
    · split at h₂
      · cases h₂
        exact absurd hgen (hold h₁).ne
      · exact h.claims h₁ h₂ hgen
  · obtain ⟨hgen, htime⟩ := h.warned r hr
    exact ⟨hgen.trans hlt.le, htime⟩

lemma claimInv_won (h : ClaimInv s) (hpc : s.pc tid = .swapLast c s.keyMeta.lastDropWarn) :
    ClaimInv (s.finish tid c true { s.keyMeta with lastDropWarn := c.now }) := by
  have hsound : 0 < c.now ∧ c.Passed s.keyMeta.lastDropWarn ∧ c.gen ≤ s.keyMeta.dropWarned ∧
      ∀ r ∈ s.won, r.gen ≠ c.gen := by
    have hs := h.sound tid
    rwa [hpc] at hs
  obtain ⟨hnow, hpassed, hle, hfresh⟩ := hsound
  have hfloor : ∀ r ∈ s.won, dropWarnFloor ≤ c.now - r.now := by
    intro r hr
    obtain ⟨-, hpos, hlast⟩ := h.warned r hr
    rcases hpassed with hzero | hfloor
    · omega
    · omega
  refine ⟨fun tid' => ?_, fun {tid₁ tid₂ c₁ c₂ _ _} h₁ h₂ hgen => ?_, fun r hr => ?_, ?_, ?_⟩
  · change ClaimPc.Sound _ (_ :: s.won) (Function.update s.pc tid _ tid')
    rw [Function.update_apply]
    split
    · trivial
    rename_i hne
    refine (h.sound tid').mono le_rfl fun c' last' hpc' r hr => ?_
    rcases List.mem_cons.mp hr with rfl | hr
    · exact fun hgen => hne (h.claims hpc' hpc hgen.symm)
    · have hs := h.sound tid'
      rw [hpc'] at hs
      exact hs.2.2.2 r hr
  · simp only [ClaimRun.finish, ClaimRun.move, Function.update_apply] at h₁ h₂
    split at h₁
    · cases h₁
    split at h₂
    · cases h₂
    exact h.claims h₁ h₂ hgen
  · rcases List.mem_cons.mp hr with rfl | hr
    · exact ⟨hle, hnow, le_rfl⟩
    obtain ⟨hgen, hpos, -⟩ := h.warned r hr
    have hf := hfloor r hr
    refine ⟨hgen, hpos, ?_⟩
    change r.now ≤ c.now
    unfold dropWarnFloor at hf
    omega
  · exact List.pairwise_cons.mpr ⟨fun r hr hgen => hfresh r hr hgen.symm, h.once⟩
  · exact List.pairwise_cons.mpr ⟨hfloor, h.apart⟩

lemma claimInv_stepped {l : ClaimLabel} (h : ClaimInv s) (hstep : Stepped s l t) : ClaimInv t := by
  have hsound : ∀ {tid p}, s.pc tid = p → p.Sound s.keyMeta s.won :=
    fun {tid p} hpc => hpc ▸ h.sound tid
  cases hstep with
  | begin _ hnow => exact h.quiet rfl rfl rfl hnow rfl
  | floor => exact h.quiet rfl rfl rfl trivial rfl
  | passed hpc hpassed => exact h.quiet rfl rfl rfl ⟨hsound hpc, hpassed⟩ rfl
  | stale => exact h.quiet rfl rfl rfl trivial rfl
  | loaded hpc hlt =>
    obtain ⟨hnow, hpassed⟩ := hsound hpc
    exact h.quiet rfl rfl rfl ⟨hnow, hpassed, hlt⟩ rfl
  | claimed hpc => exact claimInv_claimed h hpc
  | again hpc =>
    obtain ⟨hnow, hpassed, -⟩ := hsound hpc
    exact h.quiet rfl rfl rfl ⟨hnow, hpassed⟩ rfl
  | won hpc => exact claimInv_won h hpc
  | lost => exact h.quiet rfl rfl rfl trivial rfl

/-- Claims exclude each other in every schedule. -/
lemma claimInv_of_reach {ok : ClaimRun → ClaimLabel → Prop} (h : claimMachine.Reach ok s) :
    ClaimInv s := by
  refine Machine.Reach.invariant (I := ClaimInv) ?_ ?_ h
  · rintro s ⟨-, hidle, hret⟩
    have hwon : s.won = [] := by rw [ClaimRun.won, hret]; rfl
    refine ⟨fun tid => ?_, fun {tid _ _ _ _ _} h₁ => ?_, ?_, ?_, ?_⟩
    · rw [hidle tid]
      trivial
    · rw [hidle tid] at h₁
      cases h₁
    all_goals simp [hwon]
  · intro s l t hs _ hstep
    exact claimInv_stepped hs (stepped_of_step hstep)

end

/-! ## Calls for one generation at a time -/

def ClaimPc.loaded : ClaimPc → Option (Claim × Int)
  | .loadWarned c last => some (c, last)
  | .swapWarned c last _ => some (c, last)
  | _ => none

/-- While the calls under way are all for one generation, the time a call has loaded is
current as long as its generation can be claimed, and a claimed generation warns. -/
structure OneGeneration (s : ClaimRun) : Prop where
  same : ∀ {tid tid' c c'}, (s.pc tid).claim = some c → (s.pc tid').claim = some c' → c.gen = c'.gen
  current : ∀ {tid c last}, (s.pc tid).loaded = some (c, last) →
    s.keyMeta.dropWarned < c.gen → last = s.keyMeta.lastDropWarn
  winning : ∀ {tid c last}, s.pc tid = .swapLast c last →
    last = s.keyMeta.lastDropWarn ∧ c.gen = s.keyMeta.dropWarned
  covered : s.keyMeta.dropWarned = 0 ∨ (∃ tid, (s.pc tid).claims = true) ∨
    ∃ r ∈ s.won, r.gen = s.keyMeta.dropWarned

section

variable {s t : ClaimRun} {tid : Nat} {c : Claim}

lemma ClaimPc.claim_of_loaded {p : ClaimPc} {last : Int} (h : p.loaded = some (c, last)) :
    p.claim = some c := by
  cases p with
  | idle => cases h
  | loadLast c => cases h
  | loadWarned c last =>
    cases h
    rfl
  | swapWarned c last warned =>
    cases h
    rfl
  | swapLast c last => cases h

lemma OneGeneration.same_update (h : OneGeneration s) {pc : ClaimPc}
    (hfits : ∀ c tid' c', pc.claim = some c → (s.pc tid').claim = some c' → c.gen = c'.gen)
    {tid₁ tid₂ : Nat} {c₁ c₂ : Claim} (h₁ : (Function.update s.pc tid pc tid₁).claim = some c₁)
    (h₂ : (Function.update s.pc tid pc tid₂).claim = some c₂) : c₁.gen = c₂.gen := by
  rw [Function.update_apply] at h₁ h₂
  split at h₁
  · split at h₂
    · rw [Option.some.inj (h₁.symm.trans h₂)]
    · exact hfits c₁ tid₂ c₂ h₁ h₂
  · split at h₂
    · exact (hfits c₂ tid₁ c₁ h₂ h₁).symm
    · exact h.same h₁ h₂

lemma OneGeneration.quiet (h : OneGeneration s) {pc : ClaimPc}
    (hpc : t.pc = Function.update s.pc tid pc) (hm : t.keyMeta = s.keyMeta)
    (hwon : t.won = s.won) (hold : (s.pc tid).claims = false) (hclaims : pc.claims = false)
    (hfits : ∀ c tid' c', pc.claim = some c → (s.pc tid').claim = some c' → c.gen = c'.gen)
    (hcurrent : ∀ c last, pc.loaded = some (c, last) → s.keyMeta.dropWarned < c.gen →
      last = s.keyMeta.lastDropWarn) : OneGeneration t where
  same h₁ h₂ := by
    rw [hpc] at h₁ h₂
    exact h.same_update hfits h₁ h₂
  current hload hlt := by
    rw [hm] at hlt ⊢
    rw [hpc, Function.update_apply] at hload
    split at hload
    · exact hcurrent _ _ hload hlt
    · exact h.current hload hlt
  winning hswap := by
    rw [hm]
    rw [hpc, Function.update_apply] at hswap
    split at hswap
    · simp [hswap, ClaimPc.claims] at hclaims
    · exact h.winning hswap
  covered := by
    rw [hm, hwon]
    refine h.covered.imp_right (Or.imp_left ?_)
    rintro ⟨tid', hswap⟩
    have hne : tid' ≠ tid := by
      rintro rfl
      rw [hold] at hswap
      cases hswap
    exact ⟨tid', by rw [hpc, Function.update_of_ne hne]; exact hswap⟩

lemma oneGeneration_claimed (hinv : ClaimInv s) (h : OneGeneration s) {last : Int}
    (hpc : s.pc tid = .swapWarned c last s.keyMeta.dropWarned) :
    OneGeneration (s.move tid (.swapLast c last) { s.keyMeta with dropWarned := c.gen }) := by
  have hlt : s.keyMeta.dropWarned < c.gen := by
    have hs := hinv.sound tid
    rw [hpc] at hs
    exact hs.2.2
  have hcall : (s.pc tid).claim = some c := by rw [hpc]; rfl
  have hload : (s.pc tid).loaded = some (c, last) := by rw [hpc]; rfl
  refine ⟨fun h₁ h₂ => h.same_update ?_ h₁ h₂, fun {tid' c' last'} hload' hlt' => ?_,
    fun {tid' c' last'} hswap => ?_, .inr (.inl ⟨tid, ?_⟩)⟩
  · intro c' tid' c'' hc' hc''
    cases hc'
    exact h.same hcall hc''
  · simp only [ClaimRun.move, Function.update_apply] at hload' hlt'
    split at hload'
    · cases hload'
    · have hgen := h.same hcall (ClaimPc.claim_of_loaded hload')
      exact absurd hlt' (hgen ▸ lt_irrefl _)
  · simp only [ClaimRun.move, Function.update_apply] at hswap
    split at hswap
    · cases hswap
      exact ⟨h.current hload hlt, rfl⟩
    have hcall' : (s.pc tid').claim = some c' := by rw [hswap]; rfl
    have hgen := h.same hcall hcall'
    have hwin := (h.winning hswap).2
    omega
  · simp [ClaimRun.move, ClaimPc.claims]

lemma oneGeneration_won (hinv : ClaimInv s) (h : OneGeneration s)
    (hpc : s.pc tid = .swapLast c s.keyMeta.lastDropWarn) :
    OneGeneration (s.finish tid c true { s.keyMeta with lastDropWarn := c.now }) := by
  have hcall : (s.pc tid).claim = some c := by rw [hpc]; rfl
  have hwarned := (h.winning hpc).2
  refine ⟨fun h₁ h₂ => h.same_update ?_ h₁ h₂, fun {tid' c' last'} hload hlt => ?_,
    fun {tid' c' last'} hswap => ?_, .inr (.inr ⟨⟨c, true⟩, .head _, hwarned⟩)⟩
  · intro c' tid' c'' hc'
    cases hc'
  · simp only [ClaimRun.finish, ClaimRun.move, Function.update_apply] at hload hlt
    split at hload
    · cases hload
    · have hgen := h.same hcall (ClaimPc.claim_of_loaded hload)
      omega
  · simp only [ClaimRun.finish, ClaimRun.move, Function.update_apply] at hswap
    split_ifs at hswap with hne
    have hcall' : (s.pc tid').claim = some c' := by rw [hswap]; rfl
    have hgen := h.same hcall hcall'
    exact absurd (hinv.claims hswap hpc hgen.symm) hne

lemma oneGeneration_stepped {l : ClaimLabel} (hinv : ClaimInv s) (h : OneGeneration s)
    (hok : SameGeneration s l) (hstep : Stepped s l t) : OneGeneration t := by
  -- a call that goes on fits the others as it did before
  have hgoes : ∀ {tid c p}, s.pc tid = p → p.claim = some c → ∀ {p' : ClaimPc},
      p'.claim = some c → ∀ c₁ tid' c', p'.claim = some c₁ → (s.pc tid').claim = some c' →
      c₁.gen = c'.gen := by
    intro tid c p hpc hp p' hp' c₁ tid' c' hc₁ hc'
    rw [hp'] at hc₁
    cases hc₁
    exact h.same (hpc ▸ hp) hc'
  have hreturns : ∀ c₁ tid' c', ClaimPc.claim .idle = some c₁ → (s.pc tid').claim = some c' →
      c₁.gen = c'.gen := by
    intro c₁ tid' c' hc₁
    cases hc₁
  have hnone : ∀ {p : ClaimPc}, p.loaded = none → ∀ c last, p.loaded = some (c, last) →
      s.keyMeta.dropWarned < c.gen → last = s.keyMeta.lastDropWarn := by
    intro p hp c last hload
    rw [hp] at hload
    cases hload
  cases hstep with
  | begin hpc _ =>
    refine h.quiet rfl rfl rfl (by rw [hpc]; rfl) rfl ?_ (hnone rfl)
    intro c₁ tid' c' hc₁ hc'
    cases hc₁
    exact (hok tid' c' hc').symm
  | floor hpc => exact h.quiet rfl rfl rfl (by rw [hpc]; rfl) rfl hreturns (hnone rfl)
  | passed hpc _ =>
    refine h.quiet rfl rfl rfl (by rw [hpc]; rfl) rfl (hgoes hpc rfl rfl) ?_
    rintro c' last hload -
    cases hload
    rfl
  | stale hpc _ => exact h.quiet rfl rfl rfl (by rw [hpc]; rfl) rfl hreturns (hnone rfl)
  | loaded hpc _ =>
    refine h.quiet rfl rfl rfl (by rw [hpc]; rfl) rfl (hgoes hpc rfl rfl) ?_
    intro c' last' hload hlt
    cases hload
    exact h.current (by rw [hpc]; rfl) hlt
  | claimed hpc => exact oneGeneration_claimed hinv h hpc
  | again hpc =>
    refine h.quiet rfl rfl rfl (by rw [hpc]; rfl) rfl (hgoes hpc rfl rfl) ?_
    intro c' last' hload hlt
    cases hload
    exact h.current (by rw [hpc]; rfl) hlt
  | won hpc => exact oneGeneration_won hinv h hpc
  | lost hpc hne => exact absurd (h.winning hpc).1.symm hne

lemma oneGeneration_of_reach (h : claimMachine.Reach SameGeneration s) : OneGeneration s := by
  induction h with
  | init hs =>
    obtain ⟨hzero, hidle, -⟩ := hs
    refine ⟨fun {tid _ _ _} h₁ => ?_, fun {tid _ _} h₁ => ?_, fun {tid _ _} h₁ => ?_, .inl hzero⟩
    all_goals
      rw [hidle tid] at h₁
      cases h₁
  | step l hreach hok hstep ih =>
    exact oneGeneration_stepped (claimInv_of_reach hreach) ih hok (stepped_of_step hstep)

/-- No generation warns twice and Warns of a key are a floor apart, in every schedule; if calls for
different generations do not overlap, the last generation claimed has warned. -/
theorem dropWarn_claims (s : ClaimRun) :
    (claimMachine.Reach Machine.always s → (s.won.map (·.gen)).Nodup ∧
        s.won.Pairwise fun later earlier => dropWarnFloor ≤ later.now - earlier.now) ∧
    (claimMachine.Reach SameGeneration s → s.Quiescent → s.keyMeta.dropWarned ≠ 0 →
      ∃ r ∈ s.won, r.gen = s.keyMeta.dropWarned) := by
  refine ⟨fun h => ?_, fun h hidle hwarned => ?_⟩
  · have hinv := claimInv_of_reach h
    exact ⟨List.pairwise_map.mpr hinv.once, hinv.apart⟩
  rcases (oneGeneration_of_reach h).covered with hzero | ⟨tid, hclaims⟩ | hwon
  · exact absurd hzero hwarned
  · rw [hidle tid] at hclaims
    cases hclaims
  · exact hwon

end

/-! ## Two calls that overlap -/

def freshMeta : KeyMeta := ⟨⟨"default", "web"⟩, 2, .trafficCluster, 0, 0⟩

def freshClaims : ClaimRun := ⟨freshMeta, 0, fun _ => .idle, []⟩

/-- A drop under the first generation and one under the second both pass the floor check and
both swap `dropWarned`; the first then takes `lastDropWarn`. -/
def overlappingClaims : List ClaimLabel :=
  [.begin 0 ⟨1, 1000⟩, .advance 0, .begin 1 ⟨2, 1000⟩, .advance 1, .advance 0, .advance 0,
    .advance 1, .advance 1, .advance 0, .advance 1]

/-- Calls for two generations overlap, and the newer one is claimed without a Warn. -/
theorem dropWarn_consumed :
    ∃ s, claimMachine.Reach Machine.always s ∧ s.Quiescent ∧ s.keyMeta.dropWarned = 2 ∧
      s.won = [⟨⟨1, 1000⟩, true⟩] := by
  obtain ⟨s, hs, hidle, hwarned, hwon⟩ :
      ∃ s, claimMachine.run freshClaims overlappingClaims = some s ∧ s.Quiescent ∧
        s.keyMeta.dropWarned = 2 ∧ s.won = [⟨⟨1, 1000⟩, true⟩] := by
    refine ⟨_, rfl, fun tid => ?_, rfl, rfl⟩
    rcases tid with _ | _ | tid <;> rfl
  have hreach : claimMachine.Reach Machine.always s :=
    .of_run overlappingClaims ⟨rfl, fun _ => rfl, rfl⟩ (Machine.meets_always _ _) hs
  exact ⟨s, hreach, hidle, hwarned, hwon⟩

def oneCall (c : Claim) (steps : Nat) : List ClaimLabel :=
  .begin 0 c :: List.replicate steps (.advance 0)

lemma meets_oneCall {s : ClaimRun} (h : s.Quiescent) (c : Claim) (steps : Nat) :
    claimMachine.Meets SameGeneration s (oneCall c steps) := by
  have hadvances : ∀ s, claimMachine.Meets SameGeneration s
      (List.replicate steps (.advance 0)) := by
    induction steps with
    | zero => exact fun _ => trivial
    | succ n ih => exact fun _ => ⟨trivial, fun t _ => ih t⟩
  refine ⟨fun tid c' hc => ?_, fun t _ => hadvances t⟩
  rw [h tid] at hc
  cases hc

theorem dropWarn_claims_inTurn :
    ∃ s s', claimMachine.run freshClaims (oneCall ⟨1, 1000⟩ 4 ++ oneCall ⟨2, 2000⟩ 1) = some s ∧
      claimMachine.run s (oneCall ⟨2, 10000001000⟩ 4) = some s' ∧
      s.keyMeta.dropWarned = 1 ∧ s'.keyMeta.dropWarned = 2 ∧ (s'.won.map (·.gen)).Nodup ∧
      ∃ r ∈ s'.won, r.gen = s'.keyMeta.dropWarned := by
  have hfresh : claimMachine.Reach SameGeneration freshClaims :=
    .init ⟨rfl, fun _ => rfl, rfl⟩
  have hidle₀ : freshClaims.Quiescent := fun _ => rfl
  obtain ⟨s₁, hs₁, hidle₁, s₂, hs₂, hs, hidle₂, hwarned₂, s₃, hs₃, hidle₃, hwarned₃⟩ :
      ∃ s₁, claimMachine.run freshClaims (oneCall ⟨1, 1000⟩ 4) = some s₁ ∧ s₁.Quiescent ∧
      ∃ s₂, claimMachine.run s₁ (oneCall ⟨2, 2000⟩ 1) = some s₂ ∧
        claimMachine.run freshClaims (oneCall ⟨1, 1000⟩ 4 ++ oneCall ⟨2, 2000⟩ 1) = some s₂ ∧
        s₂.Quiescent ∧ s₂.keyMeta.dropWarned = 1 ∧
      ∃ s₃, claimMachine.run s₂ (oneCall ⟨2, 10000001000⟩ 4) = some s₃ ∧ s₃.Quiescent ∧
        s₃.keyMeta.dropWarned = 2 := by
    refine ⟨_, rfl, fun tid => ?_, _, rfl, rfl, fun tid => ?_, rfl, _, rfl, fun tid => ?_, rfl⟩ <;>
      rcases tid with _ | tid <;> rfl
  have hreach : claimMachine.Reach SameGeneration s₃ :=
    ((hfresh.run_of _ (meets_oneCall hidle₀ _ _) hs₁).run_of _ (meets_oneCall hidle₁ _ _)
      hs₂).run_of _ (meets_oneCall hidle₂ _ _) hs₃
  have hzero : s₃.keyMeta.dropWarned ≠ 0 := by
    rw [hwarned₃]
    decide
  have hlaw := dropWarn_claims s₃
  exact ⟨s₂, s₃, hs, hs₃, hwarned₂, hwarned₃, (hlaw.1 (hreach.mono fun _ _ _ => trivial)).1,
    hlaw.2 hreach hidle₃ hzero⟩

end DarwinNet.Proxy
