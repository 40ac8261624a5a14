import Mathlib.Data.List.Count
import Mathlib.Data.List.Nodup

/-!
A lookup that puts one question after the other to a list of servers, which need not answer the
same twice: `ask t` is the exchange number `t` of the lookup. With one server the question is
repeated. With several, each pass asks the servers in order until one answers, and one that
cannot be reached is marked dead and not asked again; the marks outlive the question. `question`
and `walk` keep what was asked.

A candidate is skipped, or left to others, or closed, or open. A closed one that no server
answers ends the search among the closed ones, an open one ends the walk. So an answer to a
closed candidate comes before any failure of one (`Walks.found_last`), and a walk that ends
without a failure has missed every candidate (`Walks.missed`). Of several servers each is lost
at most once in the whole walk and asked at most once an attempt (`Walks.lost`, `Walks.asked`).
-/

namespace DarwinNet.Lib.Inquiry

variable {S A C : Type}

/-- A server cannot be reached, or its answer is of no use. -/
inductive Failure
  | unreachable
  | unusable
  deriving DecidableEq

/-- What a question leaves: the marks of the servers, the exchanges, the answer. -/
structure Outcome (S A : Type) where
  marks : List (S × Bool)
  asks : List (S × Except Failure A)
  answer : Option A

def retry (ask : Nat → S → Except Failure A) (s : S) :
    Nat → Nat → List (S × Except Failure A) × Option A
  | 0, _ => ([], none)
  | n + 1, t =>
    match ask t s with
    | .ok a => ([(s, .ok a)], some a)
    | .error e =>
      let r := retry ask s n (t + 1)
      ((s, .error e) :: r.1, r.2)

def pass (ask : Nat → S → Except Failure A) : Nat → List (S × Bool) → Outcome S A
  | _, [] => ⟨[], [], none⟩
  | t, (s, dead) :: ss =>
    if dead then
      let r := pass ask t ss
      ⟨(s, true) :: r.marks, r.asks, r.answer⟩
    else match ask t s with
      | .ok a => ⟨(s, false) :: ss, [(s, .ok a)], some a⟩
      | .error e =>
        let r := pass ask (t + 1) ss
        ⟨(s, decide (e = .unreachable)) :: r.marks, (s, .error e) :: r.asks, r.answer⟩

/-- At most `n` passes, until an answer or until no server is left to ask. -/
def passes (ask : Nat → S → Except Failure A) : Nat → Nat → List (S × Bool) → Outcome S A
  | 0, _, ss => ⟨ss, [], none⟩
  | n + 1, t, ss =>
    let p := pass ask t ss
    if p.answer.isSome || p.asks.isEmpty then p
    else
      let r := passes ask n (t + p.asks.length) p.marks
      ⟨r.marks, p.asks ++ r.asks, r.answer⟩

/-- One question. An only server is asked again whatever came of it. -/
def question (ask : Nat → S → Except Failure A) (attempts t : Nat) (ss : List (S × Bool)) :
    Outcome S A :=
  match ss with
  | [s] =>
    let r := retry ask s.1 attempts t
    ⟨[s], r.1, r.2⟩
  | ss => passes ask attempts t ss

/-- What the last exchange of a question gave. -/
def answerOf (asks : List (S × Except Failure A)) : Option A :=
  asks.getLast?.bind fun e => e.2.toOption

structure Visit (C S A : Type) where
  cand : C
  asks : List (S × Except Failure A)
  answer : Option A

/-- The exchanges of a walk in order, each with its candidate and server. -/
def exchanges (visits : List (Visit C S A)) : List ((C × S) × Except Failure A) :=
  visits.flatMap fun v => v.asks.map fun e => ((v.cand, e.1), e.2)

/-- How a walk ends: an answer, a candidate left to others, an open candidate without an
answer, or the end of the list, with whether a closed candidate has failed. -/
inductive Stop (A : Type)
  | found (a : A)
  | deferred
  | opened
  | through (temp : Bool)

structure Walked (C S A : Type) where
  visits : List (Visit C S A)
  stop : Stop A

def Walked.cons (v : Visit C S A) (w : Walked C S A) : Walked C S A := ⟨v :: w.visits, w.stop⟩

/-- Which candidates a walk skips, leaves to others and treats as closed, and which answers it
looks for. -/
structure Policy (C A : Type) where
  skip : C → Bool
  defer : C → Bool
  closed : C → Bool
  hit : A → Bool

/-- The walk over the candidates; `temp` is whether a closed one has failed. -/
def walk (p : Policy C A) (ask : C → Nat → S → Except Failure A) (attempts : Nat) :
    Bool → Nat → List (S × Bool) → List C → Walked C S A
  | temp, _, _, [] => ⟨[], .through temp⟩
  | temp, t, ss, c :: cs =>
    if p.skip c || temp && p.closed c then walk p ask attempts temp t ss cs
    else if p.defer c then ⟨[], .deferred⟩
    else
      let q := question (ask c) attempts t ss
      let rest := fun temp => walk p ask attempts temp (t + q.asks.length) q.marks cs
      match q.answer with
      | some a =>
        if p.hit a then ⟨[⟨c, q.asks, some a⟩], .found a⟩
        else (rest temp).cons ⟨c, q.asks, some a⟩
      | none =>
        if p.closed c then (rest true).cons ⟨c, q.asks, none⟩ else ⟨[⟨c, q.asks, none⟩], .opened⟩

/-! ## The exchanges of a question -/

section Numbered

variable {K : Type} {ask : Nat → K → Except Failure A} {known : K → Prop} {t : Nat}
  {l l' : List (K × Except Failure A)}

/-- Exchanges in order: each is with one that is known, and is what `ask` gives at its number. -/
def Numbered (ask : Nat → K → Except Failure A) (known : K → Prop) (t : Nat)
    (l : List (K × Except Failure A)) : Prop :=
  ∀ k e, l[k]? = some e → known e.1 ∧ e.2 = ask (t + k) e.1

lemma Numbered.nil : Numbered ask known t [] := fun _ _ h => by cases h

lemma Numbered.cons {s : K} (hs : known s) (h : Numbered ask known (t + 1) l) :
    Numbered ask known t ((s, ask t s) :: l) := by
  rintro (- | k) e he
  · cases he
    exact ⟨hs, rfl⟩
  · obtain ⟨hknown, hask⟩ := h k e he
    exact ⟨hknown, hask.trans (by rw [Nat.add_assoc, Nat.add_comm 1])⟩

lemma Numbered.append (h : Numbered ask known t l) (h' : Numbered ask known (t + l.length) l') :
    Numbered ask known t (l ++ l') := by
  intro k e he
  rcases Nat.lt_or_ge k l.length with hk | hk
  · exact h k e (by rwa [List.getElem?_append_left hk] at he)
  · rw [List.getElem?_append_right hk] at he
    obtain ⟨hknown, hask⟩ := h' _ e he
    exact ⟨hknown, hask.trans (by rw [show t + l.length + (k - l.length) = t + k by omega])⟩

lemma answerOf_error (s : S) (e : Failure) (l : List (S × Except Failure A)) :
    answerOf ((s, .error e) :: l) = answerOf l := by
  cases l with
  | nil => rfl
  | cons x l => rfl

lemma answerOf_append {l l' : List (S × Except Failure A)} (h : answerOf l = none) :
    answerOf (l ++ l') = answerOf l' := by
  cases l' with
  | nil => rw [List.append_nil, h, answerOf, List.getLast?_nil, Option.bind_none]
  | cons x l' => rw [answerOf, List.getLast?_append_of_ne_nil _ (List.cons_ne_nil x l'), answerOf]

end Numbered

/-! ## One question -/

section Question

variable (ask : Nat → S → Except Failure A)

lemma pass_marks (t : Nat) (ss : List (S × Bool)) :
    (pass ask t ss).marks.map Prod.fst = ss.map Prod.fst := by
  induction ss generalizing t with
  | nil => rfl
  | cons s ss ih =>
    obtain ⟨s, dead⟩ := s
    unfold pass
    cases dead with
    | true => exact congrArg (s :: ·) (ih t)
    | false =>
      cases ask t s with
      | ok a => rfl
      | error e => exact congrArg (s :: ·) (ih (t + 1))

lemma passes_marks (n t : Nat) (ss : List (S × Bool)) :
    (passes ask n t ss).marks.map Prod.fst = ss.map Prod.fst := by
  induction n generalizing t ss with
  | zero => rfl
  | succ n ih =>
    simp only [passes]
    split
    · exact pass_marks ask t ss
    · exact (ih _ _).trans (pass_marks ask t ss)

lemma question_marks (n t : Nat) (ss : List (S × Bool)) :
    (question ask n t ss).marks.map Prod.fst = ss.map Prod.fst := by
  unfold question
  split
  · rfl
  · exact passes_marks ask n t ss

lemma length_retry_le (s : S) (n t : Nat) : (retry ask s n t).1.length ≤ n := by
  induction n generalizing t with
  | zero => exact Nat.le_refl 0
  | succ n ih =>
    unfold retry
    cases ask t s with
    | ok a => exact Nat.succ_le_succ (Nat.zero_le n)
    | error e => exact Nat.succ_le_succ (ih (t + 1))

lemma pass_sublist (t : Nat) (ss : List (S × Bool)) :
    ((pass ask t ss).asks.map Prod.fst).Sublist (ss.map Prod.fst) := by
  induction ss generalizing t with
  | nil => exact .slnil
  | cons s ss ih =>
    obtain ⟨s, dead⟩ := s
    unfold pass
    cases dead with
    | true => exact (ih t).cons s
    | false =>
      cases ask t s with
      | ok a => exact (List.nil_sublist _).cons_cons s
      | error e => exact (ih (t + 1)).cons_cons s

variable {ask} {n t : Nat} {a : A} {ss : List (S × Bool)}

lemma retry_numbered {l : List S} {s : S} (hs : s ∈ l) (n t : Nat) :
    Numbered ask (· ∈ l) t (retry ask s n t).1 := by
  induction n generalizing t with
  | zero => exact .nil
  | succ n ih =>
    unfold retry
    cases hask : ask t s with
    | ok a =>
      show Numbered ask _ t [(s, .ok a)]
      rw [← hask]
      exact .cons hs .nil
    | error e =>
      show Numbered ask _ t ((s, .error e) :: _)
      rw [← hask]
      exact .cons hs (ih (t + 1))

lemma pass_numbered {l : List S} (t : Nat) (hss : ∀ s ∈ ss.map Prod.fst, s ∈ l) :
    Numbered ask (· ∈ l) t (pass ask t ss).asks := by
  induction ss generalizing t with
  | nil => exact .nil
  | cons s ss ih =>
    obtain ⟨s, dead⟩ := s
    obtain ⟨hs, hrest⟩ := List.forall_mem_cons.mp hss
    unfold pass
    cases dead with
    | true => exact ih t hrest
    | false =>
      cases hask : ask t s with
      | ok a =>
        show Numbered ask _ t [(s, .ok a)]
        rw [← hask]
        exact .cons hs .nil
      | error e =>
        show Numbered ask _ t ((s, .error e) :: _)
        rw [← hask]
        exact .cons hs (ih (t + 1) hrest)

lemma passes_numbered {l : List S} (n t : Nat) (hss : ∀ s ∈ ss.map Prod.fst, s ∈ l) :
    Numbered ask (· ∈ l) t (passes ask n t ss).asks := by
  induction n generalizing t ss with
  | zero => exact .nil
  | succ n ih =>
    simp only [passes]
    split
    · exact pass_numbered t hss
    · exact (pass_numbered t hss).append (ih _ (by rwa [pass_marks]))

/-- Exchange `k` of a question begun at `t` is number `t + k`, with one of the servers. -/
lemma question_numbered (n t : Nat) (ss : List (S × Bool)) :
    Numbered ask (· ∈ ss.map Prod.fst) t (question ask n t ss).asks := by
  unfold question
  split
  · exact retry_numbered List.mem_cons_self n t
  · exact passes_numbered n t fun _ => id

lemma retry_answerOf (s : S) (n t : Nat) :
    answerOf (retry ask s n t).1 = (retry ask s n t).2 := by
  induction n generalizing t with
  | zero => rfl
  | succ n ih =>
    unfold retry
    cases ask t s with
    | ok a => rfl
    | error e => exact (answerOf_error _ _ _).trans (ih (t + 1))

lemma pass_answerOf (t : Nat) (ss : List (S × Bool)) :
    answerOf (pass ask t ss).asks = (pass ask t ss).answer := by
  induction ss generalizing t with
  | nil => rfl
  | cons s ss ih =>
    obtain ⟨s, dead⟩ := s
    unfold pass
    cases dead with
    | true => exact ih t
    | false =>
      cases ask t s with
      | ok a => rfl
      | error e => exact (answerOf_error _ _ _).trans (ih (t + 1))

lemma passes_answerOf (n t : Nat) (ss : List (S × Bool)) :
    answerOf (passes ask n t ss).asks = (passes ask n t ss).answer := by
  induction n generalizing t ss with
  | zero => rfl
  | succ n ih =>
    have hpass : answerOf (pass ask t ss).asks = (pass ask t ss).answer := pass_answerOf t ss
    simp only [passes]
    split
    · exact hpass
    · next hnone =>
      simp only [Bool.or_eq_true, not_or, Bool.not_eq_true, Option.isSome_eq_false_iff,
        Option.isNone_iff_eq_none] at hnone
      rw [answerOf_append (hpass.trans hnone.1)]
      exact ih _ _

lemma question_answerOf (n t : Nat) (ss : List (S × Bool)) :
    answerOf (question ask n t ss).asks = (question ask n t ss).answer := by
  unfold question
  split
  · exact retry_answerOf _ n t
  · exact passes_answerOf n t ss

variable [DecidableEq S]

def lostAt (s : S) : S × Except Failure A → Bool
  | (s', .error .unreachable) => decide (s' = s)
  | _ => false

variable (ask)

lemma pass_lost (s : S) (t : Nat) (ss : List (S × Bool)) :
    (pass ask t ss).asks.countP (lostAt s) + ss.count (s, true) =
      (pass ask t ss).marks.count (s, true) := by
  induction ss generalizing t with
  | nil => rfl
  | cons x ss ih =>
    obtain ⟨x, dead⟩ := x
    unfold pass
    cases dead with
    | true =>
      simp only [if_true, List.count_cons, ← ih t]
      omega
    | false =>
      cases ask t x with
      | ok a => simp [lostAt]
      | error e =>
        have hrest := ih (t + 1)
        cases e <;> simp [lostAt, List.count_cons, List.countP_cons] <;> omega

lemma passes_lost (s : S) (n t : Nat) (ss : List (S × Bool)) :
    (passes ask n t ss).asks.countP (lostAt s) + ss.count (s, true) =
      (passes ask n t ss).marks.count (s, true) := by
  induction n generalizing t ss with
  | zero => exact Nat.zero_add _
  | succ n ih =>
    have hpass := pass_lost ask s t ss
    simp only [passes]
    split
    · exact hpass
    · have hrest := ih (t + (pass ask t ss).asks.length) (pass ask t ss).marks
      simp only [List.countP_append]
      omega

lemma question_lost (s : S) (n t : Nat) (hlen : ss.length ≠ 1) :
    (question ask n t ss).asks.countP (lostAt s) + ss.count (s, true) =
      (question ask n t ss).marks.count (s, true) := by
  unfold question
  split
  · exact absurd rfl hlen
  · exact passes_lost ask s n t ss

lemma passes_asked (s : S) (n t : Nat) (hnd : (ss.map Prod.fst).Nodup) :
    ((passes ask n t ss).asks.map Prod.fst).count s ≤ n := by
  induction n generalizing t ss with
  | zero => exact Nat.le_refl 0
  | succ n ih =>
    have hnd' : ((pass ask t ss).marks.map Prod.fst).Nodup := by rwa [pass_marks]
    have hpass : ((pass ask t ss).asks.map Prod.fst).count s ≤ 1 :=
      List.nodup_iff_count_le_one.mp (hnd.sublist (pass_sublist ask t ss)) s
    simp only [passes]
    split
    · omega
    · have hrest := ih (t + (pass ask t ss).asks.length) hnd'
      rw [List.map_append, List.count_append]
      omega

lemma question_asked (s : S) (n t : Nat) (hnd : (ss.map Prod.fst).Nodup) :
    ((question ask n t ss).asks.map Prod.fst).count s ≤ n := by
  unfold question
  split
  · next x =>
    refine Nat.le_trans List.count_le_length ?_
    rw [List.length_map]
    exact length_retry_le ask x.1 n t
  · exact passes_asked ask s n t hnd

end Question

section Walk

variable {p : Policy C A} {ask : C → Nat → S → Except Failure A} {n : Nat} {temp : Bool} {t : Nat}
  {ss : List (S × Bool)} {cs : List C} {w : Walked C S A}

inductive Walks (p : Policy C A) (ask : C → Nat → S → Except Failure A) (n : Nat) :
    Bool → Nat → List (S × Bool) → List C → Walked C S A → Prop
  | nil (temp : Bool) (t : Nat) (ss : List (S × Bool)) :
      Walks p ask n temp t ss [] ⟨[], .through temp⟩
  | passed {temp t ss c cs w} : (p.skip c = true ∨ temp = true ∧ p.closed c = true) →
      Walks p ask n temp t ss cs w → Walks p ask n temp t ss (c :: cs) w
  | deferred {temp t ss c cs} : p.defer c = true → Walks p ask n temp t ss (c :: cs) ⟨[], .deferred⟩
  | found {temp t ss c cs a} : p.skip c = false → (p.closed c = true → temp = false) →
      p.hit a = true → (question (ask c) n t ss).answer = some a →
      Walks p ask n temp t ss (c :: cs) ⟨[⟨c, (question (ask c) n t ss).asks, some a⟩], .found a⟩
  | next {temp t ss c cs w} (temp' : Bool) : p.skip c = false →
      (temp' = temp ∧ (∃ a, (question (ask c) n t ss).answer = some a ∧ p.hit a = false) ∨
        temp' = true ∧ p.closed c = true ∧ (question (ask c) n t ss).answer = none) →
      Walks p ask n temp' (t + (question (ask c) n t ss).asks.length)
        (question (ask c) n t ss).marks cs w →
      Walks p ask n temp t ss (c :: cs)
        (w.cons ⟨c, (question (ask c) n t ss).asks, (question (ask c) n t ss).answer⟩)
  | opened {temp t ss c cs} : p.skip c = false → p.closed c = false →
      (question (ask c) n t ss).answer = none →
      Walks p ask n temp t ss (c :: cs) ⟨[⟨c, (question (ask c) n t ss).asks, none⟩], .opened⟩

lemma walks_walk (p : Policy C A) (ask : C → Nat → S → Except Failure A) (n : Nat) (temp : Bool)
    (t : Nat) (ss : List (S × Bool)) (cs : List C) :
    Walks p ask n temp t ss cs (walk p ask n temp t ss cs) := by
  induction cs generalizing temp t ss with
  | nil => exact .nil temp t ss
  | cons c cs ih =>
    rw [walk]
    split
    · next hpassed => exact .passed (by simpa using hpassed) (ih temp t ss)
    next hasked =>
    simp only [Bool.or_eq_true, Bool.and_eq_true, not_or, not_and, Bool.not_eq_true] at hasked
    obtain ⟨hskip, hclosed⟩ := hasked
    split
    · next hdefer => exact .deferred hdefer
    simp only
    split
    · next a hq =>
      split
      · next hhit =>
        refine .found hskip (fun hc => ?_) hhit hq
        cases temp with
        | false => rfl
        | true => cases (hclosed rfl).symm.trans hc
      · next hhit =>
        rw [← hq]
        exact .next temp hskip (.inl ⟨rfl, a, hq, by simpa using hhit⟩) (ih _ _ _)
    · next hq =>
      split
      · next hc =>
        rw [← hq]
        exact .next true hskip (.inr ⟨rfl, hc, hq⟩) (ih _ _ _)
      · next hc => exact .opened hskip (by simpa using hc) hq

namespace Walks

variable {v : Visit C S A}

lemma visit (h : Walks p ask n temp t ss cs w) (hv : v ∈ w.visits) :
    v.cand ∈ cs ∧ p.skip v.cand = false ∧ ∃ t' ss', ss'.map Prod.fst = ss.map Prod.fst ∧
      v.asks = (question (ask v.cand) n t' ss').asks ∧ v.answer = answerOf v.asks := by
  induction h with
  | nil => cases hv
  | passed _ _ ih =>
    obtain ⟨hmem, hvisit⟩ := ih hv
    exact ⟨List.mem_cons_of_mem _ hmem, hvisit⟩
  | deferred => cases hv
  | found hskip _ _ hq =>
    cases List.mem_singleton.mp hv
    exact ⟨List.mem_cons_self, hskip, _, _, rfl, rfl, hq.symm.trans (question_answerOf ..).symm⟩
  | next _ hskip _ _ ih =>
    rcases List.mem_cons.mp hv with rfl | hv
    · exact ⟨List.mem_cons_self, hskip, _, _, rfl, rfl, (question_answerOf ..).symm⟩
    · obtain ⟨hmem, hskip', t', ss', hmarks, hvisit⟩ := ih hv
      exact ⟨List.mem_cons_of_mem _ hmem, hskip', t', ss', hmarks.trans (question_marks ..), hvisit⟩
  | opened hskip _ hq =>
    cases List.mem_singleton.mp hv
    exact ⟨List.mem_cons_self, hskip, _, _, rfl, rfl, hq.symm.trans (question_answerOf ..).symm⟩

lemma exchanges_cons (v : Visit C S A) (visits : List (Visit C S A)) :
    exchanges (v :: visits) = (v.asks.map fun e => ((v.cand, e.1), e.2)) ++ exchanges visits := rfl

/-- The exchanges of a walk are those of `ask`, numbered from its start. -/
lemma numbered (h : Walks p ask n temp t ss cs w) :
    Numbered (fun k x => ask x.1 k x.2) (fun x => x.2 ∈ ss.map Prod.fst) t
      (exchanges w.visits) := by
  have hfirst : ∀ (c : C) (t : Nat) (ss : List (S × Bool)),
      Numbered (fun k x => ask x.1 k x.2) (fun x : C × S => x.2 ∈ ss.map Prod.fst) t
        ((question (ask c) n t ss).asks.map fun e => ((c, e.1), e.2)) := by
    intro c t ss k e he
    rw [List.getElem?_map] at he
    obtain ⟨e', he', rfl⟩ := Option.map_eq_some_iff.mp he
    exact question_numbered n t ss k e' he'
  induction h with
  | nil => exact .nil
  | passed _ _ ih => exact ih
  | deferred => exact .nil
  | @found _ t ss c =>
    rw [exchanges_cons]
    exact (hfirst c t ss).append .nil
  | @next _ t ss c _ _ _ _ _ _ ih =>
    rw [Walked.cons, exchanges_cons]
    refine (hfirst c t ss).append ?_
    rw [List.length_map]
    rwa [question_marks] at ih
  | @opened _ t ss c =>
    rw [exchanges_cons]
    exact (hfirst c t ss).append .nil

lemma answer (h : Walks p ask n temp t ss cs w) (hv : v ∈ w.visits) {a : A}
    (ha : v.answer = some a) : ∃ k s, (exchanges w.visits)[k]? = some ((v.cand, s), .ok a) ∧
      s ∈ ss.map Prod.fst ∧ ask v.cand (t + k) s = .ok a := by
  obtain ⟨-, -, -, -, -, -, hans⟩ := h.visit hv
  rw [ha, answerOf, eq_comm, Option.bind_eq_some_iff] at hans
  obtain ⟨⟨s, o⟩, hlast, ho⟩ := hans
  have hok : o = .ok a := by
    cases o with
    | error e => cases ho
    | ok b => exact congrArg _ (Option.some.inj ho)
  subst hok
  have hmem : ((v.cand, s), Except.ok a) ∈ exchanges w.visits :=
    List.mem_flatMap.mpr ⟨v, hv, List.mem_map.mpr ⟨_, List.mem_of_getLast? hlast, rfl⟩⟩
  obtain ⟨k, hk⟩ := List.mem_iff_getElem?.mp hmem
  obtain ⟨hknown, hask⟩ := h.numbered k _ hk
  exact ⟨k, s, hk, hknown, hask.symm⟩

/-- An answer is that of the last candidate asked for, and before an answer to a closed
candidate no closed one has failed. -/
lemma found_last (h : Walks p ask n temp t ss cs w) {a : A} (hstop : w.stop = .found a) :
    ∃ before v, w.visits = before ++ [v] ∧ v.answer = some a ∧ p.hit a = true ∧
      (p.closed v.cand = true →
        temp = false ∧ ∀ u ∈ before, p.closed u.cand = true → u.answer ≠ none) := by
  induction h with
  | nil => cases hstop
  | passed _ _ ih => exact ih hstop
  | deferred => cases hstop
  | found _ hfirst hhit _ =>
    cases hstop
    exact ⟨[], _, rfl, rfl, hhit, fun hc => ⟨hfirst hc, fun u hu => by cases hu⟩⟩
  | next temp' _ hnext _ ih =>
    obtain ⟨before, v, hvis, hans, hhit, hclosed⟩ := ih hstop
    refine ⟨_ :: before, v, congrArg (_ :: ·) hvis, hans, hhit, fun hc => ?_⟩
    obtain ⟨htemp, hbefore⟩ := hclosed hc
    rcases hnext with ⟨rfl, b, hb, -⟩ | ⟨rfl, -⟩
    · refine ⟨htemp, fun u hu => ?_⟩
      rcases List.mem_cons.mp hu with rfl | hu
      · exact fun _ hnone => by cases hb.symm.trans hnone
      · exact hbefore u hu
    · cases htemp
  | opened => cases hstop

lemma missed (h : Walks p ask n temp t ss cs w) (hstop : w.stop = .through false) :
    temp = false ∧ ∀ c ∈ cs, p.skip c = true ∨
      ∃ v ∈ w.visits, v.cand = c ∧ ∃ a, v.answer = some a ∧ p.hit a = false := by
  induction h with
  | nil =>
    cases hstop
    exact ⟨rfl, fun c hc => by cases hc⟩
  | passed hpassed _ ih =>
    obtain ⟨htemp, hrest⟩ := ih hstop
    refine ⟨htemp, List.forall_mem_cons.mpr ⟨hpassed.imp_right fun hfail => ?_, hrest⟩⟩
    cases htemp.symm.trans hfail.1
  | deferred => cases hstop
  | found => cases hstop
  | next temp' _ hnext _ ih =>
    obtain ⟨htemp, hrest⟩ := ih hstop
    rcases hnext with ⟨rfl, b, hb, hhit⟩ | ⟨rfl, -⟩
    · refine ⟨htemp, List.forall_mem_cons.mpr ⟨.inr ⟨_, List.mem_cons_self, rfl, b, hb, hhit⟩, ?_⟩⟩
      intro c hc
      refine (hrest c hc).imp_right ?_
      rintro ⟨v, hv, hcand⟩
      exact ⟨v, List.mem_cons_of_mem _ hv, hcand⟩
    · cases htemp
  | opened => cases hstop

lemma deferred_cand (h : Walks p ask n temp t ss cs w) (hstop : w.stop = .deferred) :
    ∃ c, p.defer c = true := by
  induction h with
  | nil => cases hstop
  | passed _ _ ih => exact ih hstop
  | deferred hdefer => exact ⟨_, hdefer⟩
  | found => cases hstop
  | next _ _ _ _ ih => exact ih hstop
  | opened => cases hstop

lemma opened_failed (h : Walks p ask n temp t ss cs w) (hstop : w.stop = .opened) :
    ∃ v ∈ w.visits, p.closed v.cand = false ∧ v.answer = none := by
  induction h with
  | nil => cases hstop
  | passed _ _ ih => exact ih hstop
  | deferred => cases hstop
  | found => cases hstop
  | next _ _ _ _ ih =>
    obtain ⟨v, hv, hopen⟩ := ih hstop
    exact ⟨v, List.mem_cons_of_mem _ hv, hopen⟩
  | opened _ hc _ => exact ⟨_, List.mem_singleton_self _, hc, rfl⟩

variable [DecidableEq S]

lemma asked (h : Walks p ask n temp t ss cs w) (hnd : (ss.map Prod.fst).Nodup) (hv : v ∈ w.visits)
    (s : S) : (v.asks.map Prod.fst).count s ≤ n := by
  obtain ⟨-, -, t', ss', hmarks, hasks, -⟩ := h.visit hv
  rw [hasks]
  exact question_asked _ s n t' (hmarks ▸ hnd)

/-- A lost server is dead and not asked again: over the whole walk each is lost at most
once. -/
lemma lost (h : Walks p ask n temp t ss cs w) (hlen : ss.length ≠ 1) (s : S) :
    (w.visits.flatMap Visit.asks).countP (lostAt s) + ss.count (s, true) ≤
      (ss.map Prod.fst).count s := by
  have hdead : ∀ l : List (S × Bool), l.count (s, true) ≤ (l.map Prod.fst).count s :=
    fun _ => List.count_le_count_map (f := Prod.fst) (x := (s, true))
  -- a single question, the first of the walk, loses no server twice
  have hfirst : ∀ (c : C) (t : Nat) (ss : List (S × Bool)), ss.length ≠ 1 →
      (question (ask c) n t ss).asks.countP (lostAt s) + ss.count (s, true) ≤
        (ss.map Prod.fst).count s := by
    intro c t ss hlen
    rw [question_lost (ask c) s n t hlen, ← question_marks (ask c) n t ss]
    exact hdead _
  induction h with
  | nil => exact Nat.le_trans (Nat.le_of_eq (Nat.zero_add _)) (hdead _)
  | passed _ _ ih => exact ih hlen
  | deferred => exact Nat.le_trans (Nat.le_of_eq (Nat.zero_add _)) (hdead _)
  | @found _ t ss c =>
    simpa only [List.flatMap_cons, List.flatMap_nil, List.append_nil] using hfirst c t ss hlen
  | @next _ t ss c _ _ _ _ _ _ ih =>
    have hq := question_lost (ask c) s n t hlen
    have hmarks := question_marks (ask c) n t ss
    have hrest := ih (by rwa [← List.length_map Prod.fst, hmarks, List.length_map])
    rw [hmarks] at hrest
    simp only [Walked.cons, List.flatMap_cons, List.countP_append]
    omega
  | @opened _ t ss c =>
    simpa only [List.flatMap_cons, List.flatMap_nil, List.append_nil] using hfirst c t ss hlen

end Walks

end Walk

end DarwinNet.Lib.Inquiry
