import DarwinNet.Lib.GoMap
import DarwinNet.Lib.Machine
import DarwinNet.Mesh.Refuse

/-!
The refuser (`refuse.go`: `Write`, `inject`, `Read`): any number of `Write` calls, which take the
refused SYNs out of their batches and queue the resets, and one reader. A step is one access to
what they share: the queue, the read deadline and the device.

The deadline is a signal that an `inject` sets after its push and that `Read` clears before it
looks at the queue again, so that no reset is left in the queue unseen (`no_reset_waits`). The
allocation of the node may change from one packet to the next.
-/

namespace DarwinNet.Mesh

open Lib Netip

abbrev Packet := List UInt8

def refuseQueue : Nat := 64

/-! ## Writers and the reader -/

/-- A packet with what `Write` meets at it: the allocation and the length of the queue. -/
structure Look where
  pkt : Packet
  allocated : Addr → Bool
  len : Nat

/-- The `refuse` function of `wrapTUN` at a packet; a panic is no refusal. -/
def Look.refused (node : Prefix) (l : Look) : Bool :=
  refuseSYN l.pkt node (some l.allocated) = some true

/-- A `Write` between two steps: the batch and the next position, the packets kept (`none` until
the first refusal), whether a reset is pushed and its wake still to come, and what it met at each
packet. -/
structure WriteCall where
  batch : List Packet
  i : Nat
  keep : Option (List Packet)
  pushed : Bool
  looks : List Look

namespace WriteCall

def begin (bufs : List Packet) : WriteCall := ⟨bufs, 0, none, false, []⟩

def kept (c : WriteCall) : List Packet := c.keep.getD (c.batch.take c.i)

def pass (c : WriteCall) (l : Look) : WriteCall :=
  { c with i := c.i + 1, keep := c.keep.map (· ++ [l.pkt]), looks := c.looks ++ [l] }

def refuse (c : WriteCall) (l : Look) : WriteCall :=
  { c with
    i := c.i + 1, keep := some c.kept, pushed := decide (l.len < refuseQueue)
    looks := c.looks ++ [l] }

/-- What the device is given at the end; `none` if it is not called. -/
def forwarded (c : WriteCall) : Option (List Packet) :=
  match c.keep with
  | none => some c.batch
  | some [] => none
  | some keep => some keep

end WriteCall

structure WriteRecord where
  id : Nat
  batch : List Packet
  forwarded : Option (List Packet)
  looks : List Look

inductive ReadError
  | deadline
  | other (err : String)
  deriving DecidableEq

inductive ReadResult
  | reset (p : Packet)
  | device (n : Nat) (err : Option ReadError)

def ReadResult.resetOf : ReadResult → Option Packet
  | reset p => some p
  | device _ _ => none

/-- Where the reader is: before the look at the queue, in the inner `Read`, or after its deadline
error with the number of packets read. -/
inductive ReaderPc
  | look
  | blocked
  | rearm (n : Nat)
  deriving DecidableEq

/-- The refuser, with what has happened: the results of `Read`, the resets pushed with the
`Write` that pushed them, and the finished `Write` calls. -/
structure RefuserState where
  queue : List Packet
  deadline : Bool
  reader : ReaderPc
  calls : GoMap Nat WriteCall
  next : Nat
  reads : List ReadResult
  injected : List (Nat × Packet)
  writes : List WriteRecord

inductive RefuserLabel
  | start (bufs : List Packet)
  | scan (id : Nat) (allocated : Addr → Bool)
  | wake (id : Nat)
  | finish (id : Nat)
  | look
  | deviceRead (n : Nat) (err : Option ReadError)
  | rearm

namespace RefuserState

def update (s : RefuserState) (id : Nat) (c : WriteCall) : RefuserState :=
  { s with calls := s.calls.insert id c }

def inject (s : RefuserState) (id : Nat) (reset : Packet) : RefuserState :=
  if s.queue.length < refuseQueue then
    { s with queue := s.queue ++ [reset], injected := s.injected ++ [(id, reset)] }
  else s

def returns (s : RefuserState) (r : ReadResult) : RefuserState :=
  { s with reader := .look, reads := s.reads ++ [r] }

variable (node : Prefix)

def step (s : RefuserState) : RefuserLabel → Option RefuserState
  | .start bufs =>
    some { s with calls := s.calls.insert s.next (.begin bufs), next := s.next + 1 }
  | .scan id allocated =>
    (s.calls.lookup id).bind fun c =>
      if c.pushed then none
      else c.batch[c.i]?.bind fun b =>
        -- a panic of `refuseSYN` or `tcpReset` is no step
        (refuseSYN b node (some allocated)).bind fun refused =>
          if refused then
            (tcpReset b).map fun reset =>
              (s.inject id reset).update id (c.refuse ⟨b, allocated, s.queue.length⟩)
          else some (s.update id (c.pass ⟨b, allocated, s.queue.length⟩))
  | .wake id =>
    (s.calls.lookup id).bind fun c =>
      if c.pushed then some { s.update id { c with pushed := false } with deadline := true }
      else none
  | .finish id =>
    (s.calls.lookup id).bind fun c =>
      if c.pushed ∨ c.i < c.batch.length then none
      else some { s with
        calls := s.calls.erase id
        writes := s.writes ++ [⟨id, c.batch, c.forwarded, c.looks⟩] }
  | .look =>
    if s.reader = .look then
      match s.queue with
      | p :: queue => some ({ s with queue }.returns (.reset p))
      | [] => some { s with reader := .blocked }
    else none
  | .deviceRead n err =>
    if s.reader = .blocked then
      if err = some .deadline then
        -- the deadline error comes only while the deadline is past
        if s.deadline then some { s with reader := .rearm n } else none
      else some (s.returns (.device n err))
    else none
  | .rearm =>
    match s.reader with
    | .rearm n =>
      let s := { s with deadline := false }
      some (if n > 0 then s.returns (.device n none) else { s with reader := .look })
    | _ => none

end RefuserState

def refuserMachine (node : Prefix) : Machine RefuserState RefuserLabel where
  init s := s = ⟨[], false, .look, ∅, 0, [], [], []⟩
  step s a := s.step node a

inductive Took (node : Prefix) (s : RefuserState) : RefuserState → Prop
  | start (bufs : List Packet) :
      Took node s { s with calls := s.calls.insert s.next (.begin bufs), next := s.next + 1 }
  | pass (id : Nat) (c : WriteCall) (l : Look) (hc : s.calls.lookup id = some c)
      (hidle : c.pushed = false) (hl : c.batch[c.i]? = some l.pkt)
      (hpass : l.refused node = false) :
      Took node s (s.update id (c.pass l))
  | push (id : Nat) (c : WriteCall) (l : Look) (reset : Packet) (hc : s.calls.lookup id = some c)
      (hidle : c.pushed = false) (hl : c.batch[c.i]? = some l.pkt) (hrefuse : l.refused node = true)
      (hreset : tcpReset l.pkt = some reset) (hroom : s.queue.length < refuseQueue)
      (hlen : l.len < refuseQueue) :
      Took node s ({ s with
        queue := s.queue ++ [reset]
        injected := s.injected ++ [(id, reset)] }.update id (c.refuse l))
  | drop (id : Nat) (c : WriteCall) (l : Look) (hc : s.calls.lookup id = some c)
      (hidle : c.pushed = false) (hl : c.batch[c.i]? = some l.pkt) (hrefuse : l.refused node = true)
      (hfull : ¬ l.len < refuseQueue) : Took node s (s.update id (c.refuse l))
  | wake (id : Nat) (c : WriteCall) (hc : s.calls.lookup id = some c) (hpushed : c.pushed = true) :
      Took node s { s.update id { c with pushed := false } with deadline := true }
  | finish (id : Nat) (c : WriteCall) (hc : s.calls.lookup id = some c) (hidle : c.pushed = false)
      (hend : c.batch.length ≤ c.i) :
      Took node s { s with
        calls := s.calls.erase id
        writes := s.writes ++ [⟨id, c.batch, c.forwarded, c.looks⟩] }
  | take (p : Packet) (queue : List Packet) (hlook : s.reader = .look) (hq : s.queue = p :: queue) :
      Took node s ({ s with queue }.returns (.reset p))
  | block (hlook : s.reader = .look) (hq : s.queue = []) :
      Took node s { s with reader := .blocked }
  | device (n : Nat) (err : Option ReadError) (hblocked : s.reader = .blocked)
      (herr : err ≠ some .deadline) : Took node s (s.returns (.device n err))
  | absorb (n : Nat) (hblocked : s.reader = .blocked) (hpast : s.deadline = true) :
      Took node s { s with reader := .rearm n }
  | rearm (n : Nat) (hrearm : s.reader = .rearm n) (hn : n > 0) :
      Took node s ({ s with deadline := false }.returns (.device n none))
  | again (n : Nat) (hrearm : s.reader = .rearm n) :
      Took node s { s with deadline := false, reader := .look }

section

variable {node : Prefix} {s t : RefuserState}

/-- What one step of the refuser can do. -/
lemma took_of_step {a : RefuserLabel} (h : s.step node a = some t) : Took node s t := by
  cases a with
  | start bufs =>
    cases h
    exact .start bufs
  | scan id allocated =>
    obtain ⟨c, hc, h⟩ := Option.bind_eq_some_iff.mp h
    simp only [Option.ite_none_left_eq_some, Bool.not_eq_true] at h
    obtain ⟨hidle, h⟩ := h
    obtain ⟨b, hb, h⟩ := Option.bind_eq_some_iff.mp h
    obtain ⟨refused, hrefused, h⟩ := Option.bind_eq_some_iff.mp h
    cases refused with
    | true =>
      obtain ⟨reset, hreset, rfl⟩ := Option.map_eq_some_iff.mp h
      have hrefuse : (Look.mk b allocated s.queue.length).refused node = true :=
        decide_eq_true hrefused
      unfold RefuserState.inject
      split
      · rename_i hroom
        exact .push id c _ reset hc hidle hb hrefuse hreset hroom hroom
      · rename_i hfull
        exact .drop id c _ hc hidle hb hrefuse hfull
    | false =>
      cases h
      exact .pass id c _ hc hidle hb (by simp [Look.refused, hrefused])
  | wake id =>
    obtain ⟨c, hc, h⟩ := Option.bind_eq_some_iff.mp h
    simp only [Option.ite_none_right_eq_some] at h
    obtain ⟨hpushed, h⟩ := h
    cases h
    exact .wake id c hc hpushed
  | finish id =>
    obtain ⟨c, hc, h⟩ := Option.bind_eq_some_iff.mp h
    simp only [Option.ite_none_left_eq_some, not_or, Bool.not_eq_true, not_lt] at h
    obtain ⟨⟨hidle, hend⟩, h⟩ := h
    cases h
    exact .finish id c hc hidle hend
  | look =>
    simp only [RefuserState.step, Option.ite_none_right_eq_some] at h
    obtain ⟨hlook, h⟩ := h
    split at h
    · rename_i p queue hq
      cases h
      exact .take p queue hlook hq
    · rename_i hq
      cases h
      exact .block hlook hq
  | deviceRead n err =>
    simp only [RefuserState.step, Option.ite_none_right_eq_some] at h
    obtain ⟨hblocked, h⟩ := h
    split at h
    · simp only [Option.ite_none_right_eq_some] at h
      obtain ⟨hpast, h⟩ := h
      cases h
      exact .absorb n hblocked hpast
    · rename_i herr
      cases h
      exact .device n err hblocked herr
  | rearm =>
    simp only [RefuserState.step] at h
    split at h
    · rename_i n hrearm
      split at h
      · rename_i hn
        cases h
        exact .rearm n hrearm hn
      · cases h
        exact .again n hrearm
    · cases h

/-- A reader blocked on a queue that has a reset is about to be woken. -/
def RefuserState.Awake (s : RefuserState) : Prop :=
  s.reader = .blocked → s.queue ≠ [] →
    s.deadline = true ∨ ∃ id c, s.calls.lookup id = some c ∧ c.pushed = true

lemma pushed_update {id : Nat} {c c' : WriteCall} (hc : s.calls.lookup id = some c)
    (hidle : c.pushed = false) (h : ∃ id c, s.calls.lookup id = some c ∧ c.pushed = true) :
    ∃ id' c'', (s.calls.insert id c').lookup id' = some c'' ∧ c''.pushed = true := by
  obtain ⟨id₀, c₀, hc₀, hpushed⟩ := h
  have hne : id₀ ≠ id := by
    rintro rfl
    rw [hc] at hc₀
    cases hc₀
    rw [hidle] at hpushed
    cases hpushed
  exact ⟨id₀, c₀, by rw [AList.lookup_insert_ne hne]; exact hc₀, hpushed⟩

lemma Took.awake (h : Took node s t) (hfresh : s.calls.lookup s.next = none)
    (hs : s.Awake) : t.Awake := by
  cases h with
  | start bufs =>
    intro hblocked hq
    refine (hs hblocked hq).imp_right ?_
    rintro ⟨id, c, hc, hpushed⟩
    have hne : id ≠ s.next := by
      rintro rfl
      rw [hfresh] at hc
      cases hc
    exact ⟨id, c, by rw [AList.lookup_insert_ne hne]; exact hc, hpushed⟩
  | pass id c l hc hidle _ _ =>
    intro hblocked hq
    exact (hs hblocked hq).imp_right (pushed_update hc hidle)
  | push id c l reset _ _ _ _ _ _ hlen =>
    -- the call that pushed has its wake to come
    intro _ _
    exact .inr ⟨id, _, AList.lookup_insert _, decide_eq_true hlen⟩
  | drop id c l hc hidle _ _ _ =>
    intro hblocked hq
    exact (hs hblocked hq).imp_right (pushed_update hc hidle)
  | wake id c hc hpushed =>
    intro _ _
    exact .inl rfl
  | finish id c hc hidle _ =>
    intro hblocked hq
    refine (hs hblocked hq).imp_right ?_
    rintro ⟨id₀, c₀, hc₀, hpushed⟩
    have hne : id₀ ≠ id := by
      rintro rfl
      rw [hc] at hc₀
      cases hc₀
      rw [hidle] at hpushed
      cases hpushed
    exact ⟨id₀, c₀, by rw [AList.lookup_erase_ne hne]; exact hc₀, hpushed⟩
  | take p queue => intro hblocked _; cases hblocked
  | block _ hq => intro _ hne; exact absurd hq hne
  | device n err => intro hblocked _; cases hblocked
  | absorb n => intro hblocked _; cases hblocked
  | rearm n => intro hblocked _; cases hblocked
  | again n => intro hblocked _; cases hblocked

/-! ## The deadline error -/

def RefuserState.Absorbs (s : RefuserState) : Prop :=
  ∀ n, ReadResult.device n (some .deadline) ∉ s.reads

lemma RefuserState.Absorbs.returns (h : s.Absorbs) {r : ReadResult}
    (hr : ∀ n, r ≠ .device n (some .deadline)) : (s.returns r).Absorbs := by
  intro n hmem
  rcases List.mem_append.mp hmem with hmem | hmem
  · exact h n hmem
  · exact hr n (List.mem_singleton.mp hmem).symm

lemma Took.absorbs (h : Took node s t) (hs : s.Absorbs) : t.Absorbs := by
  cases h with
  | take p queue => exact RefuserState.Absorbs.returns hs (by simp)
  | device n err _ herr => exact hs.returns (by simp [herr])
  | rearm n => exact RefuserState.Absorbs.returns hs (by simp)
  | _ => exact hs

/-! ## The account of the resets -/

/-- The resets owed: one for each refused packet that found room in the queue. -/
def resetsOf (node : Prefix) (looks : List Look) : List (Option Packet) :=
  (looks.filter fun l => l.refused node && l.len < refuseQueue).map fun l => tcpReset l.pkt

namespace RefuserState

def injectedBy (s : RefuserState) (id : Nat) : List Packet :=
  (s.injected.filter fun e => e.1 = id).map Prod.snd

def taken (s : RefuserState) : List Packet := s.reads.filterMap ReadResult.resetOf

end RefuserState

/-- A call has kept and refused what it should of the packets it has looked at. -/
structure WriteCall.Sorted (node : Prefix) (c : WriteCall) : Prop where
  bound : c.i ≤ c.batch.length
  looks : c.looks.map Look.pkt = c.batch.take c.i
  kept : c.kept = (c.looks.filter fun l => !l.refused node).map Look.pkt

namespace WriteCall.Sorted

variable {c : WriteCall} {l : Look}

lemma take_succ (hl : c.batch[c.i]? = some l.pkt) :
    c.batch.take (c.i + 1) = c.batch.take c.i ++ [l.pkt] ∧ c.i + 1 ≤ c.batch.length := by
  obtain ⟨hlt, hget⟩ := List.getElem?_eq_some_iff.mp hl
  rw [← hget]
  exact ⟨List.take_succ_eq_append_getElem hlt, hlt⟩

lemma begin (bufs : List Packet) : (WriteCall.begin bufs).Sorted node :=
  ⟨Nat.zero_le _, rfl, rfl⟩

lemma pass (h : c.Sorted node) (hl : c.batch[c.i]? = some l.pkt) (hpass : l.refused node = false) :
    (c.pass l).Sorted node := by
  obtain ⟨htake, hlt⟩ := take_succ hl
  have hlooks : (c.looks ++ [l]).map Look.pkt = c.batch.take (c.i + 1) := by
    rw [List.map_append, h.looks, htake]
    rfl
  refine ⟨hlt, hlooks, ?_⟩
  have hkept := h.kept
  simp only [WriteCall.kept, WriteCall.pass, List.filter_append, List.map_append] at hkept ⊢
  rw [← hkept]
  cases hkeep : c.keep with
  | none => simp [htake, hpass]
  | some keep => simp [hpass]

lemma refuse (h : c.Sorted node) (hl : c.batch[c.i]? = some l.pkt)
    (hrefuse : l.refused node = true) :
    (c.refuse l).Sorted node := by
  obtain ⟨htake, hlt⟩ := take_succ hl
  refine ⟨hlt, ?_, ?_⟩
  · show (c.looks ++ [l]).map Look.pkt = c.batch.take (c.i + 1)
    rw [List.map_append, h.looks, htake]
    rfl
  · show c.kept = ((c.looks ++ [l]).filter fun l => !l.refused node).map Look.pkt
    rw [List.filter_append, List.map_append, ← h.kept]
    simp [hrefuse]

lemma forwarded (h : c.Sorted node) (hend : c.batch.length ≤ c.i) :
    c.looks.map Look.pkt = c.batch ∧
      c.forwarded.getD [] = (c.looks.filter fun l => !l.refused node).map Look.pkt := by
  have hall : c.batch.take c.i = c.batch := List.take_of_length_le hend
  refine ⟨h.looks.trans hall, ?_⟩
  rw [← h.kept, WriteCall.forwarded, WriteCall.kept]
  split
  · rename_i hkeep
    simp [hkeep, hall]
  · rename_i hkeep
    simp [hkeep]
  · rename_i keep _ hkeep
    simp [hkeep]

end WriteCall.Sorted

/-- Every reset pushed is in the queue or has been returned, in order; every call has pushed the
resets of its refusals that found room; a finished one has forwarded the rest. -/
structure RefuserState.Accounts (node : Prefix) (s : RefuserState) : Prop where
  queue : s.injected.map Prod.snd = s.taken ++ s.queue
  cap : s.queue.length ≤ refuseQueue
  fresh : ∀ e ∈ s.injected, e.1 < s.next
  calls : ∀ id c, s.calls.lookup id = some c →
    id < s.next ∧ c.Sorted node ∧ (s.injectedBy id).map some = resetsOf node c.looks
  writes : ∀ w ∈ s.writes, w.id < s.next ∧ s.calls.lookup w.id = none ∧
    (w.looks.map Look.pkt = w.batch ∧
      w.forwarded.getD [] = (w.looks.filter fun l => !l.refused node).map Look.pkt) ∧
    (s.injectedBy w.id).map some = resetsOf node w.looks

namespace RefuserState.Accounts

variable {id : Nat} {c c' : WriteCall}

lemma ne_of_mem_writes (h : s.Accounts node) (hc : s.calls.lookup id = some c)
    {w : WriteRecord} (hw : w ∈ s.writes) : w.id ≠ id := by
  obtain ⟨-, hnone, -⟩ := h.writes w hw
  rintro rfl
  rw [hnone] at hc
  cases hc

lemma update (h : s.Accounts node) (hc : s.calls.lookup id = some c)
    (hsorted : c'.Sorted node) (hresets : resetsOf node c'.looks = resetsOf node c.looks) :
    (s.update id c').Accounts node := by
  refine ⟨h.queue, h.cap, h.fresh, fun id' c₀ hc₀ => ?_, fun w hw => ?_⟩
  · by_cases heq : id' = id
    · subst heq
      rw [RefuserState.update, AList.lookup_insert] at hc₀
      cases hc₀
      obtain ⟨hlt, -, hinjected⟩ := h.calls id' c hc
      exact ⟨hlt, hsorted, hinjected.trans hresets.symm⟩
    · rw [RefuserState.update, AList.lookup_insert_ne heq] at hc₀
      exact h.calls id' c₀ hc₀
  · obtain ⟨hlt, hnone, hrest⟩ := h.writes w hw
    refine ⟨hlt, ?_, hrest⟩
    have hne := h.ne_of_mem_writes hc hw
    rw [RefuserState.update, AList.lookup_insert_ne hne]
    exact hnone

lemma injectedBy_append (id id' : Nat) (reset : Packet) (injected : List (Nat × Packet)) :
    ((injected ++ [(id, reset)]).filter fun e => e.1 = id').map Prod.snd =
      (injected.filter fun e => e.1 = id').map Prod.snd ++ if id = id' then [reset] else [] := by
  rw [List.filter_append, List.map_append]
  congr 1
  by_cases heq : id = id' <;> simp [heq]

lemma push (h : s.Accounts node) {reset : Packet} (hc : s.calls.lookup id = some c)
    (hroom : s.queue.length < refuseQueue) (hsorted : c'.Sorted node)
    (hresets : resetsOf node c'.looks = resetsOf node c.looks ++ [some reset]) : ({ s with
      queue := s.queue ++ [reset]
      injected := s.injected ++ [(id, reset)] }.update id c').Accounts node := by
  obtain ⟨hlt, -, hinjected⟩ := h.calls id c hc
  refine ⟨?_, ?_, fun e he => ?_, fun id' c₀ hc₀ => ?_, fun w hw => ?_⟩
  · show (s.injected ++ [(id, reset)]).map Prod.snd = s.taken ++ (s.queue ++ [reset])
    rw [List.map_append, h.queue, List.append_assoc]
    rfl
  · show (s.queue ++ [reset]).length ≤ refuseQueue
    rw [List.length_append, List.length_singleton]
    omega
  · rcases List.mem_append.mp he with he | he
    · exact h.fresh e he
    · rw [List.mem_singleton.mp he]
      exact hlt
  · have hby := injectedBy_append id id' reset s.injected
    by_cases heq : id' = id
    · subst heq
      rw [RefuserState.update, AList.lookup_insert] at hc₀
      cases hc₀
      refine ⟨hlt, hsorted, (congrArg (List.map some) hby).trans ?_⟩
      rw [if_pos rfl, List.map_append, hresets]
      exact congrArg (· ++ [some reset]) hinjected
    · rw [RefuserState.update, AList.lookup_insert_ne heq] at hc₀
      obtain ⟨hlt₀, hsorted₀, hinjected₀⟩ := h.calls id' c₀ hc₀
      refine ⟨hlt₀, hsorted₀, (congrArg (List.map some) hby).trans ?_⟩
      rw [if_neg fun h => heq h.symm, List.append_nil]
      exact hinjected₀
  · obtain ⟨hltw, hnone, hforwarded, hinjectedw⟩ := h.writes w hw
    have hne := h.ne_of_mem_writes hc hw
    refine ⟨hltw, ?_, hforwarded,
      (congrArg (List.map some) (injectedBy_append id w.id reset s.injected)).trans ?_⟩
    · rw [RefuserState.update, AList.lookup_insert_ne hne]
      exact hnone
    · rw [if_neg fun h => hne h.symm, List.append_nil]
      exact hinjectedw

lemma device (h : s.Accounts node) (n : Nat) (err : Option ReadError) :
    (s.returns (.device n err)).Accounts node := by
  refine ⟨?_, h.cap, h.fresh, h.calls, h.writes⟩
  show s.injected.map Prod.snd = (s.reads ++ [ReadResult.device n err]).filterMap _ ++ s.queue
  have hnone : [ReadResult.device n err].filterMap ReadResult.resetOf = [] := rfl
  rw [List.filterMap_append, hnone, List.append_nil]
  exact h.queue

lemma take (h : s.Accounts node) {p : Packet} {queue : List Packet}
    (hq : s.queue = p :: queue) : ({ s with queue }.returns (.reset p)).Accounts node := by
  have hcap := h.cap
  rw [hq, List.length_cons] at hcap
  refine ⟨?_, Nat.le_of_succ_le hcap, h.fresh, h.calls, h.writes⟩
  show s.injected.map Prod.snd = (s.reads ++ [ReadResult.reset p]).filterMap _ ++ queue
  rw [List.filterMap_append, List.append_assoc, h.queue, hq]
  rfl

lemma finish (h : s.Accounts node) (hc : s.calls.lookup id = some c)
    (hend : c.batch.length ≤ c.i) : Accounts node { s with
      calls := s.calls.erase id
      writes := s.writes ++ [⟨id, c.batch, c.forwarded, c.looks⟩] } := by
  obtain ⟨hlt, hsorted, hinjected⟩ := h.calls id c hc
  refine ⟨h.queue, h.cap, h.fresh, fun id' c₀ hc₀ => ?_, fun w hw => ?_⟩
  · have hlookup : (s.calls.erase id).lookup id' = some c₀ := hc₀
    rw [GoMap.lookup_erase_ite] at hlookup
    split_ifs at hlookup
    exact h.calls id' c₀ hlookup
  · rcases List.mem_append.mp hw with hw | hw
    · obtain ⟨hltw, hnone, hrest⟩ := h.writes w hw
      refine ⟨hltw, ?_, hrest⟩
      show (s.calls.erase id).lookup w.id = none
      rw [GoMap.lookup_erase_ite, hnone, ite_self]
    · rw [List.mem_singleton.mp hw]
      exact ⟨hlt, AList.lookup_erase _ _, hsorted.forwarded hend, hinjected⟩

lemma start (h : s.Accounts node) (bufs : List Packet) : Accounts node { s with
      calls := s.calls.insert s.next (.begin bufs), next := s.next + 1 } := by
  refine ⟨h.queue, h.cap, fun e he => ?_, fun id' c₀ hc₀ => ?_, fun w hw => ?_⟩
  · exact Nat.lt_succ_of_lt (h.fresh e he)
  · have hlookup : (s.calls.insert s.next (.begin bufs)).lookup id' = some c₀ := hc₀
    rw [GoMap.lookup_insert_ite] at hlookup
    split at hlookup
    · rename_i heq
      cases hlookup
      subst heq
      refine ⟨Nat.lt_succ_self _, .begin bufs, ?_⟩
      -- nothing has been pushed under the new number
      have hnone : s.injected.filter (fun e => e.1 = s.next) = [] := by
        rw [List.filter_eq_nil_iff]
        intro e he
        have := h.fresh e he
        simp only [decide_eq_true_eq]
        omega
      show ((s.injected.filter fun e => e.1 = s.next).map Prod.snd).map some = []
      rw [hnone]
      rfl
    · obtain ⟨hlt, hrest⟩ := h.calls id' c₀ hlookup
      exact ⟨Nat.lt_succ_of_lt hlt, hrest⟩
  · obtain ⟨hltw, hnone, hrest⟩ := h.writes w hw
    refine ⟨Nat.lt_succ_of_lt hltw, ?_, hrest⟩
    show (s.calls.insert s.next (.begin bufs)).lookup w.id = none
    rw [AList.lookup_insert_ne (by omega)]
    exact hnone

lemma step (h : s.Accounts node) (ht : Took node s t) : t.Accounts node := by
  cases ht with
  | start bufs => exact h.start bufs
  | pass id c l hc _ hl hpass =>
    refine h.update hc ((h.calls id c hc).2.1.pass hl hpass) ?_
    simp [resetsOf, WriteCall.pass, List.filter_append, hpass]
  | push id c l reset hc _ hl hrefuse hreset hroom hlen =>
    refine h.push hc hroom ((h.calls id c hc).2.1.refuse hl hrefuse) ?_
    simp [resetsOf, WriteCall.refuse, List.filter_append, hrefuse, hlen, hreset]
  | drop id c l hc _ hl hrefuse hfull =>
    refine h.update hc ((h.calls id c hc).2.1.refuse hl hrefuse) ?_
    simp [resetsOf, WriteCall.refuse, List.filter_append, hfull]
  | wake id c hc _ =>
    have hsorted := (h.calls id c hc).2.1
    have hupdate : (s.update id { c with pushed := false }).Accounts node :=
      h.update hc ⟨hsorted.bound, hsorted.looks, hsorted.kept⟩ rfl
    exact ⟨hupdate.queue, hupdate.cap, hupdate.fresh, hupdate.calls, hupdate.writes⟩
  | finish id c hc _ hend => exact h.finish hc hend
  | take p queue _ hq => exact h.take hq
  | block => exact ⟨h.queue, h.cap, h.fresh, h.calls, h.writes⟩
  | device n err => exact h.device n err
  | absorb n => exact ⟨h.queue, h.cap, h.fresh, h.calls, h.writes⟩
  | rearm n =>
    have hcleared : Accounts node { s with deadline := false } :=
      ⟨h.queue, h.cap, h.fresh, h.calls, h.writes⟩
    exact hcleared.device n none
  | again n => exact ⟨h.queue, h.cap, h.fresh, h.calls, h.writes⟩

lemma lookup_next (h : s.Accounts node) : s.calls.lookup s.next = none := by
  by_contra hne
  obtain ⟨c, hc⟩ := Option.ne_none_iff_exists'.mp hne
  exact absurd (h.calls s.next c hc).1 (lt_irrefl _)

end RefuserState.Accounts

/-- What every reachable refuser keeps. -/
structure RefuserState.Lawful (node : Prefix) (s : RefuserState) : Prop where
  awake : s.Awake
  absorbs : s.Absorbs
  accounts : s.Accounts node

lemma RefuserState.Lawful.reach (h : (refuserMachine node).Reach Machine.always s) :
    s.Lawful node := by
  refine h.invariant (fun s hs => ?_) fun s a t hs _ ht => ?_
  · cases hs
    refine ⟨fun _ hne => absurd rfl hne, fun n hmem => (List.not_mem_nil hmem).elim, ?_⟩
    refine ⟨rfl, Nat.zero_le _, fun e he => (List.not_mem_nil he).elim, fun id c hc => ?_,
      fun w hw => (List.not_mem_nil hw).elim⟩
    rw [AList.lookup_empty] at hc
    cases hc
  · have htook : Took node s t := took_of_step ht
    exact ⟨htook.awake hs.accounts.lookup_next hs.awake, htook.absorbs hs.absorbs,
      hs.accounts.step htook⟩

/-- A packet refused is a plain SYN, so neither its checks nor its reset panic. -/
lemma scan_enabled {id : Nat} {c : WriteCall} (hc : s.calls.lookup id = some c)
    (hidle : c.pushed = false) (hlt : c.i < c.batch.length) (allocated : Addr → Bool) :
    ∃ t, s.step node (.scan id allocated) = some t := by
  obtain ⟨refused, hrefused, hsyn⟩ := refuseSYN_spec c.batch[c.i] node (some allocated)
  simp only [RefuserState.step, hc, hidle, List.getElem?_eq_getElem hlt, Option.bind_some, hrefused,
    Bool.false_eq_true, if_false]
  cases refused with
  | false => exact ⟨_, rfl⟩
  | true =>
    rw [tcpReset_eq (hsyn rfl)]
    exact ⟨_, rfl⟩

/-- In every interleaving: a reader blocked while the queue has a reset has the deadline past or
an `inject` about to set it; no `Read` returns the deadline error; no packet of a batch makes
`Write` panic; a finished `Write` has looked at each packet of its batch, forwarded those it did
not refuse, in order, and queued one reset for each refused packet that found room; and what was
queued is what `Read` has returned and what is still in the queue. -/
theorem no_reset_waits (node : Prefix) (s : RefuserState)
    (h : (refuserMachine node).Reach Machine.always s) : (s.reader = .blocked → s.queue ≠ [] →
      s.deadline = true ∨ ∃ id c, s.calls.lookup id = some c ∧ c.pushed = true) ∧
    (∀ n, ReadResult.device n (some .deadline) ∉ s.reads) ∧
    (∀ id c, s.calls.lookup id = some c → c.pushed = false → c.i < c.batch.length →
      ∀ allocated, ∃ t, (refuserMachine node).step s (.scan id allocated) = some t) ∧
    (∀ w ∈ s.writes, w.looks.map Look.pkt = w.batch ∧
      w.forwarded.getD [] = (w.looks.filter fun l => !l.refused node).map Look.pkt ∧
      (s.injectedBy w.id).map some = (w.looks.filter fun l =>
        l.refused node && l.len < refuseQueue).map fun l => tcpReset l.pkt) ∧
    s.injected.map Prod.snd = s.taken ++ s.queue := by
  obtain ⟨hawake, habsorbs, haccounts⟩ := RefuserState.Lawful.reach h
  refine ⟨hawake, habsorbs, fun id c hc hidle hlt => scan_enabled hc hidle hlt, fun w hw => ?_,
    haccounts.queue⟩
  obtain ⟨-, -, ⟨hlooks, hforwarded⟩, hinjected⟩ := haccounts.writes w hw
  exact ⟨hlooks, hforwarded, hinjected⟩

end

theorem no_reset_waits_dialed : ∃ s,
    (refuserMachine (Prefix.v4 0x64400100#32 24)).Reach Machine.always s ∧
    s.reader = .look ∧ s.queue = [] ∧ s.reads.length = 1 ∧ s.writes.length = 1 ∧
    s.injected.map Prod.snd = s.taken ++ s.queue := by
  -- the address is allocated between the two SYNs
  let labels : List RefuserLabel := [.start [[0x45], dialedSYN, dialedSYN], .scan 0 fun _ => false,
    .look, .scan 0 fun _ => false, .wake 0, .scan 0 fun _ => true,
    .deviceRead 0 (some .deadline), .finish 0, .rearm, .look]
  obtain ⟨s, hreach, hreader, hqueue, hreads, hwrites⟩ : ∃ s,
      (refuserMachine (Prefix.v4 0x64400100#32 24)).Reach Machine.always s ∧
      s.reader = .look ∧ s.queue.length = 0 ∧ s.reads.length = 1 ∧ s.writes.length = 1 :=
    Machine.Reach.exists_run (s := ⟨[], false, .look, ∅, 0, [], [], []⟩) labels rfl
      (Machine.meets_always _ _) (by decide +kernel)
  exact ⟨s, hreach, hreader, List.length_eq_zero_iff.mp hqueue, hreads, hwrites,
    (no_reset_waits _ s hreach).2.2.2.2⟩

end DarwinNet.Mesh
