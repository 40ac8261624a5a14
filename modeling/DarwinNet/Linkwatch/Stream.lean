import Mathlib.Data.List.Sort
import DarwinNet.Lib.Machine
import DarwinNet.Lib.GoMap

/-!
The stream of link events (`linkwatch.go`, `routesock.go`). The poller lists the interfaces, reads
the carriers one by one and sends what changed against its own memory; the route reader turns
routing messages into events and sees no carrier. `Merge` passes both on in any order, and
`Debounce` delivers the last event of each interface when its window expires.

Two passes after the interfaces come to rest the poller's memory is right (`Calm`). What is
delivered is what `Merge` passed on last, so the stream ends with the true state of an interface
unless `Merge` passes on a routing event that says otherwise after the poller's last; a routing
message after a lost carrier does (`carrier_loss_overwritten`).

Channels are unbounded here: the capacity of a real one only delays a sender.
-/

namespace DarwinNet.Linkwatch

open Lib

structure Flags where
  up : Bool
  running : Bool

def linkUp (f : Flags) : Bool := f.up && f.running

structure Event where
  iface : String
  up : Bool
  gone : Bool
  down : gone = true → up = false
  deriving DecidableEq

def Event.link (iface : String) (up : Bool) : Event :=
  ⟨iface, up, false, fun h => absurd h Bool.false_ne_true⟩

def Event.vanished (iface : String) : Event := ⟨iface, false, true, fun _ => rfl⟩

/-- An interface of the host; the carrier is `none` where the driver does not report it. -/
structure Iface where
  index : Nat
  flags : Flags
  carrier : Option Bool

/-! ## The poller -/

/-- `up` of a pass, given what the read of the carrier returned: `none` for an error. -/
def passUp (flags : Flags) (read : Option (Option Bool)) : Bool :=
  linkUp flags && (read.join.getD true)

lemma passUp_iff (flags : Flags) (carrier : Option Bool) :
    passUp flags (some carrier) = true ↔ linkUp flags = true ∧ carrier ≠ some false := by
  rcases carrier with _ | _ | _ <;> simp [passUp]

def remembered (prev : Option (GoMap String Bool)) (name : String) : Option Bool :=
  prev.bind (·.lookup name)

def diff (prev : Option (GoMap String Bool)) (next : GoMap String Bool) : List Event :=
  let changed : List Event := (next.entries.filter fun e =>
    prev.isNone || remembered prev e.1 ≠ some e.2).map fun e => .link e.1 e.2
  let vanished : List Event := ((prev.getD ∅).entries.filter fun e =>
    (next.lookup e.1).isNone).map fun e => .vanished e.1
  (changed ++ vanished).insertionSort fun a b => a.iface ≤ b.iface

inductive Place
  | idle
  | reading (todo : List (String × Flags)) (next : GoMap String Bool)
  | sending (events : List Event) (next : GoMap String Bool)

/-! ## The route reader -/

inductive RouteMsgType
  | ifinfo
  | newaddr
  | deladdr
  | other
  deriving DecidableEq

structure RouteMsg where
  typ : RouteMsgType
  flags : Flags
  index : Nat

/-- `RouteReader.event`, given what `lookup` returned: the event and the cache of names. -/
def routeEvent (names : GoMap Nat String) (m : RouteMsg) (ifi : Option (String × Flags)) :
    Option Event × GoMap Nat String :=
  if m.typ = .other then (none, names)
  else match ifi with
    | none => match names.lookup m.index with
      | none => (none, names)
      | some name => (some (.vanished name), names.erase m.index)
    | some (name, flags) =>
      (some (.link name (linkUp (if m.typ = .ifinfo then m.flags else flags))),
        names.insert m.index name)

/-! ## The stream -/

structure LinkState where
  ifaces : GoMap String Iface
  last : Option (GoMap String Bool)
  place : Place
  polls : Nat
  names : GoMap Nat String
  pollCh : List Event
  routeCh : List Event
  merged : List Event
  pending : GoMap String Event
  /-- The last event sent for each interface. -/
  delivered : GoMap String Event
  /-- The events `Merge` has passed on, and those of the poller among them. -/
  passed : List Event
  polled : List Event
  /-- The last routing event passed on for each interface, if it came after the poller's last. -/
  routed : GoMap String Event

inductive Label
  | setIface (name : String) (ifi : Option Iface)
  | poll (fails : Bool)
  | route (m : RouteMsg) (fails : Bool)
  | mergePoll
  | mergeRoute
  | receive
  | expire

def readCarrier (ifaces : GoMap String Iface) (e : String × Flags) (next : GoMap String Bool) :
    GoMap String Bool :=
  next.insert e.1 (passUp e.2 ((ifaces.lookup e.1).map Iface.carrier))

/-- The next step of the poller's loop; `fails` is the error of a list or a carrier read. -/
def pollStep (s : LinkState) (fails : Bool) : LinkState :=
  match s.place with
  | .idle =>
    if fails then s
    else { s with place := .reading (s.ifaces.entries.map fun e => (e.1, e.2.flags)) ∅ }
  | .reading (e :: todo) next =>
    let next := if fails then next.insert e.1 (passUp e.2 none) else readCarrier s.ifaces e next
    { s with place := .reading todo next }
  | .reading [] next => { s with place := .sending (diff s.last next) next }
  | .sending (ev :: events) next =>
    { s with place := .sending events next, pollCh := s.pollCh ++ [ev] }
  | .sending [] next => { s with place := .idle, last := some next, polls := s.polls + 1 }

def interfaceByIndex (ifaces : GoMap String Iface) (index : Nat) : Option (String × Flags) :=
  (ifaces.entries.find? (·.2.index = index)).map fun e => (e.1, e.2.flags)

def routeStep (s : LinkState) (m : RouteMsg) (fails : Bool) : LinkState :=
  let r := routeEvent s.names m (if fails then none else interfaceByIndex s.ifaces m.index)
  { s with names := r.2, routeCh := s.routeCh ++ r.1.toList }

def deliver (pending : GoMap String Event) (delivered : GoMap String Event) (name : String) :
    GoMap String Event :=
  match pending.lookup name with
  | none => delivered
  | some ev => if delivered.lookup name = some ev then delivered else delivered.insert name ev

def linkStep (s : LinkState) : Label → Option LinkState
  | .setIface name none => some { s with ifaces := s.ifaces.erase name }
  | .setIface name (some ifi) => some { s with ifaces := s.ifaces.insert name ifi }
  | .poll fails => some (pollStep s fails)
  | .route m fails => some (routeStep s m fails)
  | .mergePoll => match s.pollCh with
    | [] => none
    | ev :: rest => some { s with
        pollCh := rest, merged := s.merged ++ [ev], passed := s.passed ++ [ev],
        polled := s.polled ++ [ev], routed := s.routed.erase ev.iface }
  | .mergeRoute => match s.routeCh with
    | [] => none
    | ev :: rest => some { s with
        routeCh := rest, merged := s.merged ++ [ev], passed := s.passed ++ [ev],
        routed := s.routed.insert ev.iface ev }
  | .receive => match s.merged with
    | [] => none
    | ev :: rest => some { s with merged := rest, pending := s.pending.insert ev.iface ev }
  | .expire =>
    if s.pending.entries = [] then none
    else some { s with
      pending := ∅,
      delivered := (s.pending.keys.insertionSort (· ≤ ·)).foldl (deliver s.pending) s.delivered }

def linkStart : LinkState := ⟨∅, none, .idle, 0, ∅, [], [], [], ∅, ∅, [], [], ∅⟩

def linkWatch : Machine LinkState Label := ⟨(· = linkStart), linkStep⟩

def linkWatchFrom (s : LinkState) : Machine LinkState Label := ⟨(· = s), linkStep⟩

/-- A step while the interfaces are at rest: nothing changes, no routing message arrives and every
read succeeds. -/
def calm (_ : LinkState) : Label → Prop
  | .setIface _ _ | .route _ _ | .poll true => False
  | _ => True

/-- Nothing is on its way and the window has expired. -/
def LinkState.Settled (s : LinkState) : Prop :=
  s.pollCh = [] ∧ s.routeCh = [] ∧ s.merged = [] ∧ s.pending.entries = []

/-! ## The last event of an interface -/

def lastOf (l : List Event) (i : String) : Option Event :=
  GoMap.lastWrite i (l.map fun e => (e.iface, e))

lemma lastOf_append (l l' : List Event) (i : String) :
    lastOf (l ++ l') i = (lastOf l' i).or (lastOf l i) := by
  rw [lastOf, List.map_append, GoMap.lastWrite_append]
  rfl

lemma lastOf_cons (e : Event) (l : List Event) (i : String) :
    lastOf (e :: l) i = (lastOf l i).or (if e.iface = i then some e else none) := rfl

lemma lastOf_singleton (e : Event) (i : String) :
    lastOf [e] i = if e.iface = i then some e else none := rfl

variable {l : List Event} {i : String} {e : Event} {prev : Option (GoMap String Bool)}
  {next : GoMap String Bool} {s : LinkState} {n : Nat}

lemma lastOf_eq_none (h : ∀ e ∈ l, e.iface ≠ i) : lastOf l i = none :=
  GoMap.lastWrite_eq_none.mpr (by simpa using h)

lemma lastOf_eq_some (he : e ∈ l) (hi : e.iface = i) (honly : ∀ e' ∈ l, e'.iface = i → e' = e) :
    lastOf l i = some e := by
  cases h : lastOf l i with
  | none => exact absurd hi (GoMap.lastWrite_eq_none.mp h _ (List.mem_map_of_mem he))
  | some e' =>
    obtain ⟨e'', hmem, heq⟩ := List.mem_map.mp (GoMap.mem_of_lastWrite h)
    rw [Prod.mk.injEq] at heq
    obtain ⟨hi', rfl⟩ := heq
    rw [honly e'' hmem hi']

lemma exists_mem_of_lastOf (h : lastOf l i = some e) : ∃ e ∈ l, e.iface = i := by
  obtain ⟨e', hmem, heq⟩ := List.mem_map.mp (GoMap.mem_of_lastWrite h)
  exact ⟨e', hmem, congrArg Prod.fst heq⟩

/-! ## The poller's memory -/

def eventOf (i : String) : Option Bool → Event
  | some up => .link i up
  | none => .vanished i

lemma iface_eventOf (i : String) (m : Option Bool) : (eventOf i m).iface = i := by
  cases m <;> rfl

lemma mem_diff : e ∈ diff prev next ↔ remembered prev e.iface ≠ next.lookup e.iface ∧
      e = eventOf e.iface (next.lookup e.iface) := by
  have hprev : ∀ name, (∃ v, (prev.getD ∅).lookup name = some v) ↔ remembered prev name ≠ none := by
    intro name
    cases prev with
    | none => simp [remembered]
    | some m => simp [remembered, Option.ne_none_iff_exists']
  obtain ⟨name, up, gone⟩ := e
  simp only [diff, List.mem_insertionSort, List.mem_append, List.mem_map, List.mem_filter]
  constructor
  · rintro (⟨⟨k, v⟩, ⟨hmem, hne⟩, heq⟩ | ⟨⟨k, v⟩, ⟨hmem, hnone⟩, heq⟩)
    · cases heq
      rw [GoMap.lookup_of_mem_entries hmem]
      refine ⟨?_, rfl⟩
      cases prev with
      | none => exact fun h => by cases h
      | some m => simpa using hne
    · cases heq
      rw [Option.isNone_iff_eq_none.mp hnone]
      exact ⟨(hprev k).mp ⟨v, GoMap.lookup_of_mem_entries hmem⟩, rfl⟩
  · rintro ⟨hne, heq⟩
    cases hnext : next.lookup name with
    | some v =>
      rw [hnext] at hne heq
      cases heq
      exact .inl ⟨⟨name, up⟩, ⟨GoMap.mem_entries_of_lookup hnext, by simp [hne]⟩, rfl⟩
    | none =>
      rw [hnext] at hne heq
      cases heq
      obtain ⟨v, hv⟩ := (hprev name).mpr hne
      exact .inr ⟨⟨name, v⟩, ⟨GoMap.mem_entries_of_lookup hv, by simp [hnext]⟩, rfl⟩

/-- What was sent last about `i` is that it is in the state `m`. -/
def Told (l : List Event) (i : String) (m : Option Bool) : Prop :=
  lastOf l i = some (eventOf i m) ∨ (lastOf l i = none ∧ m = none)

lemma Told.append_diff (h : Told l i (remembered prev i)) :
    Told (l ++ diff prev next) i (next.lookup i) := by
  unfold Told
  rw [lastOf_append]
  by_cases heq : remembered prev i = next.lookup i
  · have hnone : lastOf (diff prev next) i = none := by
      refine lastOf_eq_none ?_
      rintro e he rfl
      exact (mem_diff.mp he).1 heq
    rw [hnone, Option.none_or, ← heq]
    exact h
  · have hmem : eventOf i (next.lookup i) ∈ diff prev next := by
      rw [mem_diff, iface_eventOf]
      exact ⟨heq, rfl⟩
    left
    rw [lastOf_eq_some hmem (iface_eventOf i _), Option.some_or]
    rintro e he rfl
    exact (mem_diff.mp he).2

lemma diff_eq_nil (h : ∀ i, remembered prev i = next.lookup i) : diff prev next = [] := by
  refine List.eq_nil_iff_forall_not_mem.mpr ?_
  intro e he
  exact (mem_diff.mp he).1 (h e.iface)

def Place.unsent : Place → List Event
  | sending events _ => events
  | _ => []

/-- What the poller's events sent and still to be sent amount to. -/
def LinkState.memory (s : LinkState) : String → Option Bool :=
  match s.place with
  | .sending _ next => next.lookup
  | _ => remembered s.last

lemma lookup_deliver (pending delivered : GoMap String Event) (name i : String) :
    (deliver pending delivered name).lookup i =
      if i = name then (pending.lookup i).or (delivered.lookup i) else delivered.lookup i := by
  unfold deliver
  by_cases hi : i = name
  · subst hi
    cases pending.lookup i with
    | none => simp
    | some ev =>
      rw [if_pos rfl, Option.some_or]
      dsimp only
      split_ifs with hsame
      · exact hsame
      · exact AList.lookup_insert delivered
  · cases pending.lookup name with
    | none => simp [hi]
    | some ev =>
      dsimp only
      split_ifs <;> simp [hi]

lemma lookup_foldl_deliver (pending delivered : GoMap String Event) (names : List String)
    (i : String) : (names.foldl (deliver pending) delivered).lookup i =
      if i ∈ names then (pending.lookup i).or (delivered.lookup i) else delivered.lookup i := by
  induction names generalizing delivered with
  | nil => rfl
  | cons name names ih =>
    rw [List.foldl_cons, ih, lookup_deliver]
    by_cases hname : i = name <;> by_cases hnames : i ∈ names <;>
      simp [hname, hnames, ← Option.or_assoc]

/-- What holds in every state: the poller's events tell its memory, and the last event passed on
is waiting or delivered. -/
structure LinkInv (s : LinkState) : Prop where
  poll : ∀ i, Told (s.polled ++ s.pollCh ++ s.place.unsent) i (s.memory i)
  debounce : ∀ i, lastOf s.passed i =
    ((lastOf s.merged i).or (s.pending.lookup i)).or (s.delivered.lookup i)
  routed : ∀ i, lastOf s.passed i = (s.routed.lookup i).or (lastOf s.polled i)

lemma LinkInv.pollStep (hs : LinkInv s) (fails : Bool) : LinkInv (pollStep s fails) := by
  have hpoll := hs.poll
  unfold LinkState.memory at hpoll
  unfold Linkwatch.pollStep
  split
  · next hplace =>
    rw [hplace] at hpoll
    split_ifs
    · exact hs
    · exact ⟨hpoll, hs.debounce, hs.routed⟩
  · next hplace =>
    rw [hplace] at hpoll
    exact ⟨hpoll, hs.debounce, hs.routed⟩
  · next next hplace =>
    rw [hplace] at hpoll
    refine ⟨fun i => ?_, hs.debounce, hs.routed⟩
    have htold : Told (s.polled ++ s.pollCh ++ []) i (remembered s.last i) := hpoll i
    rw [List.append_nil] at htold
    exact htold.append_diff
  · next ev events next hplace =>
    rw [hplace] at hpoll
    refine ⟨fun i => ?_, hs.debounce, hs.routed⟩
    show Told (s.polled ++ (s.pollCh ++ [ev]) ++ events) i _
    have hmove : s.polled ++ (s.pollCh ++ [ev]) ++ events =
        s.polled ++ s.pollCh ++ ev :: events := by simp
    rw [hmove]
    exact hpoll i
  · next next hplace =>
    rw [hplace] at hpoll
    exact ⟨hpoll, hs.debounce, hs.routed⟩

/-- `Merge` passes an event on to `Debounce`, whichever channel it is from. -/
lemma LinkInv.debounce_passed (hs : LinkInv s) (ev : Event) (i : String) :
    lastOf (s.passed ++ [ev]) i =
      ((lastOf (s.merged ++ [ev]) i).or (s.pending.lookup i)).or (s.delivered.lookup i) := by
  rw [lastOf_append, lastOf_append, hs.debounce, Option.or_assoc, Option.or_assoc,
    Option.or_assoc]

lemma LinkInv.step {t : LinkState} {a : Label} (hs : LinkInv s) (h : linkStep s a = some t) :
    LinkInv t := by
  cases a with
  | setIface name ifi =>
    cases ifi with
    | none =>
      cases h
      exact ⟨hs.poll, hs.debounce, hs.routed⟩
    | some ifi =>
      cases h
      exact ⟨hs.poll, hs.debounce, hs.routed⟩
  | poll fails =>
    cases h
    exact hs.pollStep fails
  | route m fails =>
    cases h
    exact ⟨hs.poll, hs.debounce, hs.routed⟩
  | mergePoll =>
    simp only [linkStep] at h
    split at h
    · cases h
    next ev rest hch =>
    cases h
    refine ⟨fun i => ?_, hs.debounce_passed ev, fun i => ?_⟩
    · have hpoll := hs.poll i
      rw [hch] at hpoll
      show Told (s.polled ++ [ev] ++ rest ++ s.place.unsent) i (s.memory i)
      rwa [List.append_assoc s.polled, List.singleton_append]
    · show lastOf (s.passed ++ [ev]) i =
        ((s.routed.erase ev.iface).lookup i).or (lastOf (s.polled ++ [ev]) i)
      rw [lastOf_append, lastOf_append, lastOf_singleton, hs.routed, GoMap.lookup_erase_ite]
      by_cases hi : ev.iface = i
      · simp [hi]
      · simp [hi, Ne.symm hi]
  | mergeRoute =>
    simp only [linkStep] at h
    split at h
    · cases h
    next ev rest hch =>
    cases h
    refine ⟨hs.poll, hs.debounce_passed ev, fun i => ?_⟩
    show lastOf (s.passed ++ [ev]) i = ((s.routed.insert ev.iface ev).lookup i).or
      (lastOf s.polled i)
    rw [lastOf_append, lastOf_singleton, hs.routed, GoMap.lookup_insert_ite]
    by_cases hi : ev.iface = i
    · simp [hi]
    · simp [hi, Ne.symm hi]
  | receive =>
    simp only [linkStep] at h
    split at h
    · cases h
    next ev rest hmerged =>
    cases h
    refine ⟨hs.poll, fun i => ?_, hs.routed⟩
    show lastOf s.passed i = ((lastOf rest i).or ((s.pending.insert ev.iface ev).lookup i)).or
      (s.delivered.lookup i)
    rw [hs.debounce, hmerged, lastOf_cons, GoMap.lookup_insert_ite]
    by_cases hi : ev.iface = i
    · simp [hi]
    · simp [hi, Ne.symm hi]
  | expire =>
    simp only [linkStep] at h
    split_ifs at h
    cases h
    refine ⟨hs.poll, fun i => ?_, hs.routed⟩
    show lastOf s.passed i = ((lastOf s.merged i).or ((∅ : GoMap String Event).lookup i)).or
      (((s.pending.keys.insertionSort (· ≤ ·)).foldl (deliver s.pending) s.delivered).lookup i)
    rw [hs.debounce, lookup_foldl_deliver, AList.lookup_empty, Option.or_none, Option.or_assoc]
    split_ifs with hi
    · rfl
    · rw [List.mem_insertionSort, GoMap.mem_keys_iff, ← Option.ne_none_iff_exists', not_not] at hi
      rw [hi, Option.none_or]

/-- Every run of the watch keeps `LinkInv`. -/
lemma linkInv_of_reach (h : linkWatch.Reach Machine.always s) : LinkInv s := by
  refine h.invariant ?_ (fun s a t hs _ ht => hs.step ht)
  rintro s rfl
  exact ⟨fun i => .inr ⟨rfl, rfl⟩, fun i => rfl, fun i => rfl⟩

/-! ## At rest -/

def truth (ifaces : GoMap String Iface) (i : String) : Option Bool :=
  (ifaces.lookup i).map fun f => passUp f.flags (some f.carrier)

/-- The rest of the loop that reads the carriers, if nothing changes meanwhile. -/
def readAll (ifaces : GoMap String Iface) (todo : List (String × Flags))
    (next : GoMap String Bool) : GoMap String Bool :=
  todo.foldl (fun next e => readCarrier ifaces e next) next

lemma lookup_readAll (ifaces : GoMap String Iface) (i : String) :
    (readAll ifaces (ifaces.entries.map fun e => (e.1, e.2.flags)) ∅).lookup i =
      truth ifaces i := by
  have hwrites : readAll ifaces (ifaces.entries.map fun e => (e.1, e.2.flags)) ∅ =
      GoMap.insertAll ∅
        (ifaces.entries.map fun e => (e.1, passUp e.2.flags (some e.2.carrier))) := by
    rw [readAll, GoMap.insertAll, List.foldl_map, List.foldl_map]
    refine List.foldl_ext _ _ _ ?_
    intro next e he
    rw [readCarrier, GoMap.lookup_of_mem_entries he]
    rfl
  rw [hwrites, GoMap.lookup_insertAll,
    GoMap.lastWrite_entries fun _ (f : Iface) => passUp f.flags (some f.carrier),
    AList.lookup_empty, Option.or_none]
  rfl

/-- The pass that goes on will find the interfaces as they are. -/
def LinkState.Finds (s : LinkState) : Prop :=
  match s.place with
  | .idle => True
  | .reading todo next => ∀ i, (readAll s.ifaces todo next).lookup i = truth s.ifaces i
  | .sending _ next => ∀ i, next.lookup i = truth s.ifaces i

/-- After `n` passes at the start of the rest: the next one begun finds the truth, and the one
completed after it has left it in the memory. -/
structure Calm (n : Nat) (s : LinkState) : Prop where
  finds : n < s.polls → s.Finds
  knows : n + 1 < s.polls → (∀ i, remembered s.last i = truth s.ifaces i) ∧ s.place.unsent = []

lemma Calm.pollStep (hs : Calm n s) : Calm n (pollStep s false) := by
  have hfinds := hs.finds
  have hknows := hs.knows
  unfold LinkState.Finds at hfinds
  unfold Linkwatch.pollStep
  split
  · next hplace => exact ⟨fun _ => lookup_readAll s.ifaces, fun h => ⟨(hknows h).1, rfl⟩⟩
  · next e todo next hplace =>
    rw [hplace] at hfinds
    exact ⟨hfinds, fun h => ⟨(hknows h).1, rfl⟩⟩
  · next next hplace =>
    rw [hplace] at hfinds
    refine ⟨hfinds, fun h => ⟨(hknows h).1, diff_eq_nil fun i => ?_⟩⟩
    exact ((hknows h).1 i).trans (hfinds (Nat.lt_of_succ_lt h) i).symm
  · next ev events next hplace =>
    rw [hplace] at hfinds hknows
    exact ⟨hfinds, fun h => by cases (hknows h).2⟩
  · next next hplace =>
    rw [hplace] at hfinds
    exact ⟨fun _ => trivial, fun h => ⟨hfinds (by simpa using h), rfl⟩⟩

lemma Calm.step {t : LinkState} {a : Label} (hs : Calm n s) (ha : calm s a)
    (h : linkStep s a = some t) : Calm n t := by
  cases a with
  | setIface _ _ | route _ _ => exact ha.elim
  | poll fails =>
    cases fails with
    | true => exact ha.elim
    | false =>
      cases h
      exact hs.pollStep
  | mergePoll | mergeRoute | receive =>
    simp only [linkStep] at h
    split at h
    · cases h
    · cases h
      exact ⟨hs.finds, hs.knows⟩
  | expire =>
    simp only [linkStep] at h
    split_ifs at h
    cases h
    exact ⟨hs.finds, hs.knows⟩

lemma told_truth (hinv : LinkInv s) (hcalm : Calm n s) (hpolls : n + 2 ≤ s.polls) (i : String) :
    Told (s.polled ++ s.pollCh) i (truth s.ifaces i) := by
  obtain ⟨hlast, hunsent⟩ := hcalm.knows (by omega)
  have hfinds := hcalm.finds (by omega)
  have htold := hinv.poll i
  rw [hunsent, List.append_nil] at htold
  have hmemory : s.memory i = truth s.ifaces i := by
    unfold LinkState.memory
    unfold LinkState.Finds at hfinds
    cases hplace : s.place with
    | sending events next =>
      rw [hplace] at hfinds
      exact hfinds i
    | idle | reading => exact hlast i
  rwa [← hmemory]

/-- The event says of the interface what the kernel does. -/
def Event.Holds (e : Event) (ifaces : GoMap String Iface) (i : String) : Prop :=
  (e.gone = true ↔ ifaces.lookup i = none) ∧ ∀ f, ifaces.lookup i = some f →
      (e.up = true ↔ linkUp f.flags = true ∧ f.carrier ≠ some false)

/-- The event made from the kernel's state is the true one. -/
lemma holds_eventOf (ifaces : GoMap String Iface) (i : String) :
    (eventOf i (truth ifaces i)).Holds ifaces i := by
  unfold Event.Holds truth
  cases ifaces.lookup i with
  | none => simp [eventOf, Event.vanished]
  | some f => simp [eventOf, Event.link, ← passUp_iff]

def sampleIface (carrier : Bool) : Iface := ⟨1, ⟨true, true⟩, some carrier⟩

/-- A pass over one interface, with its event and without one. -/
def passWithEvent : List Label := List.replicate 5 (.poll false)

def passWithout : List Label := List.replicate 4 (.poll false)

/-- Before the rest: a pass, the loss of the carrier and the pass that reports it. -/
def carrierLost : List Label :=
  .setIface "en0" (some (sampleIface true)) :: passWithEvent ++
    .setIface "en0" (some (sampleIface false)) :: passWithEvent

def addressAfterLoss : List Label :=
  carrierLost ++ [.route ⟨.newaddr, ⟨false, false⟩, 1⟩ false]

def afterHistory (history : List Label) : LinkState :=
  (linkWatch.run linkStart history).getD linkStart

lemma reach_afterHistory {history : List Label}
    (h : (linkWatch.run linkStart history).isSome = true) :
    linkWatch.Reach Machine.always (afterHistory history) := by
  obtain ⟨s, hs⟩ := Option.isSome_iff_exists.mp h
  rw [afterHistory, hs]
  exact .of_run history rfl (Machine.meets_always _ _) hs

instance (s : LinkState) (a : Label) : Decidable (calm s a) :=
  Label.casesOn a (fun _ _ => .isFalse id)
    (fun fails => Bool.casesOn fails (.isTrue trivial) (.isFalse id))
    (fun _ _ => .isFalse id) (.isTrue trivial) (.isTrue trivial) (.isTrue trivial) (.isTrue trivial)

instance (s : LinkState) : Decidable s.Settled := inferInstanceAs (Decidable (_ ∧ _))

end DarwinNet.Linkwatch
