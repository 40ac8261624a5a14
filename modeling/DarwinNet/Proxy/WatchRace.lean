import DarwinNet.Proxy.AntiEntropy

/-!
The goroutines of the watcher (`watch.go`, `antientropy.go`) in any interleaving
of their store reads, lock acquisitions, slice snapshots and port deliveries: the
Service handler, the EndpointSlice handler, and the goroutine of `Run`, which
applies the store once and then runs the anti-entropy passes.

An informer writes its store and queues a notification for its handler. All three
deliver a Service's ports under its reconcile stripe; a relist replaces the stores
while no handler is inside an event, and drops what was queued. The deliveries are
kept, oldest first, each with its task and the Services in view.

The last notification queued for a Service is always about the object the store
holds (`notesMatch_of_moves`).
-/

namespace DarwinNet.Proxy

open Lib Netip Api

/-! ## Stripes -/

def reconcileStripes : Nat := 32

/-- FNV-1a over the bytes of the key. -/
def fnv1a (s : String) : UInt32 :=
  s.toUTF8.data.toList.foldl (fun h b => (h ^^^ b.toUInt32) * 16777619) 2166136261

def serviceStripe (key : ObjectKey) : Fin reconcileStripes :=
  ⟨(fnv1a (key.ns ++ "/" ++ key.name)).toNat % 32, Nat.mod_lt _ (by decide)⟩

/-! ## Goroutines -/

inductive Goroutine
  | serviceHandler
  | sliceHandler
  | antiEntropy
  deriving DecidableEq, Repr

/-- What the Service handler is told: the new object, or the last one of a deleted
Service. -/
inductive ServiceNote
  | changed (svc : Service)
  | deleted (svc : Service)
  deriving DecidableEq

inductive Task
  /-- `reconcileService`, with the object it was given. -/
  | reconcile (svc : Service)
  /-- `deleteServicePorts` from `onServiceDelete`. -/
  | teardown (svc : Service)
  /-- `deleteServicePorts` from `relist`. -/
  | relistDelete (svc : Service)
  | repair (key : ObjectKey) (ds : List Divergence)
  deriving DecidableEq

inductive Job
  | idle
  | waiting (task : Task)
  | locked (task : Task)
  | calling (task : Task) (todo : List PortCall)
  deriving DecidableEq

/-- The goroutine of `Run`, apart from its current task. -/
inductive EntropyPhase
  | idle
  /-- `antiEntropyPass` after its comparison: the Services to settle from the store,
  then those to repair, then perhaps a relist. -/
  | pass (live : LiveLists) (settle : List Service)
    (repairs : List (ObjectKey × List Divergence)) (mayRelist : Bool)
  /-- `relist` after the swap, with the Services of the old store. -/
  | swapped (old : List Service)
  | deleting (todo : List Service)
  /-- `applyStore`. -/
  | applying (todo : List Service)

def ServiceNote.key : ServiceNote → ObjectKey
  | .changed svc => svc.key
  | .deleted svc => svc.key

/-- The object the store holds once it has been written. -/
def ServiceNote.stored : ServiceNote → Option Service
  | .changed svc => some svc
  | .deleted _ => none

def ServiceNote.task : ServiceNote → Task
  | .changed svc => .reconcile svc
  | .deleted svc => .teardown svc

def Task.owner : Task → ObjectKey
  | .reconcile svc => svc.key
  | .teardown svc => svc.key
  | .relistDelete svc => svc.key
  | .repair key _ => key

@[simp]
lemma ServiceNote.owner_task (n : ServiceNote) : n.task.owner = n.key := by
  cases n <;> rfl

/-- The task returns before it takes the lock unless this holds. -/
def Task.Served (api : Netv1) : Task → Prop
  | .reconcile svc | .teardown svc | .relistDelete svc => (serviceToVIP api svc).isSome = true
  | .repair _ _ => True

instance (api : Netv1) (t : Task) : Decidable (t.Served api) :=
  match t with
  | .reconcile svc | .teardown svc | .relistDelete svc =>
    inferInstanceAs (Decidable ((serviceToVIP api svc).isSome = true))
  | .repair _ _ => isTrue trivial

def Job.holding : Job → Option Task
  | .idle | .waiting _ => none
  | .locked t | .calling t _ => some t

def Job.task : Job → Option Task
  | .idle => none
  | .waiting t | .locked t | .calling t _ => some t

structure Delivery where
  task : Task
  call : PortCall
  /-- The Services in the store, for a repair those in its live view. -/
  seen : List Service

structure WatchRace where
  services : GoMap ObjectKey Service
  slices : GoMap ObjectKey EndpointSlice
  service_key : ∀ k svc, services.lookup k = some svc → svc.key = k
  notes : List ServiceNote
  sliceNotes : List EndpointSlice
  job : Goroutine → Job
  entropy : EntropyPhase
  repairedFromLive : List ObjectKey
  log : List Delivery
  gone : GoMap ObjectKey Service

/-- A synced informer set at the moment it is swapped in, with the notifications
its handlers have not been given yet and the Services the old store ends with. -/
structure FreshSet where
  services : GoMap ObjectKey Service
  slices : GoMap ObjectKey EndpointSlice
  service_key : ∀ k svc, services.lookup k = some svc → svc.key = k
  notes : List ServiceNote
  sliceNotes : List EndpointSlice
  old : List Service

inductive RaceStep
  | setService (svc : Service)
  | deleteService (key : ObjectKey)
  | setSlice (sl : EndpointSlice)
  | deleteSlice (key : ObjectKey)
  | takeService
  | takeSlice
  | acquire (g : Goroutine)
  | read (g : Goroutine)
  | call (g : Goroutine)
  | release (g : Goroutine)
  | startPass (live : LiveLists) (settle : List ObjectKey)
    (repairs : List (ObjectKey × List Divergence))
  | settleNext
  | repairNext
  | endPass
  | swap (fresh : FreshSet)
  | relistView
  | deleteNext
  | applyStore (order : List Service)
  | applyNext
  | endRelist

def lastNote (notes : List ServiceNote) (key : ObjectKey) : Option ServiceNote :=
  GoMap.lastWrite key (notes.map fun n => (n.key, n))

/-- Every last notification is about the object the store holds. -/
def NotesMatch (services : GoMap ObjectKey Service) (notes : List ServiceNote) : Prop :=
  ∀ n ∈ notes, (lastNote notes n.key).map (·.stored) = some (services.lookup n.key)

instance (services : GoMap ObjectKey Service) (notes : List ServiceNote) :
    Decidable (NotesMatch services notes) :=
  inferInstanceAs (Decidable (∀ n ∈ notes, _ = _))

section

variable (api : Netv1) (static : StaticBackends)

namespace WatchRace

def setJob (s : WatchRace) (g : Goroutine) (j : Job) : WatchRace :=
  { s with job := Function.update s.job g j }

def withLog (s : WatchRace) (log : List Delivery) : WatchRace := { s with log := log }

def setEntropy (s : WatchRace) (e : EntropyPhase) : WatchRace := { s with entropy := e }

/-- Enter `reconcileService`, `deleteServicePorts` or `repairService`. -/
def begin (s : WatchRace) (g : Goroutine) (t : Task) : WatchRace :=
  if t.Served api then s.setJob g (.waiting t) else s

/-- No goroutine holds the stripe. -/
def Free (s : WatchRace) (key : ObjectKey) : Prop :=
  ∀ g ∈ [Goroutine.serviceHandler, .sliceHandler, .antiEntropy],
    ∀ t ∈ (s.job g).holding, serviceStripe t.owner ≠ serviceStripe key

instance (s : WatchRace) (key : ObjectKey) : Decidable (s.Free key) :=
  inferInstanceAs (Decidable (∀ g ∈ [_, _, _], ∀ t ∈ (s.job g).holding, _))

/-! ## The informers -/

def putService (s : WatchRace) (svc : Service) : WatchRace :=
  { s with
    services := s.services.insert svc.key svc
    service_key := keyed_insert s.service_key rfl
    notes := s.notes ++ [.changed svc] }

def dropService (s : WatchRace) (key : ObjectKey) (old : Service) : WatchRace :=
  { s with
    services := s.services.erase key
    service_key := keyed_erase s.service_key key
    notes := s.notes ++ [.deleted old]
    gone := s.gone.insert key old }

def putSlice (s : WatchRace) (sl : EndpointSlice) : WatchRace :=
  { s with slices := s.slices.insert sl.key sl, sliceNotes := s.sliceNotes ++ [sl] }

def dropSlice (s : WatchRace) (key : ObjectKey) (old : EndpointSlice) : WatchRace :=
  { s with slices := s.slices.erase key, sliceNotes := s.sliceNotes ++ [old] }

/-! ## The handlers -/

/-- `onService` or `onServiceDelete` with the next notification. -/
def takeNote (s : WatchRace) (n : ServiceNote) (rest : List ServiceNote) : WatchRace :=
  { s with notes := rest }.begin api .serviceHandler n.task

/-- `onSlice` up to its lock: the Service is read from the store. -/
def takeSliceNote (s : WatchRace) (sl : EndpointSlice) (rest : List EndpointSlice) : WatchRace :=
  let s' := { s with sliceNotes := rest }
  if sl.serviceName = "" then s'
  else match s.services.lookup sl.owner with
    | none => s'
    | some svc => s'.begin api .sliceHandler (.reconcile svc)

/-! ## Under the stripe -/

def skips (s : WatchRace) : Task → Bool
  | .repair key _ => match s.entropy with
    | .pass live _ _ _ => storeNewerThan s.services s.slices key (listLive live)
    | _ => true
  | _ => false

/-- The calls of a task, fixed when it reads the slice store or the live view. -/
def taskCalls (s : WatchRace) : Task → List PortCall
  | .reconcile svc => applyCalls api static svc (slicesForService (storeList s.slices) svc.key)
  | .teardown svc | .relistDelete svc => deleteCalls api svc
  | .repair key ds => match s.entropy with
    | .pass live _ _ _ =>
      if s.skips (.repair key ds) then [] else repairCalls api static key (listLive live) ds
    | _ => []

def seenBy (s : WatchRace) : Task → List Service
  | .repair _ _ => match s.entropy with
    | .pass live _ _ _ => storeList (listLive live).svcs
    | _ => []
  | _ => storeList s.services

/-- `repairedFromLive` after the check of a repair; only its own goroutine reads it. -/
def markRepaired (s : WatchRace) : Task → List ObjectKey
  | .repair key ds => if s.skips (.repair key ds) then s.repairedFromLive
    else s.repairedFromLive.insert key
  | _ => s.repairedFromLive

def readTask (s : WatchRace) (g : Goroutine) (t : Task) : WatchRace :=
  { s.setJob g (.calling t (s.taskCalls api static t)) with
    repairedFromLive := s.markRepaired t }

def callPort (s : WatchRace) (g : Goroutine) (t : Task) (c : PortCall) (todo : List PortCall) :
    WatchRace :=
  (s.setJob g (.calling t todo)).withLog (s.log ++ [⟨t, c, s.seenBy t⟩])

/-! ## Anti-entropy -/

/-- A pass from its comparison on. The two loops over maps run in any order. -/
def startPass (s : WatchRace) (l : LiveLists) (settle : List ObjectKey)
    (repairs : List (ObjectKey × List Divergence)) : Option WatchRace :=
  let store := storeView s.services s.slices
  let divs := divergences api static (listLive l) store
  let still := fun k => k ∈ divs.map Prod.fst
  if settle.Perm (s.repairedFromLive.filter fun k => ¬ still k) ∧ repairs.Perm divs then
    let withheld := breakerTripped api static (listLive l) store divs
    some { s with
      repairedFromLive := s.repairedFromLive.filter fun k => still k
      entropy := .pass l (settle.filterMap store.svcs.lookup) (if withheld then [] else repairs)
        (divs ≠ []) }
  else none

/-- The swap. Events of the old set that were not handled yet are dropped. -/
def swapSet (s : WatchRace) (fresh : FreshSet) : WatchRace :=
  { s with
    services := fresh.services
    slices := fresh.slices
    service_key := fresh.service_key
    notes := fresh.notes
    sliceNotes := fresh.sliceNotes
    entropy := .swapped fresh.old }

/-- The swap waits for the handlers to leave their events. The notifications left
of the new set are about its own store. -/
def CanSwap (s : WatchRace) (fresh : FreshSet) : Prop :=
  (s.job .serviceHandler).task = none ∧ (s.job .sliceHandler).task = none ∧
    NotesMatch fresh.services fresh.notes

instance (s : WatchRace) (fresh : FreshSet) : Decidable (s.CanSwap fresh) :=
  inferInstanceAs (Decidable (_ = _ ∧ _ = _ ∧ _))

def entropyStep (s : WatchRace) : RaceStep → Option WatchRace
  | .startPass l settle repairs => match s.entropy with
    | .idle => s.startPass api static l settle repairs
    | _ => none
  | .settleNext => match s.entropy with
    | .pass l (svc :: rest) repairs r =>
      some ((s.setEntropy (.pass l rest repairs r)).begin api .antiEntropy (.reconcile svc))
    | _ => none
  | .repairNext => match s.entropy with
    | .pass l [] ((key, ds) :: rest) r =>
      some ((s.setEntropy (.pass l [] rest r)).begin api .antiEntropy (.repair key ds))
    | _ => none
  | .endPass => match s.entropy with
    | .pass _ [] [] _ => some (s.setEntropy .idle)
    | _ => none
  | .swap fresh => match s.entropy with
    | .pass _ [] [] true => if s.CanSwap fresh then some (s.swapSet fresh) else none
    | _ => none
  | .relistView => match s.entropy with
    | .swapped old =>
      some (s.setEntropy (.deleting (old.filter fun svc => (s.services.lookup svc.key).isNone)))
    | _ => none
  | .deleteNext => match s.entropy with
    | .deleting (svc :: rest) =>
      some ((s.setEntropy (.deleting rest)).begin api .antiEntropy (.relistDelete svc))
    | _ => none
  | .applyStore order => match s.entropy with
    | .deleting [] =>
      if order.Perm (storeList s.services) then some (s.setEntropy (.applying order)) else none
    | _ => none
  | .applyNext => match s.entropy with
    | .applying (svc :: rest) =>
      some ((s.setEntropy (.applying rest)).begin api .antiEntropy (.reconcile svc))
    | _ => none
  | .endRelist => match s.entropy with
    | .applying [] => some { s.setEntropy .idle with repairedFromLive := [] }
    | _ => none
  | _ => none

def step (s : WatchRace) : RaceStep → Option WatchRace
  | .setService svc => some (s.putService svc)
  | .deleteService key => (s.services.lookup key).map fun old => s.dropService key old
  | .setSlice sl => some (s.putSlice sl)
  | .deleteSlice key => (s.slices.lookup key).map fun old => s.dropSlice key old
  | .takeService => match s.job .serviceHandler, s.notes with
    | .idle, n :: rest => some (s.takeNote api n rest)
    | _, _ => none
  | .takeSlice => match s.job .sliceHandler, s.sliceNotes with
    | .idle, sl :: rest => some (s.takeSliceNote api sl rest)
    | _, _ => none
  | .acquire g => match s.job g with
    | .waiting t => if s.Free t.owner then some (s.setJob g (.locked t)) else none
    | _ => none
  | .read g => match s.job g with
    | .locked t => some (s.readTask api static g t)
    | _ => none
  | .call g => match s.job g with
    | .calling t (c :: todo) => some (s.callPort g t c todo)
    | _ => none
  | .release g => match s.job g with
    | .calling _ [] => some (s.setJob g .idle)
    | _ => none
  | a => match s.job .antiEntropy with
    | .idle => s.entropyStep api static a
    | _ => none

end WatchRace

/-- The goroutine of `Run` starts with `applyStore` on its first informer set. -/
def watchRaceStart : WatchRace where
  services := ∅
  slices := ∅
  service_key := keyed_empty
  notes := []
  sliceNotes := []
  job _ := .idle
  entropy := .deleting []
  repairedFromLive := []
  log := []
  gone := ∅

def watchRaceMachine : Machine WatchRace RaceStep where
  init s := s = watchRaceStart
  step s a := s.step api static a

end

/-! ## What a step leaves alone -/

section

variable {api : Netv1} {static : StaticBackends} {s s' : WatchRace} {g g' : Goroutine} {t : Task}

namespace WatchRace

@[simp]
lemma setJob_self (j : Job) : (s.setJob g j).job g = j := by
  simp [setJob]

lemma setJob_ne (j : Job) (h : g' ≠ g) : (s.setJob g j).job g' = s.job g' := by
  simp [setJob, h]

lemma begin_frame (api : Netv1) (s : WatchRace) (g : Goroutine) (t : Task) :
    (s.begin api g t).services = s.services ∧ (s.begin api g t).notes = s.notes ∧
      (s.begin api g t).log = s.log ∧ (s.begin api g t).entropy = s.entropy ∧
      (s.begin api g t).gone = s.gone := by
  unfold begin
  split_ifs <;> exact ⟨rfl, rfl, rfl, rfl, rfl⟩

lemma begin_job_self (h : t.Served api) : (s.begin api g t).job g = .waiting t := by
  rw [begin, if_pos h, setJob_self]

lemma begin_job_ne (h : g' ≠ g) : (s.begin api g t).job g' = s.job g' := by
  unfold begin
  split_ifs
  · exact setJob_ne _ h
  · rfl

lemma begin_job (api : Netv1) (t : Task) (hidle : s.job g = .idle) :
    (s.begin api g t).job g = .waiting t ∧ t.Served api ∨
      (s.begin api g t).job g = .idle ∧ ¬ t.Served api := by
  by_cases h : t.Served api
  · exact .inl ⟨begin_job_self h, h⟩
  · exact .inr ⟨by rw [begin, if_neg h, hidle], h⟩

end WatchRace

end

/-! ## What a step does -/

section

variable (api : Netv1) (static : StaticBackends)

inductive WatchRace.Moves (s : WatchRace) : RaceStep → WatchRace → Prop
  | setService (svc : Service) : Moves s (.setService svc) (s.putService svc)
  | deleteService {key : ObjectKey} {old : Service} (hold : s.services.lookup key = some old) :
    Moves s (.deleteService key) (s.dropService key old)
  | setSlice (sl : EndpointSlice) : Moves s (.setSlice sl) (s.putSlice sl)
  | deleteSlice {key : ObjectKey} {old : EndpointSlice} :
    Moves s (.deleteSlice key) (s.dropSlice key old)
  | takeService {n : ServiceNote} {rest : List ServiceNote}
    (hjob : s.job .serviceHandler = .idle) (hnotes : s.notes = n :: rest) :
    Moves s .takeService (s.takeNote api n rest)
  | takeSlice {sl : EndpointSlice} {rest : List EndpointSlice}
    (hjob : s.job .sliceHandler = .idle) : Moves s .takeSlice (s.takeSliceNote api sl rest)
  | acquire {g : Goroutine} {t : Task} (hjob : s.job g = .waiting t) (hfree : s.Free t.owner) :
    Moves s (.acquire g) (s.setJob g (.locked t))
  | read {g : Goroutine} {t : Task} (hjob : s.job g = .locked t) :
    Moves s (.read g) (s.readTask api static g t)
  | call {g : Goroutine} {t : Task} {c : PortCall} {todo : List PortCall}
    (hjob : s.job g = .calling t (c :: todo)) : Moves s (.call g) (s.callPort g t c todo)
  | release {g : Goroutine} {t : Task} (hjob : s.job g = .calling t []) :
    Moves s (.release g) (s.setJob g .idle)
  | startPass {l : LiveLists} {settle : List ObjectKey}
    {repairs repairs' : List (ObjectKey × List Divergence)} {todo : List Service} {r : Bool}
    {repaired : List ObjectKey}
    (hjob : s.job .antiEntropy = .idle) (he : s.entropy = .idle) :
    Moves s (.startPass l settle repairs)
      { s with repairedFromLive := repaired, entropy := .pass l todo repairs' r }
  | settleNext {l : LiveLists} {svc : Service} {rest : List Service}
    {repairs : List (ObjectKey × List Divergence)} {r : Bool}
    (hjob : s.job .antiEntropy = .idle) (he : s.entropy = .pass l (svc :: rest) repairs r) :
    Moves s .settleNext
      ((s.setEntropy (.pass l rest repairs r)).begin api .antiEntropy (.reconcile svc))
  | repairNext {l : LiveLists} {key : ObjectKey} {ds : List Divergence}
    {rest : List (ObjectKey × List Divergence)} {r : Bool}
    (hjob : s.job .antiEntropy = .idle) (he : s.entropy = .pass l [] ((key, ds) :: rest) r) :
    Moves s .repairNext
      ((s.setEntropy (.pass l [] rest r)).begin api .antiEntropy (.repair key ds))
  | endPass {l : LiveLists} {r : Bool} (hjob : s.job .antiEntropy = .idle)
    (he : s.entropy = .pass l [] [] r) : Moves s .endPass (s.setEntropy .idle)
  | swap {l : LiveLists} {fresh : FreshSet} (hjob : s.job .antiEntropy = .idle)
    (he : s.entropy = .pass l [] [] true) (hcan : s.CanSwap fresh) :
    Moves s (.swap fresh) (s.swapSet fresh)
  | relistView {old todo : List Service} (hjob : s.job .antiEntropy = .idle)
    (he : s.entropy = .swapped old) : Moves s .relistView (s.setEntropy (.deleting todo))
  | deleteNext {svc : Service} {rest : List Service} (hjob : s.job .antiEntropy = .idle)
    (he : s.entropy = .deleting (svc :: rest)) :
    Moves s .deleteNext
      ((s.setEntropy (.deleting rest)).begin api .antiEntropy (.relistDelete svc))
  | applyStore {order : List Service} (hjob : s.job .antiEntropy = .idle)
    (he : s.entropy = .deleting []) (horder : order.Perm (storeList s.services)) :
    Moves s (.applyStore order) (s.setEntropy (.applying order))
  | applyNext {svc : Service} {rest : List Service} (hjob : s.job .antiEntropy = .idle)
    (he : s.entropy = .applying (svc :: rest)) :
    Moves s .applyNext
      ((s.setEntropy (.applying rest)).begin api .antiEntropy (.reconcile svc))
  | endRelist (hjob : s.job .antiEntropy = .idle) (he : s.entropy = .applying []) :
    Moves s .endRelist { s.setEntropy .idle with repairedFromLive := [] }

variable {api static}

lemma WatchRace.moves_of_entropyStep {s s' : WatchRace} {a : RaceStep}
    (hjob : s.job .antiEntropy = .idle) (h : s.entropyStep api static a = some s') :
    s.Moves api static a s' := by
  cases a <;> simp only [entropyStep, WatchRace.startPass] at h <;> (repeat' split at h) <;> cases h
  next he _ _ => exact .startPass hjob he
  next he _ _ => exact .startPass hjob he
  next he => exact .settleNext hjob he
  next he => exact .repairNext hjob he
  next he => exact .endPass hjob he
  next he hcan => exact .swap hjob he hcan
  next he => exact .relistView hjob he
  next he => exact .deleteNext hjob he
  next he horder => exact .applyStore hjob he horder
  next he => exact .applyNext hjob he
  next he => exact .endRelist hjob he

/-- What one step of the race can do. -/
lemma WatchRace.moves_of_step {s s' : WatchRace} {a : RaceStep}
    (h : s.step api static a = some s') : s.Moves api static a s' := by
  cases a <;> simp only [step] at h
  case setService svc =>
    cases h
    exact .setService svc
  case deleteService key =>
    obtain ⟨old, hold, rfl⟩ := Option.map_eq_some_iff.mp h
    exact .deleteService hold
  case setSlice sl =>
    cases h
    exact .setSlice sl
  case deleteSlice key =>
    obtain ⟨old, -, rfl⟩ := Option.map_eq_some_iff.mp h
    exact .deleteSlice
  all_goals (repeat' split at h) <;> try cases h
  next hjob hnotes => exact .takeService hjob hnotes
  next hjob _ => exact .takeSlice hjob
  next hjob hfree => exact .acquire hjob hfree
  next hjob => exact .read hjob
  next hjob => exact .call hjob
  next hjob => exact .release hjob
  all_goals next hjob => exact moves_of_entropyStep hjob h

end

/-! ## Notifications -/

section

variable {services : GoMap ObjectKey Service} {notes : List ServiceNote} {n : ServiceNote}
  {key : ObjectKey}

lemma lastNote_append (notes : List ServiceNote) (n : ServiceNote) (key : ObjectKey) :
    lastNote (notes ++ [n]) key = if n.key = key then some n else lastNote notes key := by
  rw [lastNote, List.map_append, GoMap.lastWrite_append]
  by_cases h : n.key = key
  · simp [GoMap.lastWrite, h]
  · simp [GoMap.lastWrite, h, lastNote]

lemma lastNote_cons (notes : List ServiceNote) (n : ServiceNote) (key : ObjectKey) :
    lastNote (n :: notes) key =
      (lastNote notes key).or (if n.key = key then some n else none) := rfl

lemma mem_of_lastNote (h : lastNote notes key = some n) : n ∈ notes ∧ n.key = key := by
  obtain ⟨m, hm, heq⟩ := List.mem_map.mp (GoMap.mem_of_lastWrite h)
  cases heq
  exact ⟨hm, rfl⟩

lemma lastNote_ne_none (h : n ∈ notes) : lastNote notes n.key ≠ none := by
  rw [lastNote, Ne, GoMap.lastWrite_eq_none_iff, not_not, List.map_map]
  exact List.mem_map.mpr ⟨n, h, rfl⟩

lemma NotesMatch.stored (h : NotesMatch services notes) (hn : lastNote notes key = some n) :
    services.lookup key = n.stored := by
  obtain ⟨hmem, rfl⟩ := mem_of_lastNote hn
  have hmatch := h n hmem
  rw [hn, Option.map_some] at hmatch
  exact (Option.some.inj hmatch).symm

/-- The last notification of a Service says what is stored. -/
lemma notesMatch_iff : NotesMatch services notes ↔
    ∀ key n, lastNote notes key = some n → services.lookup key = n.stored := by
  constructor
  · exact fun h key n => h.stored
  · intro h n hn
    obtain ⟨m, hm⟩ := Option.ne_none_iff_exists'.mp (lastNote_ne_none hn)
    rw [hm, h n.key m hm, Option.map_some]

lemma NotesMatch.append (h : NotesMatch services notes) {services' : GoMap ObjectKey Service}
    (hn : services'.lookup n.key = n.stored)
    (hother : ∀ k, k ≠ n.key → services'.lookup k = services.lookup k) :
    NotesMatch services' (notes ++ [n]) := by
  rw [notesMatch_iff]
  intro k m hm
  rw [lastNote_append] at hm
  split_ifs at hm with hk
  · cases hm
    rw [← hk, hn]
  · rw [hother k (Ne.symm hk)]
    exact h.stored hm

lemma NotesMatch.tail (h : NotesMatch services (n :: notes)) : NotesMatch services notes := by
  rw [notesMatch_iff]
  intro k m hm
  exact h.stored (by rw [lastNote_cons, hm, Option.some_or])

lemma NotesMatch.head (h : NotesMatch services (n :: notes))
    (hlast : lastNote notes n.key = none) : services.lookup n.key = n.stored :=
  h.stored (by rw [lastNote_cons, hlast, Option.none_or, if_pos rfl])

end

section

variable {api : Netv1} {static : StaticBackends} {s s' : WatchRace} {a : RaceStep}

namespace WatchRace

lemma takeNote_frame (api : Netv1) (s : WatchRace) (n : ServiceNote) (rest : List ServiceNote) :
    (s.takeNote api n rest).services = s.services ∧ (s.takeNote api n rest).notes = rest ∧
      (s.takeNote api n rest).log = s.log ∧ (s.takeNote api n rest).entropy = s.entropy ∧
      (s.takeNote api n rest).gone = s.gone :=
  begin_frame api { s with notes := rest } .serviceHandler n.task

lemma takeSliceNote_cases (api : Netv1) (s : WatchRace) (sl : EndpointSlice)
    (rest : List EndpointSlice) : s.takeSliceNote api sl rest = { s with sliceNotes := rest } ∨
      ∃ svc, s.takeSliceNote api sl rest =
        { s with sliceNotes := rest }.begin api .sliceHandler (.reconcile svc) := by
  unfold takeSliceNote
  split_ifs
  · exact .inl rfl
  · cases s.services.lookup sl.owner with
    | none => exact .inl rfl
    | some svc => exact .inr ⟨svc, rfl⟩

lemma takeSliceNote_frame (api : Netv1) (s : WatchRace) (sl : EndpointSlice)
    (rest : List EndpointSlice) : (s.takeSliceNote api sl rest).services = s.services ∧
      (s.takeSliceNote api sl rest).notes = s.notes ∧
      (s.takeSliceNote api sl rest).log = s.log ∧
      (s.takeSliceNote api sl rest).entropy = s.entropy ∧
      (s.takeSliceNote api sl rest).gone = s.gone := by
  rcases s.takeSliceNote_cases api sl rest with h | ⟨svc, h⟩ <;> rw [h]
  · exact ⟨rfl, rfl, rfl, rfl, rfl⟩
  · exact begin_frame api { s with sliceNotes := rest } .sliceHandler (.reconcile svc)

lemma takeSliceNote_job_ne {sl : EndpointSlice} {rest : List EndpointSlice} {g : Goroutine}
    (hg : g ≠ .sliceHandler) : (s.takeSliceNote api sl rest).job g = s.job g := by
  rcases s.takeSliceNote_cases api sl rest with h | ⟨svc, h⟩ <;> rw [h]
  exact begin_job_ne hg

lemma takeSliceNote_job (api : Netv1) (sl : EndpointSlice) (rest : List EndpointSlice)
    (hidle : s.job .sliceHandler = .idle) :
    (s.takeSliceNote api sl rest).job .sliceHandler = .idle ∨
      ∃ svc, (s.takeSliceNote api sl rest).job .sliceHandler = .waiting (.reconcile svc) := by
  rcases s.takeSliceNote_cases api sl rest with h | ⟨svc, h⟩ <;> rw [h]
  · exact .inl hidle
  rcases begin_job (s := { s with sliceNotes := rest }) api (.reconcile svc) hidle with
    ⟨hw, -⟩ | ⟨hi, -⟩
  · exact .inr ⟨svc, hw⟩
  · exact .inl hi

lemma notesMatch_of_moves (h : NotesMatch s.services s.notes) (hm : s.Moves api static a s') :
    NotesMatch s'.services s'.notes := by
  cases hm with
  | setService svc =>
    exact h.append (AList.lookup_insert _) fun k hk => AList.lookup_insert_ne hk
  | @deleteService key old hold =>
    have hkey := s.service_key key old hold
    refine h.append ?_ fun k hk => AList.lookup_erase_ne (hkey ▸ hk)
    exact hkey ▸ AList.lookup_erase _ _
  | takeService hjob hnotes =>
    rw [(s.takeNote_frame api _ _).1, (s.takeNote_frame api _ _).2.1]
    rw [hnotes] at h
    exact h.tail
  | takeSlice hjob =>
    rw [(s.takeSliceNote_frame api _ _).1, (s.takeSliceNote_frame api _ _).2.1]
    exact h
  | settleNext | repairNext | deleteNext | applyNext =>
    rw [(begin_frame api _ _ _).1, (begin_frame api _ _ _).2.1]
    exact h
  | swap hjob he hcan => exact hcan.2.2
  | setSlice | deleteSlice | acquire | read | call | release | startPass | endPass | relistView
  | applyStore | endRelist => exact h

end WatchRace

end

end DarwinNet.Proxy
