import DarwinNet.Netd.Server

/-!
The interconnect aliases on bridge0 over the daemon's life (`interconnect.go`): the two verbs and
the reconcile at start, with bridge0 itself and the persisted ledger.

Slot 0 carries the connected route that the other slots ride on. It is kept while an owned alias
rides it, except by the repair of a wrong netmask: that removes slot 0 first, and when the add
after it fails the riders are left without it (`riders_keep_slot_zero`).

The verbs hold `s.icMu` from their first read to their end, so each is one step; the identity is
fixed, so a slot has one address. The ledger is written whenever ownership changes.
-/

namespace DarwinNet.Netd

open Lib Netip

/-! ## The daemon and bridge0 -/

/-- The addresses `netv1alpha1` derives for a node: one for each slot, and no two alike. -/
structure SlotTable where
  address : Int → Addr
  maxSlot : Nat
  cidrBits : Nat
  injective : ∀ slot slot' : Int, 0 ≤ slot → slot ≤ maxSlot → 0 ≤ slot' → slot' ≤ maxSlot →
    address slot = address slot' → slot = slot'

namespace SlotTable

variable (T : SlotTable)

def InRange (slot : Int) : Prop := 0 ≤ slot ∧ slot ≤ T.maxSlot

instance decidableInRange (slot : Int) : Decidable (T.InRange slot) :=
  inferInstanceAs (Decidable (_ ∧ _))

def bits (slot : Int) : Int := if slot = 0 then T.cidrBits else 32

def slots : List Int := ((List.range (T.maxSlot + 1)).map Int.ofNat).reverse

end SlotTable

inductive IcCall
  | read (r : BridgeRead)
  | add (addr : Addr) (bits : Int) (ok : Bool)
  | remove (addr : Addr) (ok : Bool)

/-- The daemon's interconnect state with bridge0 (`none` where there is none) and the ledger.
`rode` has the slots whose last ensure found slot 0's address on bridge0, `calls` the calls of the
last operation. -/
structure BridgeState where
  bridge : Option (GoMap Addr Int)
  owned : GoMap Int Addr
  ledger : GoMap Int Addr
  rode : Finset Int
  calls : List IcCall

namespace BridgeState

variable (w : BridgeState)

def on (addr : Addr) : Option Int := w.bridge.bind (·.lookup addr)

def read (failed : Bool) : BridgeRead :=
  if failed then .unreadable
  else match w.bridge with
    | none => .noBridge
    | some m => .addrs (m.entries.map fun e => (e.1, e.2))

def put (addr : Addr) (bits : Int) : BridgeState :=
  { w with bridge := w.bridge.map (·.insert addr bits) }

def drop (addr : Addr) : BridgeState := { w with bridge := w.bridge.map (·.erase addr) }

/-- `setOwned` and `dropOwned`, with `persistInterconnect`. -/
def setOwned (slot : Int) (addr : Addr) : BridgeState :=
  { w with owned := w.owned.insert slot addr, ledger := w.owned.insert slot addr }

def dropOwned (slot : Int) : BridgeState :=
  { w with owned := w.owned.erase slot, ledger := w.owned.erase slot }

def did (calls : List IcCall) : BridgeState := { w with calls := calls }

end BridgeState

structure IcFailures where
  read : Bool := false
  remove : Bool := false
  add : Bool := false
  reread : Bool := false

section Verbs

variable (T : SlotTable) (w : BridgeState)

def ensured (slot : Int) : BridgeState :=
  { w.setOwned slot (T.address slot) with
    rode := if (w.on (T.address 0)).isSome then insert slot w.rode else w.rode.erase slot }

def handleEnsureInterconnectAlias (slot : Int) (f : IcFailures) : BridgeState :=
  if ¬ T.InRange slot then w.did []
  else
    let addr := T.address slot
    let bits := T.bits slot
    match w.read f.read with
    | .noBridge => w.did [.read .noBridge]
    | .unreadable => w.did [.read .unreadable]
    | .addrs present =>
      match present.lookup addr with
      | some have_ =>
        if slot = 0 ∧ have_ ≠ bits then
          if f.remove then w.did [.read (.addrs present), .remove addr false]
          else if f.add then
            (w.drop addr).did [.read (.addrs present), .remove addr true, .add addr bits false]
          else (ensured T ((w.drop addr).put addr bits) slot).did
            [.read (.addrs present), .remove addr true, .add addr bits true]
        else (ensured T w slot).did [.read (.addrs present)]
      | none =>
        if f.add then w.did [.read (.addrs present), .add addr bits false]
        else (ensured T (w.put addr bits) slot).did
          [.read (.addrs present), .add addr bits true]

def handleRemoveInterconnectAlias (slot : Int) (f : IcFailures) : BridgeState :=
  if ¬ T.InRange slot then w.did []
  else
    let addr := T.address slot
    if w.owned.lookup slot ≠ some addr then w.did []
    else if slot = 0 ∧ w.owned.keys.any (fun slot => slot ≠ 0) then w.did []
    else
      let here := w.read f.read
      match bridgeHas here addr with
      | none => w.did [.read here]
      | some false => (w.dropOwned slot).did [.read here]
      | some true =>
        if f.remove then
          let still := w.read f.reread
          match bridgeHas still addr with
          | some false =>
            (w.dropOwned slot).did [.read here, .remove addr false, .read still]
          | _ => w.did [.read here, .remove addr false, .read still]
        else ((w.drop addr).dropOwned slot).did [.read here, .remove addr true]

/-! ## The reconcile at start -/

/-- `restoreInterconnect`: the ledger's entries that are this node's. -/
def restoreInterconnect (ledgerFailed : Bool) : GoMap Int Addr :=
  if ledgerFailed then ∅
  else GoMap.insertAll ∅ ((w.ledger.entries.map fun e => (e.1, e.2)).filter fun e =>
    decide (T.InRange e.1 ∧ e.2 = T.address e.1))

def ownsRider (owned : GoMap Int Addr) (present : List (Addr × Int)) : Bool :=
  owned.entries.any fun e => e.1 ≠ 0 && (present.lookup e.2).isSome

/-- One round of the loop over the slots. -/
def reconcileSlot (owned : GoMap Int Addr) (present : List (Addr × Int))
    (removeFailed : Finset Int) (w : BridgeState) (slot : Int) : BridgeState :=
  let addr := T.address slot
  if (present.lookup addr).isNone then w
  else if (owned.lookup slot).isSome then w
  else if slot = 0 ∧ ownsRider owned present = true then w
  else if slot ∈ removeFailed then w.did (w.calls ++ [.remove addr false])
  else (w.drop addr).did (w.calls ++ [.remove addr true])

/-- A new daemon and its `reconcileInterconnectAtStart`. -/
def restart (ledgerFailed readFailed : Bool) (removeFailed : Finset Int) : BridgeState :=
  let owned := restoreInterconnect T w ledgerFailed
  let w' := { w with owned := owned, ledger := owned, calls := [.read (w.read readFailed)] }
  match w.read readFailed with
  | .addrs present => T.slots.foldl (reconcileSlot T owned present removeFailed) w'
  | _ => w'

end Verbs

inductive IcOp
  | ensure (slot : Int) (f : IcFailures)
  | remove (slot : Int) (f : IcFailures)
  | restart (ledgerFailed readFailed : Bool) (removeFailed : Finset Int)

/-- Requests and restarts, from a daemon that owns nothing yet, over any bridge0 and any
ledger. -/
def bridgeMachine (T : SlotTable) : Machine BridgeState IcOp where
  init w := w.owned = ∅ ∧ w.rode = ∅ ∧ w.calls = []
  step w
    | .ensure slot f => some (handleEnsureInterconnectAlias T w slot f)
    | .remove slot f => some (handleRemoveInterconnectAlias T w slot f)
    | .restart ledgerFailed readFailed removeFailed =>
      some (restart T w ledgerFailed readFailed removeFailed)

/-! ## What an operation does -/

variable {T : SlotTable} {w w' : BridgeState} {addr : Addr} {present : List (Addr × Int)}
  {slot : Int} {op : IcOp}

/-- The call is for the address of a slot. -/
def IcCall.Derived (T : SlotTable) : IcCall → Prop
  | .read _ => True
  | .add addr _ _ => ∃ slot, T.InRange slot ∧ addr = T.address slot
  | .remove addr _ => ∃ slot, T.InRange slot ∧ addr = T.address slot

/-- After the call it is known that `addr` is not on bridge0. -/
def IcCall.ShowsAbsent (addr : Addr) : IcCall → Prop
  | .read r => bridgeHas r addr = some false
  | .remove addr' ok => addr' = addr ∧ ok = true
  | .add _ _ _ => False

/-- Only the alias of `addr` may differ. -/
structure SameBut (addr : Addr) (w w' : BridgeState) : Prop where
  owned : w'.owned = w.owned
  rode : w'.rode = w.rode
  on : ∀ a, a ≠ addr → w'.on a = w.on a

lemma on_put {bits : Int} (a : Addr) :
    (w.put addr bits).on a = if a = addr then w.bridge.map fun _ => bits else w.on a := by
  unfold BridgeState.put BridgeState.on
  cases w.bridge with
  | none => simp
  | some m => simp [GoMap.lookup_insert_ite]

lemma on_drop (a : Addr) : (w.drop addr).on a = if a = addr then none else w.on a := by
  unfold BridgeState.drop BridgeState.on
  cases w.bridge with
  | none => simp
  | some m => simp [GoMap.lookup_erase_ite]

lemma sameBut_refl (addr : Addr) (w : BridgeState) : SameBut addr w w := ⟨rfl, rfl, fun _ _ => rfl⟩

lemma sameBut_put (addr : Addr) (bits : Int) (w : BridgeState) : SameBut addr w (w.put addr bits) :=
  ⟨rfl, rfl, fun a ha => by rw [on_put, if_neg ha]⟩

lemma sameBut_drop (addr : Addr) (w : BridgeState) : SameBut addr w (w.drop addr) :=
  ⟨rfl, rfl, fun a ha => by rw [on_drop, if_neg ha]⟩

lemma SameBut.trans {u v : BridgeState} (h : SameBut addr w u) (h' : SameBut addr u v) :
    SameBut addr w v :=
  ⟨h'.owned.trans h.owned, h'.rode.trans h.rode, fun a ha => (h'.on a ha).trans (h.on a ha)⟩

lemma lookup_read {failed : Bool} (h : w.read failed = .addrs present) (addr : Addr) :
    failed = false ∧ w.bridge.isSome = true ∧ present.lookup addr = w.on addr := by
  unfold BridgeState.read at h
  split_ifs at h
  next hok =>
  split at h
  · cases h
  next m hm =>
  cases h
  refine ⟨by simpa using hok, by simp [hm], ?_⟩
  rw [GoMap.lookup_pairs, BridgeState.on, hm]
  rfl

lemma exists_read {bits : Int} (h : w.on addr = some bits) :
    ∃ present, w.read false = .addrs present := by
  obtain ⟨m, hm, -⟩ := Option.bind_eq_some_iff.mp h
  exact ⟨_, by rw [BridgeState.read, if_neg (by simp), hm]⟩

/-- Some other slot is on bridge0 and rides slot 0. -/
def RiderOn (w : BridgeState) : Prop :=
  ∃ slot addr, slot ≠ 0 ∧ w.owned.lookup slot = some addr ∧ (w.on addr).isSome = true ∧
    slot ∈ w.rode

/-- The repair of slot 0's netmask removes the alias and fails to add it. -/
def RepairLost (T : SlotTable) (w : BridgeState) : IcOp → Prop
  | .ensure slot f => slot = 0 ∧ f.read = false ∧
      (∃ have_, w.on (T.address 0) = some have_ ∧ have_ ≠ T.bits 0) ∧
      f.remove = false ∧ f.add = true
  | _ => False

lemma RepairLost.exists_read {f : IcFailures} (h : RepairLost T w (.ensure slot f)) :
    ∃ present, w.read f.read = .addrs present := by
  obtain ⟨-, hok, ⟨have_, hon, -⟩, -⟩ := h
  rw [hok]
  exact Netd.exists_read hon

inductive VerbCase (T : SlotTable) (w : BridgeState) : IcOp → BridgeState → Prop
  | kept (op : IcOp) (calls : List IcCall) : ¬ RepairLost T w op → (∀ c ∈ calls, c.Derived T) →
      VerbCase T w op (w.did calls)
  | lost (op : IcOp) (calls : List IcCall) : RepairLost T w op → (∀ c ∈ calls, c.Derived T) →
      VerbCase T w op ((w.drop (T.address 0)).did calls)
  | ensured (slot : Int) (f : IcFailures) (u : BridgeState) (calls : List IcCall) :
      T.InRange slot → ¬ RepairLost T w (.ensure slot f) → SameBut (T.address slot) w u →
      (u.on (T.address slot)).isSome = true → (∀ c ∈ calls, c.Derived T) →
      VerbCase T w (.ensure slot f) ((ensured T u slot).did calls)
  | removed (slot : Int) (f : IcFailures) (u : BridgeState) (calls : List IcCall) :
      T.InRange slot → w.owned.lookup slot = some (T.address slot) →
      (slot = 0 → ∀ slot', w.owned.lookup slot' ≠ none → slot' = 0) →
      SameBut (T.address slot) w u → (∃ c ∈ calls, c.ShowsAbsent (T.address slot)) →
      (∀ c ∈ calls, c.Derived T) →
      VerbCase T w (.remove slot f) ((u.dropOwned slot).did calls)

lemma ensure_cases (slot : Int) (f : IcFailures) :
    VerbCase T w (.ensure slot f) (handleEnsureInterconnectAlias T w slot f) := by
  unfold handleEnsureInterconnectAlias
  split
  · next hout =>
    refine .kept _ _ ?_ (by simp)
    rintro ⟨rfl, -⟩
    exact hout ⟨le_refl _, by simp⟩
  next hin =>
  have hslot : T.InRange slot := by simpa using hin
  have htarget : ∃ s, T.InRange s ∧ T.address slot = T.address s := ⟨slot, hslot, rfl⟩
  simp only
  split
  · next hread =>
    refine .kept _ _ (fun hlost => ?_) (by simp [IcCall.Derived])
    obtain ⟨present, hpresent⟩ := hlost.exists_read
    cases hread.symm.trans hpresent
  · next hread =>
    refine .kept _ _ (fun hlost => ?_) (by simp [IcCall.Derived])
    obtain ⟨present, hpresent⟩ := hlost.exists_read
    cases hread.symm.trans hpresent
  next present hread =>
  obtain ⟨hok, hbridge, hlookup⟩ := lookup_read hread (T.address slot)
  split
  · next have_ hhave =>
    rw [hlookup] at hhave
    split
    · next hwrong =>
      obtain ⟨rfl, hne⟩ := hwrong
      split
      · next hrem =>
        refine .kept _ _ ?_ (by simp [IcCall.Derived, htarget])
        rintro ⟨-, -, -, hf, -⟩
        cases hrem.symm.trans hf
      next hrem =>
      split
      · next hadd =>
        refine .lost _ _ ⟨rfl, hok, ⟨have_, hhave, hne⟩, by simpa using hrem, hadd⟩ ?_
        simp [IcCall.Derived, htarget]
      · next hadd =>
        refine .ensured 0 f _ _ hslot ?_ ((sameBut_drop _ w).trans (sameBut_put _ _ _)) ?_ ?_
        · rintro ⟨-, -, -, -, hf⟩
          exact hadd hf
        · rw [on_put, if_pos rfl]
          simpa [BridgeState.drop] using hbridge
        · simp [IcCall.Derived, htarget]
    · next hright =>
      refine .ensured slot f w _ hslot ?_ (sameBut_refl _ w) (by simp [hhave]) ?_
      · rintro ⟨rfl, -, ⟨have', hhave', hne⟩, -⟩
        cases hhave.symm.trans hhave'
        exact hright ⟨rfl, hne⟩
      · simp [IcCall.Derived]
  · next habsent =>
    rw [hlookup] at habsent
    have hnot : ¬ RepairLost T w (.ensure slot f) := by
      rintro ⟨rfl, -, ⟨have', hhave', -⟩, -⟩
      cases habsent.symm.trans hhave'
    split
    · exact .kept _ _ hnot (by simp [IcCall.Derived, htarget])
    refine .ensured slot f _ _ hslot hnot (sameBut_put _ _ w) ?_
      (by simp [IcCall.Derived, htarget])
    rw [on_put, if_pos rfl]
    simpa using hbridge

lemma remove_cases (slot : Int) (f : IcFailures) :
    VerbCase T w (.remove slot f) (handleRemoveInterconnectAlias T w slot f) := by
  have hnot : ¬ RepairLost T w (.remove slot f) := id
  unfold handleRemoveInterconnectAlias
  split
  · exact .kept _ _ hnot (by simp)
  next hin =>
  have hslot : T.InRange slot := by simpa using hin
  have htarget : ∃ s, T.InRange s ∧ T.address slot = T.address s := ⟨slot, hslot, rfl⟩
  simp only
  split
  · exact .kept _ _ hnot (by simp)
  next howned =>
  have howned' : w.owned.lookup slot = some (T.address slot) := by simpa using howned
  split
  · exact .kept _ _ hnot (by simp)
  next hriders =>
  have hnone : slot = 0 → ∀ slot', w.owned.lookup slot' ≠ none → slot' = 0 := by
    intro hzero slot' hsome
    by_contra hne
    obtain ⟨addr, haddr⟩ := Option.ne_none_iff_exists'.mp hsome
    refine hriders ⟨hzero, List.any_eq_true.mpr ⟨slot', ?_, by simpa using hne⟩⟩
    exact GoMap.mem_keys_iff.mpr ⟨addr, haddr⟩
  split
  · exact .kept _ _ hnot (by simp [IcCall.Derived])
  · next hgone =>
    refine .removed slot f w _ hslot howned' hnone (sameBut_refl _ w)
      ⟨.read (w.read f.read), by simp, hgone⟩ ?_
    simp [IcCall.Derived]
  · split
    · split
      · next hgone =>
        refine .removed slot f w _ hslot howned' hnone (sameBut_refl _ w)
          ⟨.read (w.read f.reread), by simp, hgone⟩ ?_
        simp [IcCall.Derived, htarget]
      · exact .kept _ _ hnot (by simp [IcCall.Derived, htarget])
    · refine .removed slot f _ _ hslot howned' hnone (sameBut_drop _ w)
        ⟨.remove (T.address slot) true, by simp, rfl, rfl⟩ ?_
      simp [IcCall.Derived, htarget]

/-! ## What the reconcile does -/

structure Reconciled (T : SlotTable) (owned : GoMap Int Addr) (present : List (Addr × Int))
    (w w' : BridgeState) : Prop where
  keeps : w'.owned = w.owned
  ledger : w'.ledger = w.ledger
  rode : w'.rode = w.rode
  on : ∀ a, (w'.on a).isSome = true → (w.on a).isSome = true
  slotZero : ownsRider owned present = true → w'.on (T.address 0) = w.on (T.address 0)
  calls : (∀ c ∈ w.calls, c.Derived T) → ∀ c ∈ w'.calls, c.Derived T

lemma reconcileSlot_spec {owned : GoMap Int Addr} {removeFailed : Finset Int}
    (hslot : T.InRange slot) :
    Reconciled T owned present w (reconcileSlot T owned present removeFailed w slot) := by
  have hsame : Reconciled T owned present w w :=
    ⟨rfl, rfl, rfl, fun _ h => h, fun _ => rfl, fun h => h⟩
  have hcalls : ∀ ok, (∀ c ∈ w.calls, c.Derived T) →
      ∀ c ∈ w.calls ++ [.remove (T.address slot) ok], c.Derived T := by
    intro ok h c hc
    rcases List.mem_append.mp hc with hc | hc
    · exact h c hc
    · rw [List.mem_singleton.mp hc]
      exact ⟨slot, hslot, rfl⟩
  unfold reconcileSlot
  simp only
  split
  · exact hsame
  split
  · exact hsame
  split
  · exact hsame
  next hzero =>
  split
  · exact ⟨rfl, rfl, rfl, fun _ h => h, fun _ => rfl, hcalls false⟩
  refine ⟨rfl, rfl, rfl, ?_, ?_, hcalls true⟩
  · intro a h
    have h' : ((w.drop (T.address slot)).on a).isSome = true := h
    rw [on_drop] at h'
    split at h'
    · cases h'
    · exact h'
  · intro hrider
    refine (on_drop (w := w) (T.address 0)).trans (if_neg ?_)
    intro heq
    have hzero' : (0 : Int) = slot :=
      T.injective 0 slot (le_refl _) (by simp) hslot.1 hslot.2 heq
    exact hzero ⟨hzero'.symm, hrider⟩

lemma mem_slots (h : slot ∈ T.slots) : T.InRange slot := by
  unfold SlotTable.slots at h
  simp only [List.mem_reverse, List.mem_map, List.mem_range] at h
  obtain ⟨n, hn, rfl⟩ := h
  exact ⟨by simp, by simp; omega⟩

lemma Reconciled.trans {owned : GoMap Int Addr} {u v : BridgeState}
    (h : Reconciled T owned present w u) (h' : Reconciled T owned present u v) :
    Reconciled T owned present w v :=
  ⟨h'.keeps.trans h.keeps, h'.ledger.trans h.ledger, h'.rode.trans h.rode,
    fun a ha => h.on a (h'.on a ha), fun hr => (h'.slotZero hr).trans (h.slotZero hr),
    fun hc => h'.calls (h.calls hc)⟩

lemma foldl_reconcileSlot (owned : GoMap Int Addr) (present : List (Addr × Int))
    (removeFailed : Finset Int) {slots : List Int} (hslots : ∀ slot ∈ slots, T.InRange slot) :
    Reconciled T owned present w
      (slots.foldl (reconcileSlot T owned present removeFailed) w) := by
  induction slots generalizing w with
  | nil => exact ⟨rfl, rfl, rfl, fun _ h => h, fun _ => rfl, fun h => h⟩
  | cons slot slots ih =>
    rw [List.foldl_cons]
    exact (reconcileSlot_spec (hslots slot (by simp))).trans
      (ih fun s hs => hslots s (by simp [hs]))

lemma lookup_restore {ledgerFailed : Bool}
    (h : (restoreInterconnect T w ledgerFailed).lookup slot = some addr) :
    T.InRange slot ∧ addr = T.address slot ∧ w.ledger.lookup slot = some addr := by
  unfold restoreInterconnect at h
  split at h
  · simp at h
  rw [GoMap.lookup_insertAll] at h
  have hmem := GoMap.mem_of_lastWrite (by simpa using h)
  obtain ⟨hentry, hderived⟩ := List.mem_filter.mp hmem
  obtain ⟨e, he, heq⟩ := List.mem_map.mp hentry
  cases heq
  simp only [Bool.and_eq_true, decide_eq_true_eq] at hderived
  obtain ⟨hrange, haddr⟩ := hderived
  exact ⟨hrange, haddr, GoMap.lookup_of_mem_entries he⟩

/-- What a restart does: the owned entries are this node's and from the ledger, nothing is put on
bridge0, and slot 0 stays while an owned alias is there. -/
structure Restarted (T : SlotTable) (w w' : BridgeState) : Prop where
  owned : ∀ slot addr, w'.owned.lookup slot = some addr →
    T.InRange slot ∧ addr = T.address slot ∧ w.ledger.lookup slot = some addr
  ledger : w'.ledger = w'.owned
  rode : w'.rode = w.rode
  on : ∀ a, (w'.on a).isSome = true → (w.on a).isSome = true
  slotZero : (∃ slot addr, slot ≠ 0 ∧ w'.owned.lookup slot = some addr ∧
    (w.on addr).isSome = true) → w'.on (T.address 0) = w.on (T.address 0)
  calls : ∀ c ∈ w'.calls, c.Derived T

/-- What a restart owns, and what it has removed. -/
lemma restart_spec (ledgerFailed readFailed : Bool) (removeFailed : Finset Int) :
    Restarted T w (restart T w ledgerFailed readFailed removeFailed) := by
  unfold restart
  simp only
  split
  · next present hread =>
    have hloop := foldl_reconcileSlot (T := T)
      (w := { w with owned := restoreInterconnect T w ledgerFailed
                     ledger := restoreInterconnect T w ledgerFailed
                     calls := [.read (w.read readFailed)] })
      (restoreInterconnect T w ledgerFailed) present removeFailed fun slot => mem_slots (T := T)
    refine ⟨?_, hloop.ledger.trans hloop.keeps.symm, hloop.rode, hloop.on, ?_, ?_⟩
    · intro slot addr h
      rw [hloop.keeps] at h
      exact lookup_restore h
    · rintro ⟨slot, addr, hne, howned, hon⟩
      refine hloop.slotZero ?_
      rw [hloop.keeps] at howned
      refine List.any_eq_true.mpr ⟨⟨slot, addr⟩, GoMap.mem_entries_of_lookup howned, ?_⟩
      rw [(lookup_read hread addr).2.2, hon]
      simpa using hne
    · exact hloop.calls (by simp [IcCall.Derived])
  · refine ⟨fun slot addr h => lookup_restore h, rfl, rfl, fun _ h => h, fun _ => rfl, ?_⟩
    simp [IcCall.Derived]

/-- The owned entries are this node's, the ledger has no other entry for a slot that was ensured
on slot 0, and the last commands were for the node's addresses. -/
structure Tracked (T : SlotTable) (w : BridgeState) : Prop where
  derived : ∀ slot addr, w.owned.lookup slot = some addr → T.InRange slot ∧ addr = T.address slot
  ledger : ∀ slot ∈ w.rode, ∀ addr, w.ledger.lookup slot = some addr →
    w.owned.lookup slot = some addr
  calls : ∀ c ∈ w.calls, c.Derived T

/-- While an alias rides slot 0, slot 0 is on bridge0. -/
def RidersKept (T : SlotTable) (w : BridgeState) : Prop :=
  ∀ slot addr, slot ≠ 0 → w.owned.lookup slot = some addr → (w.on addr).isSome = true →
    slot ∈ w.rode → (w.on (T.address 0)).isSome = true

/-- An operation is a verb or a restart. -/
lemma step_spec (h : (bridgeMachine T).step w op = some w') :
    VerbCase T w op w' ∨ ∃ ledgerFailed readFailed removeFailed,
        op = .restart ledgerFailed readFailed removeFailed ∧ Restarted T w w' := by
  cases op with
  | ensure slot f =>
    cases h
    exact .inl (ensure_cases slot f)
  | remove slot f =>
    cases h
    exact .inl (remove_cases slot f)
  | restart ledgerFailed readFailed removeFailed =>
    cases h
    exact .inr ⟨_, _, _, rfl, restart_spec _ _ _⟩

/-- Every operation keeps ledger and ownership in step. -/
lemma tracked_step (h : Tracked T w) (hstep : (bridgeMachine T).step w op = some w') :
    Tracked T w' := by
  rcases step_spec hstep with hcase | ⟨_, _, _, rfl, hrestart⟩
  · cases hcase with
    | kept _ calls _ hcalls => exact ⟨h.derived, h.ledger, hcalls⟩
    | lost _ calls _ hcalls => exact ⟨h.derived, h.ledger, hcalls⟩
    | ensured slot f u calls hslot _ hsame hon hcalls =>
      refine ⟨?_, fun _ _ _ h => h, hcalls⟩
      intro slot' addr hlookup
      have hinsert : (u.owned.insert slot (T.address slot)).lookup slot' = some addr := hlookup
      rw [GoMap.lookup_insert_ite, hsame.owned] at hinsert
      split at hinsert
      · next heq =>
        subst heq
        cases hinsert
        exact ⟨hslot, rfl⟩
      · exact h.derived slot' addr hinsert
    | removed slot f u calls hslot howned hriders hsame habsent hcalls =>
      refine ⟨?_, fun _ _ _ h => h, hcalls⟩
      intro slot' addr hlookup
      have herase : (u.owned.erase slot).lookup slot' = some addr := hlookup
      rw [GoMap.lookup_erase_ite, hsame.owned] at herase
      split_ifs at herase
      exact h.derived slot' addr herase
  · refine ⟨fun slot addr hs => ?_, fun slot _ addr hl => ?_, hrestart.calls⟩
    · obtain ⟨hrange, haddr, -⟩ := hrestart.owned slot addr hs
      exact ⟨hrange, haddr⟩
    · rw [← hrestart.ledger]
      exact hl

lemma address_ne {slot' : Int} (h : T.InRange slot) (h' : T.InRange slot') (hne : slot ≠ slot') :
    T.address slot ≠ T.address slot' :=
  fun heq => hne (T.injective slot slot' h.1 h.2 h'.1 h'.2 heq)

lemma inRange_zero : T.InRange 0 := ⟨le_refl _, by simp⟩

/-- Only a repair that fails halfway strands a rider. -/
lemma ridersKept_step (ht : Tracked T w) (h : RidersKept T w)
    (hstep : (bridgeMachine T).step w op = some w') (hop : ¬ (RepairLost T w op ∧ RiderOn w)) :
    RidersKept T w' := by
  rcases step_spec hstep with hcase | ⟨_, _, _, rfl, hrestart⟩
  · cases hcase with
    | kept => exact h
    | lost _ calls hlost =>
      intro slot addr hne howned hon hrode
      have hdrop : ((w.drop (T.address 0)).on addr).isSome = true := hon
      rw [on_drop] at hdrop
      split at hdrop
      · cases hdrop
      · exact absurd ⟨hlost, slot, addr, hne, howned, hdrop, hrode⟩ hop
    | ensured slot f u calls hslot _ hsame hon _ =>
      intro slot' addr hne howned hon' hrode
      by_cases hzero : slot = 0
      · subst hzero
        exact hon
      have haddr0 : u.on (T.address 0) = w.on (T.address 0) :=
        hsame.on _ (address_ne inRange_zero hslot (Ne.symm hzero))
      have hinsert : (u.owned.insert slot (T.address slot)).lookup slot' = some addr := howned
      have hrode' : slot' ∈ (if (u.on (T.address 0)).isSome then insert slot u.rode
          else u.rode.erase slot) := hrode
      show (u.on (T.address 0)).isSome = true
      rw [GoMap.lookup_insert_ite, hsame.owned] at hinsert
      by_cases hsome : (u.on (T.address 0)).isSome = true
      · exact hsome
      -- the slot itself is not in `rode` now, and the others were there before
      rw [if_neg hsome, Finset.mem_erase, hsame.rode] at hrode'
      rw [if_neg hrode'.1] at hinsert
      obtain ⟨hrange, haddr⟩ := ht.derived slot' addr hinsert
      have hbefore : u.on addr = w.on addr := by
        rw [haddr]
        exact hsame.on _ (address_ne hrange hslot hrode'.1)
      rw [haddr0]
      exact h slot' addr hne hinsert (hbefore ▸ hon') hrode'.2
    | removed slot f u calls hslot howned hriders hsame _ _ =>
      intro slot' addr hne howned' hon' hrode
      have herase : (u.owned.erase slot).lookup slot' = some addr := howned'
      rw [GoMap.lookup_erase_ite, hsame.owned] at herase
      split at herase
      · cases herase
      next hother =>
      have hzero : slot ≠ 0 := fun hz => hne (hriders hz slot' (by simp [herase]))
      obtain ⟨hrange, haddr⟩ := ht.derived slot' addr herase
      have hbefore : u.on addr = w.on addr := by
        rw [haddr]
        exact hsame.on _ (address_ne hrange hslot hother)
      have haddr0 : u.on (T.address 0) = w.on (T.address 0) :=
        hsame.on _ (address_ne inRange_zero hslot (Ne.symm hzero))
      show (u.on (T.address 0)).isSome = true
      rw [haddr0]
      exact h slot' addr hne herase (hbefore ▸ hon') (hsame.rode ▸ hrode)
  · intro slot addr hne howned hon hrode
    obtain ⟨-, -, hledger⟩ := hrestart.owned slot addr howned
    have hbefore := hrestart.on addr hon
    rw [hrestart.rode] at hrode
    rw [hrestart.slotZero ⟨slot, addr, hne, howned, hbefore⟩]
    exact h slot addr hne (ht.ledger slot hrode addr hledger) hbefore hrode

lemma not_ridersKept_of_lost (ht : Tracked T w) (hlost : RepairLost T w op) (hrider : RiderOn w)
    (hstep : (bridgeMachine T).step w op = some w') : ¬ RidersKept T w' := by
  have hcase : w'.on (T.address 0) = none ∧ w'.owned = w.owned ∧ w'.rode = w.rode ∧
      ∀ a, a ≠ T.address 0 → w'.on a = w.on a := by
    rcases step_spec hstep with hcase | ⟨_, _, _, rfl, -⟩
    · cases hcase with
      | kept _ _ hnot => exact absurd hlost hnot
      | lost _ calls _ _ =>
        have hsame := sameBut_drop (T.address 0) w
        refine ⟨?_, hsame.owned, hsame.rode, hsame.on⟩
        exact (on_drop (w := w) (T.address 0)).trans (if_pos rfl)
      | ensured _ _ _ _ _ hnot => exact absurd hlost hnot
      | removed => exact absurd hlost id
    · exact absurd hlost id
  obtain ⟨hgone, howned, hrode, hon⟩ := hcase
  obtain ⟨slot, addr, hne, hlookup, hson, hmem⟩ := hrider
  intro hkept
  obtain ⟨hrange, haddr⟩ := ht.derived slot addr hlookup
  have hstill : w'.on addr = w.on addr := by
    rw [haddr]
    exact hon _ (address_ne hrange inRange_zero hne)
  have hzero := hkept slot addr hne (by rw [howned]; exact hlookup) (by rw [hstill]; exact hson)
    (by rw [hrode]; exact hmem)
  rw [hgone] at hzero
  cases hzero

/-- No repair of slot 0 fails halfway while an alias rides it. -/
def NoRiderLost (T : SlotTable) (w : BridgeState) (op : IcOp) : Prop :=
  ¬ (RepairLost T w op ∧ RiderOn w)

lemma tracked_init (h : (bridgeMachine T).init w) : Tracked T w := by
  obtain ⟨howned, hrode, hcalls⟩ := h
  refine ⟨?_, ?_, ?_⟩
  · intro slot addr hlookup
    rw [howned] at hlookup
    cases hlookup
  · intro slot hmem
    rw [hrode] at hmem
    simp at hmem
  · rw [hcalls]
    simp

lemma tracked_reach {ok : BridgeState → IcOp → Prop} (h : (bridgeMachine T).Reach ok w) :
    Tracked T w :=
  h.invariant (fun _ => tracked_init) fun _ _ _ ht _ hstep => tracked_step ht hstep

lemma ridersKept_reach (h : (bridgeMachine T).Reach (NoRiderLost T) w) : RidersKept T w := by
  have hboth : Tracked T w ∧ RidersKept T w := by
    refine h.invariant (I := fun w => Tracked T w ∧ RidersKept T w) ?_ ?_
    · intro w hinit
      refine ⟨tracked_init hinit, ?_⟩
      intro slot addr _ hlookup
      rw [hinit.1] at hlookup
      cases hlookup
    · rintro w op w' ⟨ht, hkept⟩ hop hstep
      exact ⟨tracked_step ht hstep, ridersKept_step ht hkept hstep hop⟩
  exact hboth.2

lemma absent_of_left (ht : Tracked T w) (hstep : (bridgeMachine T).step w op = some w')
    (hbefore : w.owned.lookup slot = some addr) (hafter : w'.owned.lookup slot ≠ some addr) :
    (∃ ledgerFailed readFailed removeFailed, op = .restart ledgerFailed readFailed removeFailed) ∨
      ∃ c ∈ w'.calls, c.ShowsAbsent addr := by
  obtain ⟨-, haddr⟩ := ht.derived slot addr hbefore
  rcases step_spec hstep with hcase | ⟨_, _, _, hop, -⟩
  · cases hcase with
    | kept => exact absurd hbefore hafter
    | lost => exact absurd hbefore hafter
    | ensured slot' f u calls _ _ hsame =>
      have hinsert : (u.owned.insert slot' (T.address slot')).lookup slot ≠ some addr := hafter
      rw [GoMap.lookup_insert_ite, hsame.owned] at hinsert
      split at hinsert
      · next heq => exact absurd (by rw [haddr, heq]) hinsert
      · exact absurd hbefore hinsert
    | removed slot' f u calls _ _ _ hsame habsent =>
      have herase : (u.owned.erase slot').lookup slot ≠ some addr := hafter
      rw [GoMap.lookup_erase_ite, hsame.owned] at herase
      split at herase
      · next heq =>
        rw [haddr, heq]
        exact .inr habsent
      · exact absurd hbefore herase
  · exact .inl ⟨_, _, _, hop⟩

/-- Every call on bridge0 is for an address of a slot; ownership is lost only to a restart or with
the alias; slot 0 is there while an alias rides it, exactly until a repair fails. -/
theorem riders_keep_slot_zero (T : SlotTable) (w : BridgeState)
    (hw : (bridgeMachine T).Reach Machine.always w) : (∀ c ∈ w.calls, c.Derived T) ∧
    (∀ op w' slot addr, (bridgeMachine T).step w op = some w' →
      w.owned.lookup slot = some addr → w'.owned.lookup slot ≠ some addr →
      (∃ ledgerFailed readFailed removeFailed, op = .restart ledgerFailed readFailed removeFailed) ∨
      ∃ c ∈ w'.calls, c.ShowsAbsent addr) ∧
    ((bridgeMachine T).Reach (NoRiderLost T) w →
      RidersKept T w ∧ ∀ op w', (bridgeMachine T).step w op = some w' →
        (RidersKept T w' ↔ NoRiderLost T w op)) := by
  have ht := tracked_reach hw
  refine ⟨ht.calls, fun op w' slot addr => absent_of_left ht, ?_⟩
  intro hgood
  have hkept := ridersKept_reach hgood
  refine ⟨hkept, ?_⟩
  intro op w' hstep
  constructor
  · intro hkept' hlost
    exact not_ridersKept_of_lost ht hlost.1 hlost.2 hstep hkept'
  · exact ridersKept_step ht hkept hstep

/-! ## A table and its bridge0 -/

lemma labAddress_injective (slot slot' : Int) (h : 0 ≤ slot) (hle : slot ≤ (7 : Nat))
    (h' : 0 ≤ slot') (hle' : slot' ≤ (7 : Nat))
    (heq : Addr.v4 (0xa9fe0000#32 + BitVec.ofNat 32 slot.toNat) =
      .v4 (0xa9fe0000#32 + BitVec.ofNat 32 slot'.toNat)) : slot = slot' := by
  have hnat := congrArg BitVec.toNat (Addr.v4.inj heq)
  simp only [BitVec.toNat_add, BitVec.toNat_ofNat] at hnat
  omega

def labTable : SlotTable where
  address slot := .v4 (0xa9fe0000#32 + BitVec.ofNat 32 slot.toNat)
  maxSlot := 7
  cidrBits := 24
  injective := labAddress_injective

def labBridge (bridge : GoMap Addr Int) : BridgeState := ⟨some bridge, ∅, ∅, ∅, []⟩

lemma reach_ensure {f : IcFailures} (hadd : f.add = false)
    (h : (bridgeMachine labTable).Reach (NoRiderLost labTable) w) :
    (bridgeMachine labTable).Reach (NoRiderLost labTable)
      (handleEnsureInterconnectAlias labTable w slot f) := by
  refine .step (.ensure slot f) h ?_ rfl
  rintro ⟨⟨-, -, -, -, hfailed⟩, -⟩
  cases hadd.symm.trans hfailed

def orderedBridge : BridgeState :=
  handleRemoveInterconnectAlias labTable (handleEnsureInterconnectAlias labTable
    (handleEnsureInterconnectAlias labTable (labBridge ∅) 0 {}) 1 {}) 0 {}

theorem ordered_bridge_keeps_slot_zero : (orderedBridge.owned.lookup 1 = some (labTable.address 1) ∧
      (orderedBridge.on (labTable.address 1)).isSome = true ∧ 1 ∈ orderedBridge.rode) ∧
    RidersKept labTable orderedBridge := by
  have hgood : (bridgeMachine labTable).Reach (NoRiderLost labTable) orderedBridge := by
    refine .step (.remove 0 {}) ?_ (fun hlost => hlost.1) rfl
    exact reach_ensure rfl (reach_ensure rfl (.init ⟨rfl, rfl, rfl⟩))
  refine ⟨by decide +kernel, ?_⟩
  exact ((riders_keep_slot_zero labTable orderedBridge
    (hgood.mono fun _ _ _ => trivial)).2.2 hgood).1

/-- Slot 0 is on bridge0 as a /16, slot 1 is ensured, and the repair fails after its removal. -/
def strandedBridge : BridgeState :=
  handleEnsureInterconnectAlias labTable (handleEnsureInterconnectAlias labTable
    (labBridge ((∅ : GoMap Addr Int).insert (labTable.address 0) 16)) 1 {}) 0 { add := true }

/-- A repair removes slot 0, under an alias that rides it, and fails to add it again. -/
theorem repair_strands_rider : (bridgeMachine labTable).Reach Machine.always strandedBridge ∧
    (strandedBridge.owned.lookup 1 = some (labTable.address 1) ∧
      (strandedBridge.on (labTable.address 1)).isSome = true ∧ 1 ∈ strandedBridge.rode) ∧
    strandedBridge.on (labTable.address 0) = none ∧ ¬ RidersKept labTable strandedBridge := by
  have hrider : strandedBridge.owned.lookup 1 = some (labTable.address 1) ∧
      (strandedBridge.on (labTable.address 1)).isSome = true ∧ 1 ∈ strandedBridge.rode := by
    decide +kernel
  have hgone : strandedBridge.on (labTable.address 0) = none := by decide +kernel
  refine ⟨?_, hrider, hgone, ?_⟩
  · exact .step (.ensure 0 { add := true })
      (.step (.ensure 1 {}) (.init ⟨rfl, rfl, rfl⟩) trivial rfl) trivial rfl
  intro hkept
  have hzero := hkept 1 _ (by decide) hrider.1 hrider.2.1 hrider.2.2
  rw [hgone] at hzero
  cases hzero

end DarwinNet.Netd
