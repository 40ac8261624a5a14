import DarwinNet.Lib.Bytes

/-!
`k3sm_parse_a` of the getaddrinfo shim, over the bytes of a reply. A read is checked against
the length of the buffer; one outside it has no result.

The parser never reads outside the buffer and an address it returns is that of an A record
inside it. A reply that ends before all it announces is not always refused, though: the parser
leaves its loop over the answers when fewer than 12 bytes are left, looks at no question of a
reply without answers, and reports a definitive miss (`cut_reply_missed`). `sound_iff` says
which replies these are.
-/

namespace DarwinNet.Dns.Wire

open Lib.Bytes

/-- `K3SM_DNS_HIT`, `K3SM_DNS_MISS` and `K3SM_DNS_TEMPFAIL`; `truncated` is the last with
`*truncated` set. -/
inductive ParseA
  | hit (addr4 : List UInt8)
  | miss
  | tempfail
  | truncated
  deriving DecidableEq

def read16 (rbuf : List UInt8) (i : Nat) : Option Nat := (slice rbuf i (i + 2)).map be

/-- The loop over the labels of a name: the offset after its root label or pointer. The first
argument bounds the iterations. -/
def skipName (rbuf : List UInt8) : Nat → Nat → Option Nat
  | 0, off => some off
  | fuel + 1, off =>
    if rbuf.length ≤ off then some (off + 1)
    else match rbuf[off]? with
      | none => none
      | some b =>
        if b = 0 then some (off + 1)
        else if b &&& 0xc0 = 0xc0 then some (off + 2)
        else skipName rbuf fuel (off + b.toNat + 1)

def skipQuestions (rbuf : List UInt8) : Nat → Nat → Option Nat
  | 0, off => some off
  | q + 1, off =>
    match skipName rbuf (rbuf.length + 1) off with
    | none => none
    | some off => skipQuestions rbuf q (off + 4)

def walkAnswers (rbuf : List UInt8) : Nat → Nat → Option ParseA
  | 0, _ => some .miss
  | a + 1, off =>
    if rbuf.length < off + 12 then some .miss
    else match skipName rbuf (rbuf.length + 1) off with
      | none => none
      | some off =>
        if rbuf.length < off + 10 then some .tempfail
        else match read16 rbuf off, read16 rbuf (off + 8) with
          | some type, some rdlen =>
            if rbuf.length < off + 10 + rdlen then some .tempfail
            else if type = 1 ∧ rdlen = 4 then (slice rbuf (off + 10) (off + 10 + 4)).map .hit
            else walkAnswers rbuf a (off + 10 + rdlen)
          | _, _ => none

/-- `k3sm_parse_a`; `id` is `qbuf[0]` and `qbuf[1]`. -/
def k3smParseA (id : UInt8 × UInt8) (rbuf : List UInt8) : Option ParseA :=
  if rbuf.length < 12 then some .tempfail
  else match rbuf[0]?, rbuf[1]?, rbuf[2]?, rbuf[3]?, read16 rbuf 4, read16 rbuf 6 with
    | some b0, some b1, some b2, some b3, some qdcount, some ancount =>
      if b0 ≠ id.1 ∨ b1 ≠ id.2 then some .tempfail
      else if b2 &&& 0x80 = 0 then some .tempfail
      else if b2 &&& 0x02 ≠ 0 then some .truncated
      else if b3 &&& 0x0f = 3 then some .miss
      else if b3 &&& 0x0f ≠ 0 then some .tempfail
      else if ancount < 1 then some .miss
      else match skipQuestions rbuf qdcount 12 with
        | none => none
        | some off => walkAnswers rbuf ancount off
    | _, _, _, _, _, _ => none

/-! ## Replies -/

section Replies

variable (rbuf : List UInt8)

/-- A name at the first offset, all of it inside the buffer, ends before the second. -/
inductive NameEnds : Nat → Nat → Prop
  | root {off : Nat} : rbuf[off]? = some 0 → NameEnds off (off + 1)
  | pointer {off : Nat} {b : UInt8} : rbuf[off]? = some b → b &&& 0xc0 = 0xc0 →
      off + 2 ≤ rbuf.length → NameEnds off (off + 2)
  | label {off e : Nat} {b : UInt8} : rbuf[off]? = some b → b ≠ 0 → b &&& 0xc0 ≠ 0xc0 →
      NameEnds (off + b.toNat + 1) e → NameEnds off e

inductive Questions : Nat → Nat → Nat → Prop
  | nil (off : Nat) : Questions 0 off off
  | cons {q off e e' : Nat} : NameEnds rbuf off e → e + 4 ≤ rbuf.length →
      Questions q (e + 4) e' → Questions (q + 1) off e'

structure Record where
  type : Nat
  data : List UInt8

def Record.IsA (r : Record) : Prop := r.type = 1 ∧ r.data.length = 4

/-- A record at the offset `off`, all of it inside the buffer, ends before `e'`. -/
def RecordAt (off : Nat) (r : Record) (e' : Nat) : Prop :=
  ∃ e, NameEnds rbuf off e ∧ e' = e + 10 + be (field rbuf (e + 8) 2) ∧ e' ≤ rbuf.length ∧
    r = ⟨be (field rbuf e 2), field rbuf (e + 10) (be (field rbuf (e + 8) 2))⟩

inductive Records : Nat → Nat → List Record → Nat → Prop
  | nil (off : Nat) : Records 0 off [] off
  | cons {a off e e' : Nat} {r : Record} {rs : List Record} : RecordAt rbuf off r e →
      Records a e rs e' → Records (a + 1) off (r :: rs) e'

def qdcount : Nat := be (field rbuf 4 2)

def ancount : Nat := be (field rbuf 6 2)

def rcode : UInt8 := rbuf.getD 3 0 &&& 0x0f

/-- A full header, with the query's id, of a response that is not truncated. -/
def Responds (id : UInt8 × UInt8) : Prop :=
  12 ≤ rbuf.length ∧ rbuf.getD 0 0 = id.1 ∧ rbuf.getD 1 0 = id.2 ∧
    rbuf.getD 2 0 &&& 0x80 ≠ 0 ∧ rbuf.getD 2 0 &&& 0x02 = 0

/-- All `a` records from `off` on are there and none is an A record. -/
def NoA (a off : Nat) : Prop :=
  ∃ rs e, Records rbuf a off rs e ∧ ∀ r ∈ rs, ¬ r.IsA

/-- The question section and all answer records are there and none is an A record. -/
def Empty : Prop := ∃ e, Questions rbuf (qdcount rbuf) 12 e ∧ NoA rbuf (ancount rbuf) e

/-- The record of an address is among the first `a` answers. -/
def HasA (a off : Nat) (addr4 : List UInt8) : Prop :=
  ∃ n ≤ a, ∃ rs e, Records rbuf n off rs e ∧ ∃ r ∈ rs, r.IsA ∧ r.data = addr4

/-- Before all `a` records, fewer than 12 bytes are left, and none so far is an A record. -/
def RunsOut (a off : Nat) : Prop :=
  ∃ n < a, ∃ rs e, Records rbuf n off rs e ∧ (∀ r ∈ rs, ¬ r.IsA) ∧ rbuf.length < e + 12

/-- No malformed reply is a definitive miss. -/
structure Sound (id : UInt8 × UInt8) : Prop where
  inside : k3smParseA id rbuf ≠ none
  hit : ∀ addr4, k3smParseA id rbuf = some (.hit addr4) →
    ∃ e, Questions rbuf (qdcount rbuf) 12 e ∧ HasA rbuf (ancount rbuf) e addr4
  miss : k3smParseA id rbuf = some .miss →
    Responds rbuf id ∧ (rcode rbuf = 3 ∨ rcode rbuf = 0 ∧ Empty rbuf)

/-- The reply is not complete, and ends inside its question section or within the first 12
bytes of an answer. -/
def CutShort (id : UInt8 × UInt8) : Prop :=
  Responds rbuf id ∧ rcode rbuf = 0 ∧ ¬ Empty rbuf ∧
    ∀ e, Questions rbuf (qdcount rbuf) 12 e → RunsOut rbuf (ancount rbuf) e

end Replies

section Loops

variable {rbuf : List UInt8} {off e : Nat}

lemma NameEnds.of_outside (hoff : rbuf.length ≤ off) : ¬ NameEnds rbuf off e := by
  have hnone : rbuf[off]? = none := List.getElem?_eq_none hoff
  intro h
  cases h with
  | root hb => cases hnone.symm.trans hb
  | pointer hb => cases hnone.symm.trans hb
  | label hb => cases hnone.symm.trans hb

/-- With fuel for the buffer, `skipName` returns where the name ends, if it ends inside. -/
lemma skipName_spec {fuel : Nat} (hfuel : rbuf.length ≤ off + fuel) :
    ∃ e, skipName rbuf (fuel + 1) off = some e ∧ off < e ∧
      ∀ e', NameEnds rbuf off e' ↔ e' = e ∧ e ≤ rbuf.length := by
  induction fuel generalizing off with
  | zero =>
    refine ⟨off + 1, if_pos hfuel, Nat.lt_succ_self off, fun e' => ?_⟩
    exact iff_of_false (NameEnds.of_outside hfuel) (by omega)
  | succ fuel ih =>
    by_cases hoff : rbuf.length ≤ off
    · refine ⟨off + 1, if_pos hoff, Nat.lt_succ_self off, fun e' => ?_⟩
      exact iff_of_false (NameEnds.of_outside hoff) (by omega)
    have hb : rbuf[off]? = some rbuf[off] := List.getElem?_eq_getElem (by omega)
    generalize rbuf[off] = b at hb
    rw [skipName, if_neg hoff, hb]
    simp only
    split
    · next hzero =>
      subst hzero
      refine ⟨off + 1, rfl, Nat.lt_succ_self off, fun e' => ⟨fun h => ?_, ?_⟩⟩
      · cases h with
        | root => exact ⟨rfl, by omega⟩
        | pointer hb' hptr =>
          cases hb.symm.trans hb'
          cases hptr
        | label hb' hne => exact absurd (Option.some.inj (hb'.symm.trans hb)) hne
      · rintro ⟨rfl, -⟩
        exact .root hb
    next hzero =>
    split
    · next hptr =>
      refine ⟨off + 2, rfl, by omega, fun e' => ⟨fun h => ?_, ?_⟩⟩
      · cases h with
        | root hb' => exact absurd (Option.some.inj (hb.symm.trans hb')) hzero
        | pointer _ _ hlen => exact ⟨rfl, hlen⟩
        | label hb' _ hnptr =>
          cases hb.symm.trans hb'
          exact absurd hptr hnptr
      · rintro ⟨rfl, hlen⟩
        exact .pointer hb hptr hlen
    · next hptr =>
      obtain ⟨e, he, hlt, hends⟩ := @ih (off + b.toNat + 1) (by omega)
      refine ⟨e, he, by omega, fun e' => ⟨fun h => (hends e').mp ?_, fun h => ?_⟩⟩
      · cases h with
        | root hb' => exact absurd (Option.some.inj (hb.symm.trans hb')) hzero
        | pointer hb' hptr' =>
          cases hb.symm.trans hb'
          exact absurd hptr' hptr
        | label hb' _ _ hrest =>
          cases hb.symm.trans hb'
          exact hrest
      · exact .label hb hzero hptr ((hends e').mpr h)

/-- `skipQuestions` returns where the questions end, if they end inside. -/
lemma skipQuestions_spec (rbuf : List UInt8) (q off : Nat) :
    ∃ e, skipQuestions rbuf q off = some e ∧ off ≤ e ∧
      (off ≤ rbuf.length → ∀ e', Questions rbuf q off e' ↔ e' = e ∧ e ≤ rbuf.length) := by
  induction q generalizing off with
  | zero =>
    refine ⟨off, rfl, Nat.le_refl off, fun hoff e' => ⟨fun h => ?_, ?_⟩⟩
    · cases h
      exact ⟨rfl, hoff⟩
    · rintro ⟨rfl, -⟩
      exact .nil _
  | succ q ih =>
    obtain ⟨e₁, hskip, hlt, hname⟩ := skipName_spec (Nat.le_add_left rbuf.length off)
    obtain ⟨e, hrest, hle, hends⟩ := ih (e₁ + 4)
    refine ⟨e, ?_, by omega, fun _ e' => ⟨fun h => ?_, fun h => ?_⟩⟩
    · rw [skipQuestions, hskip]
      exact hrest
    · cases h with
      | cons hn hfour hq =>
        obtain ⟨rfl, -⟩ := (hname _).mp hn
        exact (hends hfour e').mp hq
    · have hfour : e₁ + 4 ≤ rbuf.length := by omega
      exact .cons ((hname e₁).mpr ⟨rfl, by omega⟩) hfour ((hends hfour e').mpr h)

lemma read16_eq {i : Nat} (h : i + 2 ≤ rbuf.length) :
    read16 rbuf i = some (be (field rbuf i 2)) := by
  rw [read16, slice_eq h, Option.map_some]

lemma walkAnswers_succ (a : Nat) (hoff : off + 12 ≤ rbuf.length) :
    (∃ r e, RecordAt rbuf off r e ∧ (r.IsA ∧ walkAnswers rbuf (a + 1) off = some (.hit r.data) ∨
      ¬ r.IsA ∧ walkAnswers rbuf (a + 1) off = walkAnswers rbuf a e)) ∨
    (∀ r e, ¬ RecordAt rbuf off r e) ∧ walkAnswers rbuf (a + 1) off = some .tempfail := by
  obtain ⟨e, hskip, -, hname⟩ := skipName_spec (Nat.le_add_left rbuf.length off)
  rw [walkAnswers, if_neg (Nat.not_lt.mpr hoff), hskip]
  simp only
  split
  · next hshort =>
    refine .inr ⟨?_, rfl⟩
    rintro r e' ⟨e₁, hn, rfl, hlen, -⟩
    obtain ⟨rfl, -⟩ := (hname _).mp hn
    omega
  next hfixed =>
  rw [read16_eq (by omega), read16_eq (by omega)]
  simp only
  split
  · next hshort =>
    refine .inr ⟨?_, rfl⟩
    rintro r e' ⟨e₁, hn, rfl, hlen, -⟩
    obtain ⟨rfl, -⟩ := (hname _).mp hn
    omega
  next hdata =>
  have hlen : (field rbuf (e + 10) (be (field rbuf (e + 8) 2))).length =
      be (field rbuf (e + 8) 2) := length_field (by omega)
  refine .inl ⟨_, _, ⟨e, (hname e).mpr ⟨rfl, by omega⟩, rfl, by omega, rfl⟩, ?_⟩
  split
  · next ha =>
    refine .inl ⟨⟨ha.1, hlen.trans ha.2⟩, ?_⟩
    rw [ha.2, slice_eq (by omega), Option.map_some]
  · next ha => exact .inr ⟨fun h => ha ⟨h.1, hlen.symm.trans h.2⟩, rfl⟩

lemma RecordAt.unique {e' : Nat} {r r' : Record} (h : RecordAt rbuf off r e)
    (h' : RecordAt rbuf off r' e') : r = r' ∧ e = e' := by
  obtain ⟨f, hn, rfl, -, rfl⟩ := h
  obtain ⟨f', hn', rfl, -, rfl⟩ := h'
  obtain ⟨g, -, -, hname⟩ := skipName_spec (Nat.le_add_left rbuf.length off)
  obtain ⟨rfl, -⟩ := (hname _).mp hn
  obtain ⟨rfl, -⟩ := (hname _).mp hn'
  exact ⟨rfl, rfl⟩

/-- A hit is an A record; a miss has none, or runs out of the buffer. -/
lemma walkAnswers_spec (rbuf : List UInt8) (a off : Nat) :
    ∃ v, walkAnswers rbuf a off = some v ∧ (v = .miss → NoA rbuf a off ∨ RunsOut rbuf a off) ∧
      ∀ addr4, v = .hit addr4 → HasA rbuf a off addr4 := by
  induction a generalizing off with
  | zero =>
    refine ⟨.miss, rfl, fun _ => .inl ⟨[], off, .nil off, List.forall_mem_nil _⟩, fun addr4 h => ?_⟩
    cases h
  | succ a ih =>
    by_cases hoff : off + 12 ≤ rbuf.length
    · rcases walkAnswers_succ a hoff with ⟨r, e, hr, ⟨hA, heq⟩ | ⟨hA, heq⟩⟩ | ⟨-, heq⟩
      · refine ⟨_, heq, fun h => ?_, fun addr4 h => ?_⟩
        · cases h
        · cases h
          exact ⟨1, by omega, [r], e, .cons hr (.nil e), r, List.mem_singleton_self r, hA, rfl⟩
      · obtain ⟨v, hv, hmiss, hhit⟩ := ih e
        refine ⟨v, heq.trans hv, fun h => ?_, fun addr4 h => ?_⟩
        · rcases hmiss h with ⟨rs, e', hrs, hno⟩ | ⟨n, hn, rs, e', hrs, hno, hend⟩
          · exact .inl ⟨r :: rs, e', .cons hr hrs, List.forall_mem_cons.mpr ⟨hA, hno⟩⟩
          · exact .inr ⟨n + 1, by omega, r :: rs, e', .cons hr hrs,
              List.forall_mem_cons.mpr ⟨hA, hno⟩, hend⟩
        · obtain ⟨n, hn, rs, e', hrs, s, hs, hsA⟩ := hhit addr4 h
          exact ⟨n + 1, by omega, r :: rs, e', .cons hr hrs, s, List.mem_cons_of_mem r hs, hsA⟩
      · refine ⟨_, heq, fun h => ?_, fun addr4 h => ?_⟩ <;> cases h
    · refine ⟨.miss, if_pos (by omega), fun _ => .inr ?_, fun addr4 h => ?_⟩
      · exact ⟨0, by omega, [], off, .nil off, List.forall_mem_nil _, by omega⟩
      · cases h

lemma walkAnswers_of_records {n : Nat} {rs : List Record} (h : Records rbuf n off rs e)
    (hno : ∀ r ∈ rs, ¬ r.IsA) (a : Nat) : walkAnswers rbuf (n + a) off = some .miss ∨
      walkAnswers rbuf (n + a) off = walkAnswers rbuf a e := by
  induction h with
  | nil off => exact .inr (by rw [Nat.zero_add])
  | @cons n off e e' r rs hr _ ih =>
    rw [Nat.add_right_comm]
    by_cases hoff : off + 12 ≤ rbuf.length
    · rcases walkAnswers_succ (n + a) hoff with ⟨r', e₁, hr', hA⟩ | ⟨hnone, -⟩
      · obtain ⟨rfl, rfl⟩ := hr.unique hr'
        rcases hA with ⟨hA, -⟩ | ⟨-, heq⟩
        · exact absurd hA (hno r List.mem_cons_self)
        · rw [heq]
          exact ih fun s hs => hno s (List.mem_cons_of_mem r hs)
      · exact absurd hr (hnone r e)
    · exact .inl (if_pos (by omega))

lemma walkAnswers_miss {a : Nat} (h : NoA rbuf a off ∨ RunsOut rbuf a off) :
    walkAnswers rbuf a off = some .miss := by
  rcases h with ⟨rs, e, hrs, hno⟩ | ⟨n, hn, rs, e, hrs, hno, hend⟩
  · rcases walkAnswers_of_records hrs hno 0 with heq | heq
    · exact heq
    · exact heq
  · obtain ⟨k, rfl⟩ := Nat.exists_eq_add_of_lt hn
    rcases walkAnswers_of_records hrs hno (k + 1) with heq | heq
    · exact heq
    · exact heq.trans (if_pos hend)

end Loops

section Parser

variable {rbuf : List UInt8} {id : UInt8 × UInt8} {off : Nat}

lemma getElem?_eq_getD {i : Nat} (h : i < rbuf.length) : rbuf[i]? = some (rbuf.getD i 0) := by
  rw [List.getD_eq_getElem?_getD, List.getElem?_eq_getElem h]
  rfl

lemma k3smParseA_eq (hlen : 12 ≤ rbuf.length)
    (hskip : skipQuestions rbuf (qdcount rbuf) 12 = some off) :
    k3smParseA id rbuf = if rbuf.getD 0 0 ≠ id.1 ∨ rbuf.getD 1 0 ≠ id.2 then some .tempfail
      else if rbuf.getD 2 0 &&& 0x80 = 0 then some .tempfail
      else if rbuf.getD 2 0 &&& 0x02 ≠ 0 then some .truncated
      else if rcode rbuf = 3 then some .miss
      else if rcode rbuf ≠ 0 then some .tempfail
      else if ancount rbuf < 1 then some .miss
      else walkAnswers rbuf (ancount rbuf) off := by
  rw [k3smParseA, if_neg (Nat.not_lt.mpr hlen), getElem?_eq_getD (by omega),
    getElem?_eq_getD (by omega), getElem?_eq_getD (by omega), getElem?_eq_getD (by omega),
    read16_eq (by omega), read16_eq (by omega)]
  change skipQuestions rbuf (be (field rbuf 4 2)) 12 = some off at hskip
  simp only [hskip]
  rfl

lemma k3smParseA_of_responds (h : Responds rbuf id)
    (hskip : skipQuestions rbuf (qdcount rbuf) 12 = some off) :
    k3smParseA id rbuf = if rcode rbuf = 3 then some .miss
      else if rcode rbuf ≠ 0 then some .tempfail
      else if ancount rbuf < 1 then some .miss
      else walkAnswers rbuf (ancount rbuf) off := by
  obtain ⟨hlen, hid₀, hid₁, hqr, htc⟩ := h
  rw [k3smParseA_eq hlen hskip, if_neg (not_or.mpr ⟨not_not.mpr hid₀, not_not.mpr hid₁⟩),
    if_neg hqr, if_neg (not_not.mpr htc)]

lemma k3smParseA_of_not_responds (h : ¬ Responds rbuf id) :
    k3smParseA id rbuf = some .tempfail ∨ k3smParseA id rbuf = some .truncated := by
  by_cases hlen : 12 ≤ rbuf.length
  · obtain ⟨off, hskip, -⟩ := skipQuestions_spec rbuf (qdcount rbuf) 12
    rw [k3smParseA_eq hlen hskip]
    split
    · exact .inl rfl
    next hid =>
    split
    · exact .inl rfl
    next hqr =>
    split
    · exact .inr rfl
    next htc =>
    simp only [not_or, not_not] at hid htc
    exact absurd ⟨hlen, hid.1, hid.2, hqr, htc⟩ h
  · exact .inl (if_pos (by omega))

lemma rcode_ne (h : rcode rbuf = 0) : rcode rbuf ≠ 3 := by
  rw [h]
  decide

lemma walkAnswers_of_not_questions {a : Nat} (hlen : 12 ≤ rbuf.length) {q : Nat}
    (hskip : skipQuestions rbuf q 12 = some off) (hnot : ¬ Questions rbuf q 12 off) :
    walkAnswers rbuf a off = some .miss := by
  obtain ⟨e, hskip', -, hends⟩ := skipQuestions_spec rbuf q 12
  cases hskip.symm.trans hskip'
  cases a with
  | zero => rfl
  | succ a =>
    refine if_pos (Nat.lt_of_not_le fun hle => hnot ((hends hlen _).mpr ⟨rfl, ?_⟩))
    omega

lemma inside_k3smParseA (id : UInt8 × UInt8) (rbuf : List UInt8) : k3smParseA id rbuf ≠ none := by
  by_cases hresp : Responds rbuf id
  · obtain ⟨off, hskip, -⟩ := skipQuestions_spec rbuf (qdcount rbuf) 12
    obtain ⟨v, hv, -⟩ := walkAnswers_spec rbuf (ancount rbuf) off
    rw [k3smParseA_of_responds hresp hskip, hv]
    split_ifs <;> exact Option.some_ne_none _
  · rcases k3smParseA_of_not_responds hresp with heq | heq <;> rw [heq] <;>
      exact Option.some_ne_none _

lemma hit_of_k3smParseA {addr4 : List UInt8} (h : k3smParseA id rbuf = some (.hit addr4)) :
    ∃ e, Questions rbuf (qdcount rbuf) 12 e ∧ HasA rbuf (ancount rbuf) e addr4 := by
  by_cases hresp : Responds rbuf id
  · obtain ⟨off, hskip, -, hends⟩ := skipQuestions_spec rbuf (qdcount rbuf) 12
    obtain ⟨v, hv, -, hhit⟩ := walkAnswers_spec rbuf (ancount rbuf) off
    rw [k3smParseA_of_responds hresp hskip] at h
    split at h
    · cases h
    split at h
    · cases h
    split at h
    · cases h
    by_cases hq : Questions rbuf (qdcount rbuf) 12 off
    · exact ⟨off, hq, hhit addr4 (Option.some.inj (hv.symm.trans h))⟩
    · rw [walkAnswers_of_not_questions hresp.1 hskip hq] at h
      cases h
  · rcases k3smParseA_of_not_responds hresp with heq | heq <;> rw [heq] at h <;> cases h

lemma miss_of_k3smParseA (h : k3smParseA id rbuf = some .miss) :
    Responds rbuf id ∧ (rcode rbuf = 3 ∨ rcode rbuf = 0 ∧ (Empty rbuf ∨ CutShort rbuf id)) := by
  by_cases hresp : Responds rbuf id
  · refine ⟨hresp, or_iff_not_imp_left.mpr fun hthree => ?_⟩
    obtain ⟨off, hskip, -, hends⟩ := skipQuestions_spec rbuf (qdcount rbuf) 12
    rw [k3smParseA_of_responds hresp hskip, if_neg hthree] at h
    by_cases hcode : rcode rbuf = 0
    · refine ⟨hcode, or_iff_not_imp_left.mpr fun hempty => ⟨hresp, hcode, hempty, fun e hq => ?_⟩⟩
      obtain ⟨rfl, -⟩ := (hends hresp.1 e).mp hq
      rw [if_neg (not_not.mpr hcode)] at h
      -- with all questions there, the answers are missing
      by_cases hnone : ancount rbuf < 1
      · have hzero : ancount rbuf = 0 := by omega
        refine absurd ⟨_, hq, ?_⟩ hempty
        rw [hzero]
        exact ⟨[], _, .nil _, List.forall_mem_nil _⟩
      · rw [if_neg hnone] at h
        obtain ⟨v, hv, hmiss, -⟩ := walkAnswers_spec rbuf (ancount rbuf) e
        rcases hmiss (Option.some.inj (hv.symm.trans h)) with hno | hout
        · exact absurd ⟨_, hq, hno⟩ hempty
        · exact hout
    · rw [if_pos hcode] at h
      cases h
  · rcases k3smParseA_of_not_responds hresp with heq | heq <;> cases heq.symm.trans h

lemma miss_of_cutShort (h : CutShort rbuf id) : k3smParseA id rbuf = some .miss := by
  obtain ⟨hresp, hcode, -, hout⟩ := h
  obtain ⟨off, hskip, -⟩ := skipQuestions_spec rbuf (qdcount rbuf) 12
  rw [k3smParseA_of_responds hresp hskip, if_neg (rcode_ne hcode), if_neg (not_not.mpr hcode)]
  split
  · rfl
  · by_cases hq : Questions rbuf (qdcount rbuf) 12 off
    · exact walkAnswers_miss (.inr (hout off hq))
    · exact walkAnswers_of_not_questions hresp.1 hskip hq

/-- The parser is sound on a reply exactly if the reply is not one of those cut short that it takes
for a miss. -/
theorem sound_iff (rbuf : List UInt8) (id : UInt8 × UInt8) :
    Sound rbuf id ↔ ¬ CutShort rbuf id := by
  constructor
  · intro h hcut
    rcases (h.miss (miss_of_cutShort hcut)).2 with hthree | ⟨-, hempty⟩
    · exact rcode_ne hcut.2.1 hthree
    · exact hcut.2.2.1 hempty
  · intro hnot
    refine ⟨inside_k3smParseA id rbuf, fun addr4 => hit_of_k3smParseA, fun hmiss => ?_⟩
    obtain ⟨hresp, hcode⟩ := miss_of_k3smParseA hmiss
    exact ⟨hresp, hcode.imp_right (And.imp_right (Or.resolve_right · hnot))⟩

def cutReply : List UInt8 := [0x12, 0x34, 0x80, 0, 0, 0, 0, 1, 0, 0, 0, 0]

/-- A reply that ends inside its answers passes for a name without addresses. -/
theorem cut_reply_missed : ¬ Sound cutReply (0x12, 0x34) := by
  intro h
  have hmiss : k3smParseA (0x12, 0x34) cutReply = some .miss := by decide +kernel
  rcases (h.miss hmiss).2 with hthree | ⟨-, e, hq, rs, e', hrs, -⟩
  · exact absurd hthree (by decide +kernel)
  -- no question, and the one answer would need a byte at offset 12
  have hzero : qdcount cutReply = 0 := by decide +kernel
  have hone : ancount cutReply = 1 := by decide +kernel
  rw [hzero] at hq
  rw [hone] at hrs
  cases hq
  cases hrs with
  | cons hr _ =>
    obtain ⟨f, hname, -⟩ := hr
    exact NameEnds.of_outside (by decide +kernel) hname

end Parser

end DarwinNet.Dns.Wire
