import DarwinNet.Lib.Lines
import DarwinNet.Netip.Parse
import DarwinNet.Dns.Config

/-!
The names of pods (`synth.go`): `PodDNSName` writes an address and a namespace as
`a-b-c-d.ns.pod.domain`, and `PodAddrFromName` reads them back. Each is the inverse of the other
on what it accepts, up to letter case and one trailing dot (`pod_name_codec`).

A string of `synth.go` is the list of its runes here; a byte that is not part of one counts as
U+FFFD, which is what `strings.ToLower` makes of it.
-/

namespace DarwinNet.Dns

open Lib Netip

/-! ## Lower case -/

/-- `unicode.ToLower` outside ASCII, where it does not lead into ASCII. -/
structure LowerTable where
  other : Char → Char
  nonAscii : ∀ c, 128 ≤ (other c).toNat

variable (t : LowerTable)

/-- `unicode.ToLower`. Two runes outside ASCII have an ASCII lower case: the dotted capital I
and the Kelvin sign. -/
def toLowerRune (c : Char) : Char :=
  if c.toNat < 128 then c.toLower
  else if c.toNat = 0x130 then 'i'
  else if c.toNat = 0x212a then 'k'
  else t.other c

def toLower (s : Text) : Text := s.map (toLowerRune t)

/-! ## Labels and domains -/

def isLabelChar (c : Char) : Bool := ('a' ≤ c && c ≤ 'z') || ('0' ≤ c && c ≤ '9') || c = '-'

def isDNSLabel (s : Text) : Bool :=
  s ≠ [] && s.length ≤ 63 && s.all isLabelChar && s.head? ≠ some '-' && s.getLast? ≠ some '-'

inductive SynthError
  | emptyDomain
  | domainLabel (clusterDomain label : Text)
  | serviceLabel (name namespace_ : Text)
  | clusterIP (svcName : Text)
  | endpointIP (svcName : Text) (ip : Addr)
  | endpointHostname (svcName hostname : Text)
  | portName (svcName name : Text)
  | protocol (svcName name protocol : Text)
  | reverseIP (ip : Addr)
  | namespaceLabel (namespace_ : Text)
  | notIPv4 (ip : Addr)
  | notUnder (name domain : Text)
  | notPodName (name suffix : Text)
  | podNamespace (name ns : Text)
  | notDashed (name dashed : Text)
  deriving DecidableEq

def normalizeDomain (clusterDomain : Text) : Except SynthError Text :=
  let d := toLower t (stripDot clusterDomain)
  if d = [] then .error .emptyDomain
  else match (d.splitOn '.').find? fun label => !isDNSLabel label with
    | some label => .error (.domainLabel clusterDomain label)
    | none => .ok d

def dashedIP (a : BitVec 32) : Text :=
  ['-'].intercalate ((octets4 a).map (Nat.toDigits 10))

/-! ## The codec -/

def podSuffix (domain : Text) : Text := ".pod.".toList ++ domain

def podDNSName (ip : Addr) (namespace_ clusterDomain : Text) : Except SynthError Text :=
  match normalizeDomain t clusterDomain with
  | .error err => .error err
  | .ok domain =>
    let ns := toLower t namespace_
    if !isDNSLabel ns then .error (.namespaceLabel namespace_)
    else match ip with
      | .v4 a => .ok (dashedIP a ++ '.' :: (ns ++ podSuffix domain))
      | ip => .error (.notIPv4 ip)

def podAddrFromName (name clusterDomain : Text) : Except SynthError (Addr × Text) :=
  match normalizeDomain t clusterDomain with
  | .error err => .error err
  | .ok domain =>
    let q := toLower t (stripDot name)
    match cutSuffix q (podSuffix domain) with
    | none => .error (.notUnder name domain)
    | some rest =>
      match cut '.' rest with
      | none => .error (.notPodName name (podSuffix domain))
      | some (dashed, ns) =>
        if dashed = [] || ns = [] || ns.contains '.' then
          .error (.notPodName name (podSuffix domain))
        else if !isDNSLabel ns then .error (.podNamespace name ns)
        else if dashed.count '-' ≠ 3 then .error (.notDashed name dashed)
        else
          match parseAddr (String.ofList (dashed.map fun c => if c = '-' then '.' else c)) with
          | some (.v4 a) => .ok (.v4 a, ns)
          | _ => .error (.notDashed name dashed)

/-! ## Lower case of what is written -/

variable {t} {c : Char} {s name clusterDomain d ns domain : Text} {a : BitVec 32}

lemma ascii_cases {P : Char → Prop} (h : ∀ n < 128, P (Char.ofNat n)) (hc : c.toNat < 128) :
    P c := by
  have hn := h c.toNat hc
  rwa [Char.ofNat_toNat] at hn

lemma toLowerRune_ascii (h : c.toNat < 128) : toLowerRune t c = c.toLower := if_pos h

lemma toLowerRune_eq_dot : toLowerRune t c = '.' ↔ c = '.' := by
  by_cases h : c.toNat < 128
  · rw [toLowerRune_ascii h]
    exact ascii_cases (P := fun c => c.toLower = '.' ↔ c = '.') (by decide) h
  have hne : c ≠ '.' := by
    rintro rfl
    exact h (by decide)
  have hlower : toLowerRune t c ≠ '.' := by
    unfold toLowerRune
    rw [if_neg h]
    split
    · decide
    split
    · decide
    · intro hdot
      have hother := t.nonAscii c
      rw [hdot] at hother
      exact absurd hother (by decide)
  exact iff_of_false hlower hne

lemma stripDot_toLower (s : Text) : stripDot (toLower t s) = toLower t (stripDot s) := by
  have hlast : (toLower t s).getLast? = some '.' ↔ s.getLast? = some '.' := by
    rw [toLower, List.getLast?_map, Option.map_eq_some_iff]
    simp only [toLowerRune_eq_dot, exists_eq_right]
  unfold stripDot
  simp only [hlast]
  split
  · rw [toLower, toLower, List.map_dropLast]
  · rfl

lemma isLabelChar_lower (h : isLabelChar c = true) : c.toNat < 128 ∧ c.toLower = c ∧ c ≠ '.' := by
  have hascii : c.toNat < 128 := by
    simp only [isLabelChar, Bool.or_eq_true, Bool.and_eq_true, decide_eq_true_eq] at h
    rcases h with (⟨-, hle⟩ | ⟨-, hle⟩) | rfl
    · exact Nat.lt_of_le_of_lt (show c.toNat ≤ 122 from hle) (by decide)
    · exact Nat.lt_of_le_of_lt (show c.toNat ≤ 57 from hle) (by decide)
    · decide
  exact ⟨hascii, ascii_cases (P := fun c => isLabelChar c = true → c.toLower = c ∧ c ≠ '.')
    (by decide) hascii h⟩

def isNameChar (c : Char) : Bool := isLabelChar c || c = '.'

lemma isNameChar_lower (h : isNameChar c = true) : c.toNat < 128 ∧ c.toLower = c := by
  simp only [isNameChar, Bool.or_eq_true, decide_eq_true_eq] at h
  rcases h with h | rfl
  · exact ⟨(isLabelChar_lower h).1, (isLabelChar_lower h).2.1⟩
  · decide

lemma toLower_eq_self (h : s.all isNameChar = true) : toLower t s = s := by
  have hid : ∀ c ∈ s, toLowerRune t c = id c := by
    intro c hc
    obtain ⟨hascii, hlower⟩ := isNameChar_lower (List.all_eq_true.mp h c hc)
    rw [toLowerRune_ascii hascii, hlower, id]
  rw [toLower, List.map_congr_left hid, List.map_id]

lemma ascii_of_toLower (h : c.toLower.toNat < 128) : c.toNat < 128 := by
  by_contra hge
  have hupper : ¬ (c.val ≥ 'A'.val ∧ c.val ≤ 'Z'.val) := by
    rintro ⟨-, hle⟩
    exact hge (Nat.lt_of_le_of_lt (show c.toNat ≤ 90 from hle) (by decide))
  rw [show c.toLower = c from dif_neg hupper] at h
  exact hge h

lemma toLower_of_spelling {spelled : Text} (hname : name.all isNameChar = true)
    (h : spelled.map Char.toLower = name) : toLower t spelled = name := by
  subst h
  refine List.map_congr_left ?_
  intro c hc
  have hchar := List.all_eq_true.mp hname c.toLower (List.mem_map_of_mem hc)
  exact toLowerRune_ascii (ascii_of_toLower (isNameChar_lower hchar).1)

/-! ## What the parts of a name are -/

lemma isDNSLabel_chars (h : isDNSLabel s = true) : s ≠ [] ∧ s.all isLabelChar = true ∧ '.' ∉ s := by
  simp only [isDNSLabel, Bool.and_eq_true, decide_eq_true_eq] at h
  obtain ⟨⟨⟨⟨hne, -⟩, hall⟩, -⟩, -⟩ := h
  refine ⟨hne, hall, ?_⟩
  intro hdot
  exact (isLabelChar_lower (List.all_eq_true.mp hall _ hdot)).2.2 rfl

lemma nameChars_of_label (h : s.all isLabelChar = true) : s.all isNameChar = true := by
  refine List.all_eq_true.mpr ?_
  intro c hc
  rw [isNameChar, List.all_eq_true.mp h c hc, Bool.true_or]

lemma normalizeDomain_ok (h : normalizeDomain t clusterDomain = .ok d) :
    d ≠ [] ∧ ∀ label ∈ d.splitOn '.', isDNSLabel label = true := by
  unfold normalizeDomain at h
  simp only at h
  split at h
  · cases h
  next hne =>
  split at h
  · cases h
  next hfind =>
  cases h
  refine ⟨hne, ?_⟩
  intro label hlabel
  simpa using List.find?_eq_none.mp hfind label hlabel

lemma domain_chars (h : ∀ label ∈ d.splitOn '.', isDNSLabel label = true) :
    d.all isNameChar = true := by
  refine List.all_eq_true.mpr ?_
  intro c hc
  have hsplit : ['.'].intercalate (d.splitOn '.') = d := List.intercalate_splitOn '.'
  rw [← hsplit] at hc
  rcases mem_intercalate hc with rfl | ⟨label, hlabel, hmem⟩
  · rfl
  · have hall := nameChars_of_label (isDNSLabel_chars (h label hlabel)).2.1
    exact List.all_eq_true.mp hall c hmem

lemma domain_last (hne : d ≠ []) (h : ∀ label ∈ d.splitOn '.', isDNSLabel label = true) :
    d.getLast? ≠ some '.' := by
  intro hlast
  obtain ⟨pre, rfl⟩ := List.getLast?_eq_some_iff.mp hlast
  refine (isDNSLabel_chars (h [] ?_)).1 rfl
  rw [List.splitOn_append_cons_self]
  simp

/-! ## The dashed form -/

lemma digit_chars {n : Nat} (h : c ∈ Nat.toDigits 10 n) :
    isLabelChar c = true ∧ c ≠ '-' ∧ c ≠ '.' := by
  obtain ⟨d, hd, rfl⟩ := mem_toDigits (by decide) h
  have hall : ∀ d < 10, isLabelChar d.digitChar = true ∧ d.digitChar ≠ '-' ∧ d.digitChar ≠ '.' := by
    decide
  exact hall d hd

lemma dashedIP_octets (a : BitVec 32) : dashedIP a =
    Nat.toDigits 10 (a.toNat / 2 ^ 24 % 256) ++ '-' :: (Nat.toDigits 10 (a.toNat / 2 ^ 16 % 256) ++
      '-' :: (Nat.toDigits 10 (a.toNat / 2 ^ 8 % 256) ++
        '-' :: Nat.toDigits 10 (a.toNat % 256))) := by
  have hrange : List.range 4 = [0, 1, 2, 3] := rfl
  simp [dashedIP, octets4, hrange, List.intercalate_cons_cons, BitVec.toNat_ushiftRight,
    Nat.shiftRight_eq_div_pow]

lemma undash_dashedIP (a : BitVec 32) :
    (dashedIP a).map (fun c => if c = '-' then '.' else c) = (string4 a).toList := by
  have hdigits : ∀ n, (Nat.toDigits 10 n).map (fun c => if c = '-' then '.' else c) =
      Nat.toDigits 10 n := by
    intro n
    refine (List.map_congr_left ?_).trans (List.map_id _)
    intro c hc
    exact if_neg (digit_chars hc).2.1
  rw [dashedIP_octets, toList_string4]
  simp only [List.map_append, List.map_cons, hdigits, if_true]

lemma mem_dashedIP (h : c ∈ dashedIP a) : isLabelChar c = true := by
  rw [dashedIP_octets] at h
  simp only [List.mem_append, List.mem_cons] at h
  rcases h with h | rfl | h | rfl | h | rfl | h
  · exact (digit_chars h).1
  · rfl
  · exact (digit_chars h).1
  · rfl
  · exact (digit_chars h).1
  · rfl
  · exact (digit_chars h).1

lemma dot_notMem_dashedIP (a : BitVec 32) : '.' ∉ dashedIP a := by
  intro h
  exact (isLabelChar_lower (mem_dashedIP h)).2.2 rfl

lemma count_dashedIP (a : BitVec 32) : (dashedIP a).count '-' = 3 := by
  have hdigits : ∀ n, (Nat.toDigits 10 n).count '-' = 0 := by
    intro n
    refine List.count_eq_zero.mpr ?_
    intro h
    exact (digit_chars h).2.1 rfl
  rw [dashedIP_octets]
  simp [hdigits]

lemma undash_inj {s' : Text} (hs : '.' ∉ s) (hs' : '.' ∉ s')
    (h : s.map (fun c => if c = '-' then '.' else c) =
      s'.map (fun c => if c = '-' then '.' else c)) : s = s' := by
  have hback : ∀ {u : Text}, '.' ∉ u →
      (u.map fun c => if c = '-' then '.' else c).map (fun c => if c = '.' then '-' else c) =
        u := by
    intro u hu
    rw [List.map_map]
    refine (List.map_congr_left ?_).trans (List.map_id _)
    intro c hc
    by_cases hdash : c = '-'
    · simp [hdash]
    · have hdot : c ≠ '.' := fun heq => hu (heq ▸ hc)
      simp [hdash, hdot]
  rw [← hback hs, h, hback hs']

/-! ## Both directions -/

lemma podDNSName_ok {ip : Addr} {namespace_ : Text}
    (h : podDNSName t ip namespace_ clusterDomain = .ok name) :
    ∃ a domain, ip = .v4 a ∧ normalizeDomain t clusterDomain = .ok domain ∧
      isDNSLabel (toLower t namespace_) = true ∧
      name = dashedIP a ++ '.' :: (toLower t namespace_ ++ podSuffix domain) := by
  unfold podDNSName at h
  split at h
  · cases h
  next domain hdomain =>
  simp only at h
  split at h
  · cases h
  next hns =>
  split at h
  · next a =>
    cases h
    exact ⟨a, domain, rfl, hdomain, by simpa using hns, rfl⟩
  · cases h

lemma podAddrFromName_ok {ip : Addr} (h : podAddrFromName t name clusterDomain = .ok (ip, ns)) :
    ∃ a domain dashed, ip = .v4 a ∧ normalizeDomain t clusterDomain = .ok domain ∧
      isDNSLabel ns = true ∧ '.' ∉ dashed ∧
      parseAddr (String.ofList (dashed.map fun c => if c = '-' then '.' else c)) = some (.v4 a) ∧
      toLower t (stripDot name) = dashed ++ '.' :: (ns ++ podSuffix domain) := by
  unfold podAddrFromName at h
  simp only at h
  (repeat' split at h) <;> cases h
  next domain hdomain _ _ hsuffix _ dashed _ _ a hparse hcut _ hns =>
  obtain ⟨rfl, hdot⟩ := eq_of_cut hcut
  rw [cutSuffix_eq_some] at hsuffix
  refine ⟨a, domain, dashed, rfl, hdomain, by simpa using hns, hdot, hparse, ?_⟩
  rw [hsuffix]
  simp

lemma podName_chars (hns : isDNSLabel ns = true)
    (hdomain : ∀ label ∈ domain.splitOn '.', isDNSLabel label = true) :
    (dashedIP a ++ '.' :: (ns ++ podSuffix domain)).all isNameChar = true := by
  have hdashed : (dashedIP a).all isNameChar = true :=
    nameChars_of_label (List.all_eq_true.mpr fun c hc => mem_dashedIP hc)
  have hpod : ".pod.".toList.all isNameChar = true := by decide
  simp only [podSuffix, List.all_append, List.all_cons, hdashed, hpod, domain_chars hdomain,
    nameChars_of_label (isDNSLabel_chars hns).2.1]
  rfl

lemma podName_last (hne : domain ≠ [])
    (hdomain : ∀ label ∈ domain.splitOn '.', isDNSLabel label = true) :
    (dashedIP a ++ '.' :: (ns ++ podSuffix domain)).getLast? ≠ some '.' := by
  have hsplit : dashedIP a ++ '.' :: (ns ++ podSuffix domain) =
      (dashedIP a ++ '.' :: (ns ++ ".pod.".toList)) ++ domain := by
    simp [podSuffix]
  rw [hsplit, List.getLast?_append_of_ne_nil _ hne]
  exact domain_last hne hdomain

lemma toLower_stripDot_spelling {spelled dotted : Text} (hname : name.all isNameChar = true)
    (hlast : name.getLast? ≠ some '.') (hspelled : spelled.map Char.toLower = name)
    (hdotted : dotted = spelled ∨ dotted = spelled ++ ['.']) :
    toLower t (stripDot dotted) = name := by
  have hstrip : stripDot dotted = spelled := by
    rcases hdotted with rfl | rfl
    · refine if_neg ?_
      intro hdot
      refine hlast ?_
      rw [← hspelled, List.getLast?_map, hdot]
      rfl
    · simp [stripDot]
  rw [hstrip]
  exact toLower_of_spelling hname hspelled

lemma podAddrFromName_of_name {dotted : Text}
    (hdomain : normalizeDomain t clusterDomain = .ok domain) (hns : isDNSLabel ns = true)
    (hq : toLower t (stripDot dotted) = dashedIP a ++ '.' :: (ns ++ podSuffix domain)) :
    podAddrFromName t dotted clusterDomain = .ok (.v4 a, ns) := by
  have hsuffix : cutSuffix (toLower t (stripDot dotted)) (podSuffix domain) =
      some (dashedIP a ++ '.' :: ns) := by
    rw [cutSuffix_eq_some, hq]
    simp
  have hcut : cut '.' (dashedIP a ++ '.' :: ns) = some (dashedIP a, ns) :=
    cut_append (dot_notMem_dashedIP a) ns
  obtain ⟨hne, -, hdot⟩ := isDNSLabel_chars hns
  have hparts : ¬ ((dashedIP a = [] || ns = [] || ns.contains '.') = true) := by
    have hdashed : dashedIP a ≠ [] := by
      intro hnil
      have hcount := count_dashedIP a
      rw [hnil] at hcount
      cases hcount
    simp [hdashed, hne, hdot]
  simp only [podAddrFromName, hdomain, hsuffix, hcut, if_neg hparts, hns, count_dashedIP,
    undash_dashedIP, String.ofList_toList, parseAddr_string4]
  rfl

/-- The name of a pod is read back in any spelling, and naming what was read gives the name. -/
theorem pod_name_codec (t : LowerTable) : (∀ ip namespace_ clusterDomain name spelled dotted,
      podDNSName t ip namespace_ clusterDomain = .ok name →
      spelled.map Char.toLower = name → dotted = spelled ∨ dotted = spelled ++ ['.'] →
      podAddrFromName t dotted clusterDomain = .ok (ip, toLower t namespace_)) ∧
    ∀ name clusterDomain ip ns, podAddrFromName t name clusterDomain = .ok (ip, ns) →
      podDNSName t ip ns clusterDomain = .ok (stripDot (toLower t name)) := by
  constructor
  · intro ip namespace_ clusterDomain name spelled dotted hname hspelled hdotted
    obtain ⟨a, domain, rfl, hdomain, hns, rfl⟩ := podDNSName_ok hname
    obtain ⟨hne, hlabels⟩ := normalizeDomain_ok hdomain
    refine podAddrFromName_of_name hdomain hns ?_
    exact toLower_stripDot_spelling (podName_chars hns hlabels) (podName_last hne hlabels)
      hspelled hdotted
  · intro name clusterDomain ip ns h
    obtain ⟨a, domain, dashed, rfl, hdomain, hns, hdot, hparse, hq⟩ := podAddrFromName_ok h
    have htext := eq_string4_of_parseAddr hparse
    rw [String.toList_ofList, ← undash_dashedIP] at htext
    have hdashed := undash_inj hdot (dot_notMem_dashedIP a) htext
    have hlower : toLower t ns = ns :=
      toLower_eq_self (nameChars_of_label (isDNSLabel_chars hns).2.1)
    rw [stripDot_toLower, hq, hdashed]
    simp only [podDNSName, hdomain, hlower, hns]
    rfl

lemma nonAscii_caseless (c : Char) : 128 ≤ (if c.toNat < 128 then 'ÿ' else c).toNat := by
  split
  · decide
  · omega

def caselessTable : LowerTable where
  other c := if c.toNat < 128 then 'ÿ' else c
  nonAscii := nonAscii_caseless

theorem pod_name_codec_default :
    podDNSName caselessTable (.v4 0x64400102#32) "Default".toList "cluster.local.".toList =
      .ok "100-64-1-2.default.pod.cluster.local".toList ∧
    podAddrFromName caselessTable "100-64-1-2.DEFAULT.POD.CLUSTER.LOCAL.".toList
      "cluster.local.".toList = .ok (.v4 0x64400102#32, "default".toList) ∧
    podDNSName caselessTable (.v4 0x64400102#32) "default".toList "cluster.local.".toList =
      .ok (stripDot (toLower caselessTable "100-64-1-2.DEFAULT.POD.CLUSTER.LOCAL.".toList)) := by
  have hname : podDNSName caselessTable (.v4 0x64400102#32) "Default".toList
      "cluster.local.".toList = .ok "100-64-1-2.default.pod.cluster.local".toList := by
    decide +kernel
  have hread := (pod_name_codec caselessTable).1 _ _ _ _
    "100-64-1-2.DEFAULT.POD.CLUSTER.LOCAL".toList _ hname (by decide +kernel) (.inr rfl)
  exact ⟨hname, hread, (pod_name_codec caselessTable).2 _ _ _ _ hread⟩

end DarwinNet.Dns
