import DarwinNet.Lib.CText
import DarwinNet.Lib.GoMap
import DarwinNet.Netip.Addr

/-!
The resolver configuration on both sides of the environment: the encoder of
`pkg/dns/env.go` with the search list of `normalize.go`, and the reader of the
`getaddrinfo` shim (`k3sm_load_cfg`).

`netv1.DNSConfig` is declared outside this repository. Its fields are here; its methods
`WithDefaults`, `Validate` and `Servers` are parameters (`NetV1`).
-/

namespace DarwinNet.Dns

open Lib Netip

/-- A string of either language; its characters are the bytes. -/
abbrev Text := List Char

/-! ## The configuration -/

inductive DNSPolicy
  | clusterFirst
  | none
  deriving DecidableEq, Repr

structure DNSConfig where
  policy : DNSPolicy
  clusterDNSIP : Text
  clusterDomain : Text
  nameservers : List Text
  searchDomains : List Text
  ndots : Int

def defaultNDots : Int := 5

/-- The methods of `netv1.DNSConfig` the program calls. -/
structure NetV1 where
  withDefaults : DNSConfig → DNSConfig
  validate : DNSConfig → Bool
  servers : DNSConfig → List Text

/-- `WithDefaults` gives a zero `NDots` its default and changes nothing else. -/
def NetV1.DefaultsNDots (api : NetV1) : Prop :=
  ∀ cfg, api.withDefaults cfg =
    { cfg with ndots := if cfg.ndots = 0 then defaultNDots else cfg.ndots }

/-! ## The search list -/

/-- The UTF-8 forms of the characters `strings.TrimSpace` removes. -/
def spaces : List Text :=
  [[0x09], [0x0a], [0x0b], [0x0c], [0x0d], [0x20], [0xc2, 0x85], [0xc2, 0xa0],
    [0xe1, 0x9a, 0x80], [0xe2, 0x80, 0x80], [0xe2, 0x80, 0x81], [0xe2, 0x80, 0x82],
    [0xe2, 0x80, 0x83], [0xe2, 0x80, 0x84], [0xe2, 0x80, 0x85], [0xe2, 0x80, 0x86],
    [0xe2, 0x80, 0x87], [0xe2, 0x80, 0x88], [0xe2, 0x80, 0x89], [0xe2, 0x80, 0x8a],
    [0xe2, 0x80, 0xa8], [0xe2, 0x80, 0xa9], [0xe2, 0x80, 0xaf], [0xe2, 0x81, 0x9f],
    [0xe3, 0x80, 0x80]].map (·.map Char.ofNat)

def dropLeading (lead : List Text) : Nat → Text → Text
  | 0, s => s
  | n + 1, s =>
    match lead.find? (·.isPrefixOf s) with
    | some q => dropLeading lead n (s.drop q.length)
    | none => s

def trimSpace (s : Text) : Text :=
  let rest := dropLeading spaces s.length s
  (dropLeading (spaces.map List.reverse) rest.length rest.reverse).reverse

def hasOnlyRFC1123Chars (s : Text) : Bool :=
  s.all fun c => ('a' ≤ c && c ≤ 'z') || ('A' ≤ c && c ≤ 'Z') || ('0' ≤ c && c ≤ '9') ||
    c = '.' || c = '-'

def sanitizeSearch (searches : List Text) : List Text :=
  searches.filterMap fun s =>
    let s := trimSpace s
    if s ≠ [] && hasOnlyRFC1123Chars s then some s else none

def maxSearchDomains : Nat := 8

def capSearch (searches : List Text) : List Text := searches.take maxSearchDomains

def normalizeSearch (searches : List Text) : List Text := capSearch (sanitizeSearch searches)

/-! ## The environment -/

inductive EnvKey
  | server
  | servers
  | exclusive
  | domain
  | search
  | ndots
  | port
  deriving DecidableEq, Repr

abbrev Env := GoMap EnvKey Text

inductive EnvError
  | invalid
  | noUsableNameserver
  deriving DecidableEq

/-- `ipv4Servers`: the IPv4 servers in dotted form, and the others. -/
def ipv4Servers (api : NetV1) (cfg : DNSConfig) : List Text × List Text :=
  ((api.servers cfg).filterMap fun s =>
      match (parseAddr (String.ofList s)).map Addr.unmap with
      | some (.v4 a) => some (string4 a).toList
      | _ => none,
    (api.servers cfg).filter fun s =>
      match (parseAddr (String.ofList s)).map Addr.unmap with
      | some (.v4 _) => false
      | _ => true)

def maxNDots : Int := 15

def envNDots (ndots : Int) : Int :=
  let ndots := if ndots ≤ 0 then defaultNDots else ndots
  if maxNDots < ndots then maxNDots else ndots

def itoa (n : Int) : Text := Nat.toDigits 10 n.toNat

/-- `ConfigToEnvChecked`, with the nameservers it drops. -/
def configToEnvChecked (api : NetV1) (cfg : DNSConfig) : Except EnvError (Env × List Text) :=
  if !api.validate cfg then .error .invalid
  else
    let ndots := itoa (envNDots cfg.ndots)
    let search := [' '].intercalate (normalizeSearch cfg.searchDomains)
    if cfg.policy ≠ .none then
      .ok (GoMap.insertAll ∅ [(.server, cfg.clusterDNSIP), (.domain, cfg.clusterDomain),
        (.search, search), (.ndots, ndots)], [])
    else
      let (kept, dropped) := ipv4Servers api cfg
      if kept = [] then .error .noUsableNameserver
      else
        let env : Env := GoMap.insertAll ∅ [(.servers, [' '].intercalate kept),
          (.exclusive, ['1']), (.search, search), (.ndots, ndots)]
        .ok (if cfg.clusterDomain ≠ [] then env.insert .domain cfg.clusterDomain else env, dropped)

/-! ## The shim's configuration -/

def k3smMaxSearch : Nat := 8

def k3smMaxNS : Nat := 3

def k3smDNSMaxNameLen : Nat := 253

def k3smMaxName : Nat := 256

/-- `k3sm_cfg_t`; `enabled` is whether there is a server. -/
structure ShimConfig where
  exclusive : Bool
  /-- Server and port, in query order. -/
  servers : List (Text × Text)
  domain : Text
  search : List Text
  ndots : Int

def ShimConfig.enabled (c : ShimConfig) : Bool := c.servers ≠ []

def inetPton4 (s : Text) : Bool := (parseIPv4 s).isSome

def k3smParseServerToken (tok defport : Text) : Option (Text × Text) :=
  if tok = [] || 64 ≤ tok.length then none
  else
    let address := tok.takeWhile (· ≠ ':')
    match tok.dropWhile (· ≠ ':') with
    | [] => if inetPton4 address then some (address, bounded 8 defport) else none
    | _ :: port =>
      if port = [] || 5 < port.length || !port.all isDigit then none
      else if digitsValue port < 1 || 65535 < digitsValue port then none
      else if inetPton4 address then some (address, bounded 8 port) else none

/-- The buffer `k3sm_load_servers` reads: a list that does not fit is cut at its last
blank. -/
def serversBuffer (list : Text) : Text :=
  if list.length < 512 then list
  else (((bounded 512 list).reverse.dropWhile (!isBlank ·)).drop 1).reverse

def k3smLoadServers (list defport : Text) : List (Text × Text) :=
  ((tokens (serversBuffer list)).filterMap (k3smParseServerToken · defport)).take k3smMaxNS

def stripDot (s : Text) : Text := if s.getLast? = some '.' then s.dropLast else s

/-- The search loop of `k3sm_load_cfg`, with `room` free slots. -/
def k3smLoadSearch (room : Nat) : List Text → List Text
  | [] => []
  | tok :: toks =>
    if room = 0 then []
    else if stripDot tok = [] then k3smLoadSearch room toks
    else bounded k3smMaxName (stripDot tok) :: k3smLoadSearch (room - 1) toks

/-- `getenv`, with an empty value as no value. -/
def getenvSet (env : Env) (key : EnvKey) : Option Text :=
  match (env.lookup key).map cString with
  | some (c :: s) => some (c :: s)
  | _ => none

def k3smLoadCfg (env : Env) : ShimConfig :=
  let port := bounded 8 ((getenvSet env .port).getD ['5', '3'])
  { exclusive := (env.lookup .exclusive).map cString = some ['1']
    servers :=
      match getenvSet env .servers with
      | some list => k3smLoadServers list port
      | none =>
        match getenvSet env .server with
        | some server => [(bounded 64 server, port)]
        | none => []
    domain := bounded k3smMaxName (((env.lookup .domain).map cString).getD [])
    search :=
      match getenvSet env .search with
      | some search =>
        k3smLoadSearch k3smMaxSearch (tokens (bounded (k3smMaxSearch * k3smMaxName) search))
      | none => []
    ndots :=
      let n := match getenvSet env .ndots with
        | some ndots => atoi ndots
        | none => 5
      if n < 0 then 5 else n }

/-! ## What the environment carries -/

variable {s : Text} {api : NetV1} {cfg : DNSConfig} {env : Env} {dropped : List Text}

lemma normalizeSearch_mem {ds : List Text} (h : s ∈ normalizeSearch ds) :
    s ≠ [] ∧ hasOnlyRFC1123Chars s = true := by
  obtain ⟨d, -, hd⟩ := List.mem_filterMap.mp (List.mem_of_mem_take h)
  simp only [Bool.and_eq_true, decide_eq_true_eq, ne_eq] at hd
  split_ifs at hd
  next hs =>
  cases hd
  exact hs

lemma length_normalizeSearch_le (ds : List Text) : (normalizeSearch ds).length ≤ 8 :=
  List.length_take_le _ _

lemma rfc1123_char (h : hasOnlyRFC1123Chars s = true) {c : Char} (hc : c ∈ s) :
    isBlank c = false ∧ c ≠ '\x00' := by
  have hall := List.all_eq_true.mp h c hc
  refine ⟨?_, ?_⟩
  · cases hb : isBlank c with
    | false => rfl
    | true =>
      simp only [isBlank, Bool.or_eq_true, decide_eq_true_eq] at hb
      rcases hb with rfl | rfl <;> exact absurd hall (by decide)
  · rintro rfl
    exact absurd hall (by decide)

def envValue (api : NetV1) (cfg : DNSConfig) : EnvKey → Option Text
  | .server => if cfg.policy ≠ .none then some cfg.clusterDNSIP else none
  | .servers =>
    if cfg.policy ≠ .none then none else some ([' '].intercalate (ipv4Servers api cfg).1)
  | .exclusive => if cfg.policy ≠ .none then none else some ['1']
  | .domain =>
    if cfg.policy ≠ .none ∨ cfg.clusterDomain ≠ [] then some cfg.clusterDomain else none
  | .search => some ([' '].intercalate (normalizeSearch cfg.searchDomains))
  | .ndots => some (itoa (envNDots cfg.ndots))
  | .port => none

lemma lookup_env (h : configToEnvChecked api cfg = .ok (env, dropped)) (key : EnvKey) :
    env.lookup key = envValue api cfg key := by
  simp only [configToEnvChecked] at h
  split at h
  · cases h
  split at h
  · next hpolicy =>
    cases h
    cases key <;> simp [GoMap.lookup_insertAll, GoMap.lastWrite, envValue, hpolicy]
  next hpolicy =>
  split at h
  · cases h
  cases h
  rw [ne_eq, not_not] at hpolicy
  split
  · next hdomain =>
    cases key <;> simp [GoMap.lookup_insertAll, GoMap.lastWrite, envValue, hpolicy, hdomain]
  · next hdomain =>
    rw [ne_eq, not_not] at hdomain
    cases key <;> simp [GoMap.lookup_insertAll, GoMap.lastWrite, envValue, hpolicy, hdomain]

lemma envNDots_range (ndots : Int) : 1 ≤ envNDots ndots ∧ envNDots ndots ≤ 15 := by
  simp only [envNDots, defaultNDots, maxNDots]
  split <;> split <;> omega

lemma atoi_itoa {n : Int} (h : 1 ≤ n ∧ n ≤ 15) :
    cString (itoa n) ≠ [] ∧ atoi (cString (itoa n)) = n := by
  have hall : ∀ m < 16, 1 ≤ m →
      cString (Nat.toDigits 10 m) ≠ [] ∧ atoi (cString (Nat.toDigits 10 m)) = m := by
    decide
  have hm := hall n.toNat (by omega) (by omega)
  rw [Int.toNat_of_nonneg (by omega)] at hm
  exact hm

lemma getenvSet_of_lookup {key : EnvKey} (h : env.lookup key = some s) (hs : cString s ≠ []) :
    getenvSet env key = some (cString s) := by
  unfold getenvSet
  rw [h, Option.map_some]
  cases hc : cString s with
  | nil => exact absurd hc hs
  | cons c t => rfl

lemma ndots_k3smLoadCfg (h : configToEnvChecked api cfg = .ok (env, dropped)) :
    (k3smLoadCfg env).ndots = envNDots cfg.ndots := by
  have hrange := envNDots_range cfg.ndots
  obtain ⟨hne, hatoi⟩ := atoi_itoa hrange
  have hget := getenvSet_of_lookup (lookup_env h .ndots) hne
  simp only [k3smLoadCfg, hget, hatoi]
  rw [if_neg (by omega)]

lemma k3smLoadSearch_eq {room : Nat} {toks : List Text} (hroom : toks.length ≤ room)
    (hlen : ∀ t ∈ toks, (stripDot t).length < k3smMaxName) :
    k3smLoadSearch room toks = (toks.map stripDot).filter (· ≠ []) := by
  induction toks generalizing room with
  | nil => rfl
  | cons tok toks ih =>
    rw [List.length_cons] at hroom
    have hrest : ∀ t ∈ toks, (stripDot t).length < k3smMaxName :=
      fun t ht => hlen t (by simp [ht])
    unfold k3smLoadSearch
    rw [if_neg (by omega), List.map_cons]
    by_cases hnil : stripDot tok = []
    · rw [if_pos hnil, List.filter_cons_of_neg (by simp [hnil]), ih (by omega) hrest]
    · rw [if_neg hnil, List.filter_cons_of_pos (by simp [hnil]),
        bounded_eq (hlen tok (by simp)), ih (by omega) hrest]

/-- The shim reads the search list the encoder wrote, a trailing dot of each domain apart,
when the list fits its buffers. -/
lemma search_k3smLoadCfg (h : configToEnvChecked api cfg = .ok (env, dropped))
    (hlen : ∀ d ∈ normalizeSearch cfg.searchDomains, d.length ≤ 254) : (k3smLoadCfg env).search =
      ((normalizeSearch cfg.searchDomains).map stripDot).filter (· ≠ []) := by
  have hlookup : env.lookup .search = some _ := lookup_env h .search
  have hcount := length_normalizeSearch_le cfg.searchDomains
  have hmem : ∀ d ∈ normalizeSearch cfg.searchDomains, d ≠ [] ∧ hasOnlyRFC1123Chars d = true :=
    fun d hd => normalizeSearch_mem hd
  generalize normalizeSearch cfg.searchDomains = ds at hlookup hcount hmem hlen ⊢
  have hnul : cString ([' '].intercalate ds) = [' '].intercalate ds := by
    refine cString_eq fun hz => ?_
    rcases mem_intercalate hz with hz | ⟨d, hd, hz⟩
    · exact absurd hz (by decide)
    · exact (rfc1123_char (hmem d hd).2 hz).2 rfl
  cases ds with
  | nil =>
    have hget : getenvSet env .search = none := by
      unfold getenvSet
      rw [hlookup, Option.map_some, hnul]
      rfl
    simp only [k3smLoadCfg, hget]
    rfl
  | cons d ds =>
    have hne : [' '].intercalate (d :: ds) ≠ [] := by
      intro hnil
      cases ds with
      | nil =>
        rw [List.intercalate_singleton] at hnil
        exact (hmem d (by simp)).1 hnil
      | cons e es =>
        rw [List.intercalate_cons_cons] at hnil
        simp at hnil
    have hget := getenvSet_of_lookup hlookup (by rwa [hnul])
    rw [hnul] at hget
    have hfits : ([' '].intercalate (d :: ds)).length < k3smMaxSearch * k3smMaxName := by
      have hle := length_intercalate_le ' ' hlen
      have hmul : (d :: ds).length * (254 + 1) ≤ 8 * 255 := Nat.mul_le_mul_right _ hcount
      show _ < 8 * 256
      omega
    have htokens : tokens ([' '].intercalate (d :: ds)) = d :: ds :=
      tokens_join (fun w hw c hc => (rfc1123_char (hmem w hw).2 hc).1) fun w hw => (hmem w hw).1
    simp only [k3smLoadCfg, hget]
    rw [bounded_eq hfits, htokens]
    refine k3smLoadSearch_eq hcount ?_
    intro t ht
    have hstrip : (stripDot t).length ≤ t.length := by
      unfold stripDot
      split
      · rw [List.length_dropLast]
        omega
      · exact Nat.le_refl _
    have := hlen t ht
    show _ < 256
    omega

end DarwinNet.Dns
