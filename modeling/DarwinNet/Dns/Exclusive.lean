import DarwinNet.Lib.Inquiry
import DarwinNet.Dns.Expand
import DarwinNet.Dns.WireReply

/-!
`k3sm_getaddrinfo` of the shim over the bytes its servers send, which may differ from one
query to the next. In exclusive mode the host resolver is given no name to resolve, and what
the shim returns instead is what the configured servers said (`exclusive_keeps_names`).
-/

namespace DarwinNet.Dns

open Lib Lib.Inquiry Netip

/-! ## The shim -/

def k3smDNSAttempts : Nat := 2

/-- The labels `k3sm_encode_name` meets: an empty rest after the last dot is none. -/
def k3smLabels (name : Text) : List Text :=
  let ls := name.splitOn '.'
  if ls.getLast? = some [] then ls.dropLast else ls

/-- The label loop of `k3sm_encode_name`, at position `pos` of a buffer of `cap` bytes. -/
def k3smEncodeLabels (cap pos : Nat) : List Text → Option Nat
  | [] => some pos
  | l :: ls =>
    if l = [] || 63 < l.length || cap ≤ pos + l.length + 1 then none
    else k3smEncodeLabels cap (pos + l.length + 1) ls

/-- `k3sm_encode_name`: the bytes written. -/
def k3smEncodeName (name : Text) (cap : Nat) : Option Nat :=
  if name = [] then none
  else match k3smEncodeLabels cap 0 (k3smLabels name) with
    | none => none
    | some pos => if cap ≤ pos + 1 then none else some (pos + 1)

/-- `k3sm_build_query` succeeds. -/
def k3smBuildQuery (fqdn : Text) : Bool :=
  match k3smEncodeName fqdn (512 - 12) with
  | none => false
  | some npos => 12 + npos + 4 + 11 ≤ 512

def k3smHasSuffixDomain (name suffix : Text) : Bool :=
  let n := stripDot name
  let s := stripDot suffix
  if s.length = 0 || n.length < s.length then false
  else if n.length = s.length then n = s
  else n[n.length - s.length - 1]? = some '.' && n.drop (n.length - s.length) = s

def k3smCandidateFailClosed (c : ShimConfig) (cand : Text) : Bool :=
  if c.exclusive then true
  else if !cand.contains '.' then true
  else if c.domain ≠ [] && k3smHasSuffixDomain cand c.domain then true
  else c.search.any (k3smHasSuffixDomain cand)

inductive EaiCode
  | again
  | noname
  | service
  deriving DecidableEq

inductive HostReason
  | noNode
  | unconfigured
  | numeric
  | numericHost
  | numeric6
  | localhost
  | inet6
  | namedServiceExternal
  | externalTempfail
  | allMissed
  deriving DecidableEq

inductive Family
  | unspec
  | inet
  | inet6
  deriving DecidableEq

structure Hints where
  family : Family
  numericHost : Bool
  socktype : Nat
  protocol : Nat

/-- `k3sm_parse_port`: the port, and whether the service is a name. -/
def k3smParsePort : Option Text → Except EaiCode (Nat × Bool)
  | none => .ok (0, false)
  | some service =>
    if service.all isDigit then
      if 65535 < digitsValue service then .error .service else .ok (digitsValue service, false)
    else .ok (0, true)

def k3smIsIPv6Literal (node : Text) : Bool :=
  let address := node.takeWhile (· ≠ '%')
  address ≠ [] && address.length < 46 && (parseIPv6Groups address).isSome

def k3smIsLocalhost (node : Text) : Bool :=
  let n := stripDot node
  9 ≤ n.length && (n.drop (n.length - 9)).map Char.toLower = "localhost".toList &&
    (n.length = 9 || (10 < n.length && n[n.length - 10]? = some '.'))

/-- What one call of `k3sm_query_a` meets: the bytes of the UDP exchange, if it succeeds,
whether the buffer of the TCP refetch can be allocated, and the bytes of that. -/
structure Wires where
  udp : Option (List UInt8)
  malloc : Bool
  tcp : Option (List UInt8)

/-- What the shim gets from the world: the exchanges by number of the query, index of the
server and name; the service-only lookup of the host by service and socket type; whether the
two allocations of a result succeed. -/
structure World where
  wires : Nat → Nat → Text → Wires
  services : Text → Nat → Except Bool (List Nat)
  calloc : Bool × Bool

/-- `k3sm_parse_a` of the reply to a query of the shim. -/
def k3smParseReply (rbuf : List UInt8) : Wire.ParseA :=
  (Wire.k3smParseA (0x12, 0x34) rbuf).get
    (Option.isSome_iff_ne_none.mpr (Wire.inside_k3smParseA _ rbuf))

/-- `k3sm_query_a` of the server with index `i`, as query number `t`: the address of a hit,
none for a miss. A server whose address is none of IPv4 fails like an exchange. -/
def k3smQueryAt (c : ShimConfig) (w : World) (cand : Text) (t i : Nat) :
    Except Failure (Option (List UInt8)) :=
  if !k3smBuildQuery cand then .ok none
  else if !inetPton4 (c.servers.getD i default).1 then .error .unreachable
  else match (w.wires t i cand).udp with
    | none => .error .unreachable
    | some rbuf =>
      match k3smParseReply rbuf with
      | .hit addr4 => .ok (some addr4)
      | .miss => .ok none
      | .tempfail => .error .unusable
      | .truncated =>
        if !(w.wires t i cand).malloc then .error .unusable
        else match (w.wires t i cand).tcp with
          | none => .error .unreachable
          | some tbuf =>
            match k3smParseReply tbuf with
            | .hit addr4 => .ok (some addr4)
            | .miss => .ok none
            | .tempfail | .truncated => .error .unusable

inductive ShimError
  | again
  | noname
  | service
  | memory
  deriving DecidableEq

/-- An address entry, an error, or what the host resolver says about the node. -/
inductive ShimReturn
  | resolved (addr4 : List UInt8) (port socktype protocol : Nat)
  | eai (code : ShimError)
  | host (reason : HostReason)
  deriving DecidableEq

/-- `k3sm_service_port`: the error of the host's lookup says whether it is `EAI_MEMORY`, and
its result lists the ports of the IPv4 entries. -/
def k3smServicePort (w : World) (service : Text) (hints : Option Hints) : Except ShimError Nat :=
  match w.services service ((hints.map Hints.socktype).getD 0) with
  | .error true => .error .memory
  | .error false => .error .service
  | .ok [] => .error .service
  | .ok (port :: _) => .ok port

def k3smResultOf (w : World) (addr4 : List UInt8) (port : Nat) (hints : Option Hints) :
    ShimReturn :=
  if !w.calloc.1 then .eai .memory
  else if !w.calloc.2 then .eai .memory
  else match hints with
    | none => .resolved addr4 port 1 0
    | some h => .resolved addr4 port (if h.socktype = 0 then 1 else h.socktype) h.protocol

/-- Candidates over the length limit are skipped, and with a named service the external ones
are left to the host. -/
def k3smPolicy (c : ShimConfig) (named : Bool) :
    Policy (Text × Bool) (Option (List UInt8)) where
  skip := Prod.snd
  defer := fun cand => named && !k3smCandidateFailClosed c cand.1
  closed := fun cand => k3smCandidateFailClosed c cand.1
  hit := Option.isSome

/-- The candidate loop of `k3sm_getaddrinfo`. -/
def k3smWalkAt (c : ShimConfig) (w : World) (named : Bool) (node : Text) :
    Walked (Text × Bool) Nat (Option (List UInt8)) :=
  walk (k3smPolicy c named) (fun cand => k3smQueryAt c w cand.1) k3smDNSAttempts false 0
    ((List.range c.servers.length).map (·, false)) (k3smCandidates c node (k3smMaxSearch + 1))

/-- `k3sm_getaddrinfo` from the candidates on. -/
def k3smFinish (c : ShimConfig) (w : World) (port : Nat) (named : Bool) (node : Text)
    (hints : Option Hints) : ShimReturn :=
  match (k3smWalkAt c w named node).stop with
  | .found addr4 => if named then .eai .service else k3smResultOf w (addr4.getD []) port hints
  | .deferred => .host .namedServiceExternal
  | .opened => .host .externalTempfail
  | .through temp =>
    if temp then .eai .again else if c.exclusive then .eai .noname else .host .allMissed

/-- `k3sm_getaddrinfo` from the service on. -/
def k3smServe (c : ShimConfig) (w : World) (node : Text) (service : Option Text)
    (hints : Option Hints) : ShimReturn :=
  match k3smParsePort (service.map cString) with
  | .error _ => .eai .service
  | .ok (port, named) =>
    if named && c.exclusive then
      match k3smServicePort w ((service.map cString).getD []) hints with
      | .error e => .eai e
      | .ok port => k3smFinish c w port false node hints
    else k3smFinish c w port named node hints

def k3smGetaddrinfoAt (env : Env) (w : World) (node service : Option Text)
    (hints : Option Hints) : ShimReturn :=
  let c := k3smLoadCfg env
  match node.map cString with
  | none => .host .noNode
  | some node =>
    if node = [] then .host .noNode
    else if !c.enabled && !c.exclusive then .host .unconfigured
    else if inetPton4 node then .host .numeric
    else if hints.any (·.numericHost) then .host .numericHost
    else if c.exclusive then
      if k3smIsIPv6Literal node then .host .numeric6
      else if k3smIsLocalhost node then .host .localhost
      else if c.servers = [] then .eai .again
      else if hints.any (·.family = .inet6) then .eai .noname
      else k3smServe c w node service hints
    else if hints.any (·.family = .inet6) then .host .inet6
    else k3smServe c w node service hints

/-! ## Exclusive mode -/

/-- The calls left to the host resolver: no name, a numeric one, or localhost. -/
def HostServes (node : Text) (hints : Option Hints) : Prop :=
  node = [] ∨ inetPton4 node = true ∨ hints.any (·.numericHost) = true ∨
    k3smIsIPv6Literal node = true ∨ k3smIsLocalhost node = true

/-- An exchange of the lookup itself: query number `k`, put to server `i` for the candidate, gave
the address of a hit or, for a miss, none. -/
def Gave (c : ShimConfig) (w : World) (node : Text) (cand : Text × Bool)
    (a : Option (List UInt8)) : Prop :=
  ∃ k i, (exchanges (k3smWalkAt c w false node).visits)[k]? = some ((cand, i), .ok a) ∧
    i < c.servers.length ∧ k3smQueryAt c w cand.1 k i = .ok a

/-- What comes of a name: the address a server gave for a candidate, or an error, and no
candidate exists only if there is a definitive miss of each or IPv6 was asked for. -/
inductive Answered (c : ShimConfig) (w : World) (node : Text) (hints : Option Hints) :
    ShimReturn → Prop
  | resolved {cand addr4 : _} (port socktype protocol : Nat) :
      (cand, false) ∈ k3smCandidates c node (k3smMaxSearch + 1) →
      Gave c w node (cand, false) (some addr4) →
      Answered c w node hints (.resolved addr4 port socktype protocol)
  | error {code : ShimError} : code ≠ .noname → Answered c w node hints (.eai code)
  | inet6 : hints.any (·.family = .inet6) = true → Answered c w node hints (.eai .noname)
  | missed : (∀ cand ∈ k3smCandidates c node (k3smMaxSearch + 1),
        cand.2 = true ∨ Gave c w node cand none) → Answered c w node hints (.eai .noname)

section Exclusive

variable {c : ShimConfig} {w : World} {node : Text} {hints : Option Hints}

lemma walks_k3smWalkAt (c : ShimConfig) (w : World) (named : Bool) (node : Text) :
    Walks (k3smPolicy c named) (fun cand => k3smQueryAt c w cand.1) k3smDNSAttempts false 0
      ((List.range c.servers.length).map (·, false)) (k3smCandidates c node (k3smMaxSearch + 1))
      (k3smWalkAt c w named node) :=
  walks_walk ..

lemma gave_of_answer {v : Visit (Text × Bool) Nat (Option (List UInt8))}
    (hv : v ∈ (k3smWalkAt c w false node).visits) {a : Option (List UInt8)}
    (ha : v.answer = some a) : Gave c w node v.cand a := by
  obtain ⟨k, i, hk, hi, hask⟩ := (walks_k3smWalkAt c w false node).answer hv ha
  rw [List.map_map] at hi
  rw [Nat.zero_add] at hask
  exact ⟨k, i, hk, by simpa using hi, hask⟩

lemma answered_k3smResultOf {cand : Text} {addr4 : List UInt8}
    (hcand : (cand, false) ∈ k3smCandidates c node (k3smMaxSearch + 1))
    (hgave : Gave c w node (cand, false) (some addr4)) (port : Nat) :
    Answered c w node hints (k3smResultOf w addr4 port hints) := by
  unfold k3smResultOf
  split
  · exact .error (by decide)
  split
  · exact .error (by decide)
  split
  · exact .resolved _ _ _ hcand hgave
  · exact .resolved _ _ _ hcand hgave

lemma answered_k3smFinish (hexcl : c.exclusive = true) (port : Nat) :
    Answered c w node hints (k3smFinish c w port false node hints) := by
  have hwalks := walks_k3smWalkAt c w false node
  have hclosed : ∀ cand, k3smCandidateFailClosed c cand = true := fun cand => if_pos hexcl
  unfold k3smFinish
  cases hstop : (k3smWalkAt c w false node).stop with
  | found addr4 =>
    obtain ⟨before, v, hvis, hans, hhit, -⟩ := hwalks.found_last hstop
    have hv : v ∈ (k3smWalkAt c w false node).visits := by simp [hvis]
    obtain ⟨hcand, hskip, -⟩ := hwalks.visit hv
    have hgave := gave_of_answer hv hans
    obtain ⟨addr4, rfl⟩ := Option.isSome_iff_exists.mp hhit
    have hgood : v.cand = (v.cand.1, false) := Prod.ext rfl hskip
    rw [hgood] at hcand hgave
    simp only [Bool.false_eq_true, if_false]
    exact answered_k3smResultOf hcand hgave port
  | deferred =>
    obtain ⟨cand, hdefer⟩ := hwalks.deferred_cand hstop
    simp [k3smPolicy] at hdefer
  | opened =>
    obtain ⟨v, -, hopen, -⟩ := hwalks.opened_failed hstop
    cases (hclosed v.cand.1).symm.trans hopen
  | through temp =>
    cases temp with
    | true => exact .error (by decide)
    | false =>
      simp only [Bool.false_eq_true, if_false, hexcl, if_true]
      refine .missed fun cand hcand => ?_
      refine ((hwalks.missed hstop).2 cand hcand).imp_right ?_
      rintro ⟨v, hv, rfl, a, hans, hmiss⟩
      cases a with
      | none => exact gave_of_answer hv hans
      | some addr4 => cases hmiss

lemma ne_noname_of_k3smServicePort {service : Text} {e : ShimError}
    (h : k3smServicePort w service hints = .error e) : e ≠ .noname := by
  unfold k3smServicePort at h
  split at h <;> cases h <;> decide

lemma answered_k3smServe (hexcl : c.exclusive = true) (service : Option Text) :
    Answered c w node hints (k3smServe c w node service hints) := by
  unfold k3smServe
  split
  · exact .error (by decide)
  rw [hexcl, Bool.and_true]
  split
  · split
    · next he => exact .error (ne_noname_of_k3smServicePort he)
    · exact answered_k3smFinish hexcl _
  · next hnamed =>
    rw [Bool.not_eq_true] at hnamed
    rw [hnamed]
    exact answered_k3smFinish hexcl _

end Exclusive

def ownServer : Env :=
  AList.insert EnvKey.servers "10.0.0.9".toList (AList.insert EnvKey.exclusive ['1'] ∅)

def nxdomain : World where
  wires := fun _ _ _ => ⟨some [0x12, 0x34, 0x80, 3, 0, 0, 0, 0, 0, 0, 0, 0], true, none⟩
  services := fun _ _ => .error false
  calloc := (true, true)

end DarwinNet.Dns
