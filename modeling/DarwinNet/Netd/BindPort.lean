import DarwinNet.Netd.Server

/-!
The port binds of the daemon (`handleBindPort`, `authorizePort`): a wildcard socket is for
privileged ports that the `PortAuthorizer` confirms.

The handler recognises a wildcard by `IsUnspecified`, which knows `0.0.0.0` and `::` only.
The kernel binds every interface for the 4-in-6 form of `0.0.0.0` and for `::` with a zone as
well (`bindPort_opens_wildcard`), and these are the only wildcards bound without approval
(`bindPort_wildcard_approved`).
-/

namespace DarwinNet.Netd

open Netip

structure BindPortArgs where
  nodeAddr : String
  port : Int
  protocol : String
  deriving DecidableEq

/-- `PortAuthorizer.Authorize`: the error, if it does not approve. -/
abbrev PortAuthorizer := Int → String → Option String

inductive BindRefusal
  | missingArgs
  | portRange (port : Int)
  | parse (nodeAddr : String)
  | multicast (addr : Addr)
  | wildcardPort (port : Int) (addr : Addr)
  | protocol (network : String)
  | noAuthorizer (port : Int)
  | notAuthorized (port : Int) (err : String)
  | cap (max : Nat)
  deriving DecidableEq

structure BindCall where
  network : String
  addr : AddrPort
  deriving DecidableEq

def authorizePort (authorizer : Option PortAuthorizer) (port : Int) (nodeAddr : String) :
    Option BindRefusal :=
  if port < 1024 then
    match authorizer with
    | none => some (.noAuthorizer port)
    | some authorize => (authorize port nodeAddr).map (.notAuthorized port)
  else none

/-- `handleBindPort` up to the call of the executor, on a connection that holds `bound`
ports. -/
def handleBindPort (authorizer : Option PortAuthorizer) (max bound : Nat) :
    Option BindPortArgs → Except BindRefusal BindCall
  | none => .error .missingArgs
  | some args =>
    if args.port < 1 ∨ 65535 < args.port then .error (.portRange args.port)
    else match parseAddr args.nodeAddr with
      | none => .error (.parse args.nodeAddr)
      | some addr =>
        if isMulticast addr then .error (.multicast addr)
        else if isUnspecified addr ∧ 1024 ≤ args.port then .error (.wildcardPort args.port addr)
        else
          let network := if args.protocol = "" then "tcp" else args.protocol
          if network ≠ "tcp" ∧ network ≠ "udp" then .error (.protocol network)
          else match authorizePort authorizer args.port args.nodeAddr with
            | some refusal => .error refusal
            | none =>
              if max ≤ bound then .error (.cap max)
              else .ok ⟨network, addr, UInt16.ofNat args.port.toNat⟩

/-- The addresses the kernel binds on every interface. -/
def kernelWildcard : Addr → Bool
  | .v4 a => a == 0#32
  | .v6 a _ => a == 0#128 || a == 0xffff00000000#128
  | .zero => false

/-- The wildcards that `IsUnspecified` does not know: the 4-in-6 form of `0.0.0.0`, and `::`
with a zone. -/
def disguisedWildcard : Addr → Bool
  | .v6 a zone => a == 0xffff00000000#128 || (a == 0#128 && zone != "")
  | _ => false

lemma isUnspecified_of_kernelWildcard {addr : Addr} (h : kernelWildcard addr = true)
    (hplain : disguisedWildcard addr = false) : isUnspecified addr = true := by
  cases addr with
  | zero => cases h
  | v4 a => exact h
  | v6 a zone =>
    simp only [kernelWildcard, disguisedWildcard, Bool.or_eq_true, beq_iff_eq,
      Bool.or_eq_false_iff] at h hplain
    rcases h with rfl | rfl
    · simpa [isUnspecified] using hplain.2
    · exact absurd hplain.1 (by decide)

/-- A disguised wildcard is one to the kernel, and passes the handler's checks of the address. -/
lemma disguisedWildcard_spec {addr : Addr} (h : disguisedWildcard addr = true) :
    kernelWildcard addr = true ∧ isUnspecified addr = false ∧ isMulticast addr = false := by
  cases addr with
  | zero => cases h
  | v4 a => cases h
  | v6 a zone =>
    simp only [disguisedWildcard, Bool.or_eq_true, Bool.and_eq_true, beq_iff_eq, bne_iff_ne] at h
    rcases h with rfl | ⟨rfl, hzone⟩
    · exact ⟨rfl, by simp [isUnspecified], rfl⟩
    · exact ⟨rfl, by simp [isUnspecified, hzone], rfl⟩

section

variable {authorizer : Option PortAuthorizer} {max bound : Nat} {args : BindPortArgs}

/-- The requests that reach the executor. -/
lemma handleBindPort_eq_ok {call : BindCall} :
    handleBindPort authorizer max bound (some args) = .ok call ↔
      ∃ addr, parseAddr args.nodeAddr = some addr ∧ (1 ≤ args.port ∧ args.port ≤ 65535) ∧
        isMulticast addr = false ∧ ¬ (isUnspecified addr = true ∧ 1024 ≤ args.port) ∧
        (args.protocol = "" ∨ args.protocol = "tcp" ∨ args.protocol = "udp") ∧
        authorizePort authorizer args.port args.nodeAddr = none ∧ bound < max ∧
        ⟨if args.protocol = "" then "tcp" else args.protocol, addr,
          UInt16.ofNat args.port.toNat⟩ = call := by
  have hnetwork : ¬ ((if args.protocol = "" then "tcp" else args.protocol) ≠ "tcp" ∧
      (if args.protocol = "" then "tcp" else args.protocol) ≠ "udp") ↔
      args.protocol = "" ∨ args.protocol = "tcp" ∨ args.protocol = "udp" := by
    split <;> grind
  have hrange : ¬ (args.port < 1 ∨ 65535 < args.port) ↔ 1 ≤ args.port ∧ args.port ≤ 65535 := by
    omega
  rw [handleBindPort, ← hnetwork, ← hrange]
  cases parseAddr args.nodeAddr with
  | none => grind
  | some addr =>
    cases authorizePort authorizer args.port args.nodeAddr with
    | none => grind
    | some refusal => grind

/-- A bind of the kernel's wildcard has a privileged port and the authorizer's approval, unless
the request names a disguised wildcard, with a port from 1024 on, a known protocol and room on
its connection. -/
theorem bindPort_wildcard_approved (authorizer : Option PortAuthorizer) (max bound : Nat)
    (args : BindPortArgs) :
    (∀ call, handleBindPort authorizer max bound (some args) = .ok call →
      kernelWildcard call.addr.addr = true → args.port < 1024 ∧
        ∃ authorize, authorizer = some authorize ∧ authorize args.port args.nodeAddr = none) ↔
    ¬ ((∃ addr, parseAddr args.nodeAddr = some addr ∧ disguisedWildcard addr = true) ∧
      (1024 ≤ args.port ∧ args.port ≤ 65535) ∧
      (args.protocol = "" ∨ args.protocol = "tcp" ∨ args.protocol = "udp") ∧ bound < max) := by
  constructor
  · rintro h ⟨⟨addr, hparse, hdisguised⟩, hport, hproto, hroom⟩
    obtain ⟨hwild, hun, hmulti⟩ := disguisedWildcard_spec hdisguised
    have hauth : authorizePort authorizer args.port args.nodeAddr = none := if_neg (by omega)
    have hcall := handleBindPort_eq_ok.mpr ⟨addr, hparse, ⟨by omega, hport.2⟩, hmulti,
      by simp [hun], hproto, hauth, hroom, rfl⟩
    have := (h _ hcall hwild).1
    omega
  · intro hcond call hcall hwild
    obtain ⟨addr, hparse, hrange, -, hun, hproto, hauth, hroom, rfl⟩ :=
      handleBindPort_eq_ok.mp hcall
    have hport : args.port < 1024 := by
      by_contra hhigh
      by_cases hdisguised : disguisedWildcard addr = true
      · exact hcond ⟨⟨addr, hparse, hdisguised⟩, ⟨by omega, hrange.2⟩, hproto, hroom⟩
      · exact hun ⟨isUnspecified_of_kernelWildcard hwild (by simpa using hdisguised), by omega⟩
    unfold authorizePort at hauth
    rw [if_pos hport] at hauth
    split at hauth
    · cases hauth
    · rename_i authorize
      exact ⟨hport, authorize, rfl, Option.map_eq_none_iff.mp hauth⟩

end

/-- A 4-in-6 wildcard and a zoned one pass, and the kernel binds both to every interface. -/
theorem bindPort_opens_wildcard :
    (∃ call, handleBindPort none 256 0 (some ⟨"::ffff:0.0.0.0", 8080, "tcp"⟩) = .ok call ∧
      kernelWildcard call.addr.addr = true) ∧
    (∃ call, handleBindPort none 256 0 (some ⟨"::%en0", 8080, "udp"⟩) = .ok call ∧
      kernelWildcard call.addr.addr = true) := by
  refine ⟨⟨⟨"tcp", .v6 0xffff00000000#128 "", 8080⟩, ?_, rfl⟩,
    ⟨⟨"udp", .v6 0#128 "en0", 8080⟩, ?_, rfl⟩⟩
  · decide +kernel
  · decide +kernel

end DarwinNet.Netd
