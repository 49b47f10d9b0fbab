import UdpBench.Address.Basic
import UdpBench.IoError

namespace UdpBench

/-- The state of a host's loopback interface. A host whose interface is down has no local routes:
nothing crosses, and any IPv4 address passes for a local one. -/
inductive Loopback
  | up
  | down
  deriving DecidableEq, Repr

namespace Ipv4

/-- The broadcast address of the loopback network. -/
def loopbackBroadcast : Ipv4 := ⟨127, 255, 255, 255⟩

/-- Whether a socket can send from an address over the loopback interface. -/
def isSource (ip : Ipv4) : Bool := ip.isLoopback && ip != loopbackBroadcast

/-- What a socket bound to `own` shows as its address on the loopback interface. -/
def sourceOf (own : Ipv4) : Ipv4 := if own.isSource then own else localhost

end Ipv4

namespace Ipv6

def isMulticast (ip : Ipv6) : Bool :=
  match ip.groups with
  | g :: _ => g &&& 0xff00 == 0xff00
  | [] => false

/-- Link-local addresses mean nothing without an interface. -/
def needsScope (ip : Ipv6) : Bool :=
  match ip.groups with
  | g :: _ => g &&& 0xffc0 == 0xfe80 || g &&& 0xff0f == 0xff01 || g &&& 0xff0f == 0xff02
  | [] => false

end Ipv6

/-- An address of either family, where an IPv4-mapped one counts as IPv4. -/
inductive Ip
  | v4 (ip : Ipv4)
  | v6 (ip : Ipv6)
  deriving DecidableEq

namespace Ip

/-- A socket bound to `own` takes what is sent to `target`. The unspecified address takes all of its
family, and that of IPv6 takes IPv4 too. -/
def covers : (own target : Ip) → Bool
  | v4 own, v4 target => own == target || own == .unspecified
  | v6 own, v6 target => own == target || own == .unspecified
  | v6 own, v4 _ => own == .unspecified
  | v4 _, v6 _ => false

def overlaps (a b : Ip) : Bool := a.covers b || b.covers a

end Ip

namespace Address

def ip : Address → Ip
  | v4 ip _ => .v4 ip
  | v6 ip _ _ =>
    match ip.mapped? with
    | some inner => .v4 inner
    | none => .v6 ip

/-- Two sockets cannot hold conflicting addresses. -/
def conflicts (a b : Address) : Bool := a.port == b.port && a.ip.overlaps b.ip

/-- A socket bound to `own` receives what is sent to `target`. -/
def receives (own target : Address) : Bool := own.port == target.port && own.ip.covers target.ip

/-- An address as a socket of `own`'s family shows it. -/
def shownTo (own : Address) : Address → Address
  | v4 ip port => if own.isV6 then v6 (.mapped ip) port 0 else v4 ip port
  | v6 ip port scope => v6 ip port scope

end Address

/-- The stack that carries what one socket sends to one target. -/
inductive Path
  | v4 (own target : Ipv4)
  | v6 (own target : Ipv6) (scope : UInt32)
  /-- From an IPv4-mapped address to one that is not. -/
  | crossed (target : Ipv6)

namespace Path

/-- A socket bound to an IPv6 address of its own carries no IPv4. -/
def dual (own : Ipv6) (target : Ipv4) : Except IoError Path :=
  match own.mapped? with
  | some inner => .ok (v4 inner target)
  | none => if own = .unspecified then .ok (v4 .unspecified target) else .error .networkUnreachable

def between : (own target : Address) → Except IoError Path
  | .v4 own _, .v4 target _ => .ok (v4 own target)
  | .v4 .., .v6 .. => .error .familyNotSupported
  | .v6 own .., .v4 target _ => dual own target
  | .v6 own .., .v6 target _ scope =>
    match target.mapped?, own.mapped? with
    | some inner, _ => dual own inner
    | none, none => .ok (v6 own target scope)
    | none, some inner =>
      if target = .unspecified then .ok (v4 inner .localhost) else .ok (crossed target)

def isV4 : Path → Bool
  | v4 .. => true
  | _ => false

end Path

/-- Both ends of what is sent, as the carrying stack names them. -/
structure Flow where
  source : Address
  target : Address
  deriving DecidableEq

namespace Loopback

/-- The scope that names the loopback interface, the only one of a host. -/
def scope : UInt32 := 1

/-- Whether a socket may be bound to an address, whatever the others hold. -/
def admits (lo : Loopback) (a : Address) : Except IoError Unit :=
  match a.ip with
  | .v4 ip =>
    if lo = down ∨ ip.isLoopback ∨ ip = .unspecified ∨ ip = .broadcast ∨ ip.isMulticast then .ok ()
    else .error .addressNotAvailable
  | .v6 ip =>
    if ip.needsScope ∧ a.scope = 0 then .error .invalidArgument
    else if ip.needsScope ∧ a.scope ≠ scope then .error .noSuchDevice
    else if ip = .unspecified ∨ ip.isMulticast ∨ lo = up ∧ ip = .localhost then .ok ()
    else .error .addressNotAvailable

/-- Whether IPv4 finds a way from `own` to an address other than the unspecified one. A broadcast
that finds one is not permitted. One to no network in particular goes where its source is. -/
def reachV4 (lo : Loopback) (own target : Ipv4) : Except IoError Unit :=
  if lo = down then .error .networkUnreachable
  else if target = .loopbackBroadcast ∨ target = .broadcast ∧ own.isSource then
    .error .permissionDenied
  else if target.isLoopback then .ok ()
  else .error .networkUnreachable

/-- A host without local routes has no address of its own to send from. -/
def reachV6 (lo : Loopback) (target : Ipv6) : Except IoError Unit :=
  if lo = down then .error .addressNotAvailable
  else if target = .localhost then .ok ()
  else .error .networkUnreachable

/-- The unspecified target stands for the sender itself. -/
def resolveV4 (own target : Ipv4) : Ipv4 := if target = .unspecified then own.sourceOf else target

def resolveV6 (target : Ipv6) : Ipv6 := if target = .unspecified then .localhost else target

/-- The ends of an IPv4 flow. -/
def flowV4 (own target : Ipv4) (ownPort targetPort : Port) : Flow where
  source := .v4 own.sourceOf ownPort
  target := .v4 (resolveV4 own target) targetPort

/-- The ends of an IPv6 flow, which stays at the only address of the interface. -/
def flowV6 (ownPort targetPort : Port) : Flow where
  source := .v6 .localhost ownPort 0
  target := .v6 .localhost targetPort 0

def reachCrossed (lo : Loopback) (target : Ipv6) : Except IoError Flow :=
  if lo = up ∧ target = .localhost then .error .familyNotSupported else .error .networkUnreachable

/-- The way of a datagram that a socket sends to a target of its choice. Without an address of its
own a socket reaches the unspecified target on any host. An IPv4 address that a host without local
routes only lets pass is none. -/
def flowTo (lo : Loopback) (own target : Address) : Path → Except IoError Flow
  | .v4 ownIp targetIp => do
    if targetIp ≠ .unspecified ∨ own.isV6 ∧ ownIp ≠ .unspecified then
      lo.reachV4 ownIp (resolveV4 ownIp targetIp)
    return flowV4 ownIp targetIp own.port target.port
  | .v6 _ targetIp _ => do
    lo.reachV6 (resolveV6 targetIp)
    return flowV6 own.port target.port
  | .crossed targetIp => lo.reachCrossed targetIp

/-- The way to the one target of a connected socket, which has to be there beforehand. -/
def flowConnected (lo : Loopback) (own target : Address) : Path → Except IoError Flow
  | .v4 ownIp targetIp => do
    lo.reachV4 ownIp (resolveV4 ownIp targetIp)
    return flowV4 ownIp targetIp own.port target.port
  | .v6 _ targetIp scope => do
    if targetIp.needsScope ∧ scope = 0 then throw .invalidArgument
    lo.reachV6 (resolveV6 targetIp)
    return flowV6 own.port target.port
  | .crossed targetIp => lo.reachCrossed targetIp

end Loopback

end UdpBench
