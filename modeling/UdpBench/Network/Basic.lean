import UdpBench.Datagram
import UdpBench.Network.Route

namespace UdpBench

structure Socket where
  address : Address
  /-- The oldest datagram comes first. -/
  queue : List Datagram
  deriving DecidableEq

/-- The sockets of one host. Each is known by the address that it is bound to. -/
structure Network where
  loopback : Loopback
  sockets : List Socket

namespace Network

def empty (lo : Loopback) : Network := ⟨lo, []⟩

def addresses (net : Network) : List Address := net.sockets.map Socket.address

def isFree (net : Network) (a : Address) : Bool := net.addresses.all fun b => !a.conflicts b

/-- The address that a socket gets: port 0 asks for a port to be chosen, and a scope is kept only
where it matters. -/
def assigned (a : Address) (choice : Port) : Address :=
  let a := if a.port = 0 then a.withPort choice else a
  match a with
  | .v6 ip port scope => .v6 ip port (if ip.needsScope then scope else 0)
  | a => a

/-- Opens a socket on an address. It takes the port `choice` if the address leaves it open. -/
def bind (net : Network) (a : Address) (choice : Port) : Except IoError (Address × Network) := do
  net.loopback.admits a
  let own := assigned a choice
  if net.isFree own then return (own, { net with sockets := net.sockets ++ [⟨own, []⟩] })
  else throw .addressInUse

/-- Drops a socket and what is queued in it. -/
def close (net : Network) (own : Address) : Network :=
  { net with sockets := net.sockets.filter fun s => s.address != own }

def queueOf (net : Network) (own : Address) : List Datagram :=
  match net.sockets.find? fun s => s.address == own with
  | some s => s.queue
  | none => []

def setQueue (net : Network) (own : Address) (queue : List Datagram) : Network :=
  { net with sockets := net.sockets.map fun s => if s.address = own then ⟨own, queue⟩ else s }

/-- The socket that a flow ends at. -/
def receiver? (net : Network) (target : Address) : Option Socket :=
  net.sockets.find? fun s => s.address.receives target

/-- Queues what arrives through a flow. Without a receiver it is lost, and so it is where the
interface is down. -/
def deliver (net : Network) (flow : Flow) (bytes : Bytes) : Network :=
  match net.loopback, net.receiver? flow.target with
  | .up, some s => net.setQueue s.address (s.queue ++ [⟨s.address.shownTo flow.source, bytes⟩])
  | _, _ => net

/-- What fits into one datagram: 65535 bytes less the headers of UDP and, for IPv4, of IP. -/
def sizeLimit : Address → Nat
  | .v4 .. => 65507
  | .v6 .. => 65527

/-- Sends through a flow. A datagram is accepted whole or not at all. -/
def transmit (net : Network) (flow : Flow) (bytes : Bytes) : Except IoError (Nat × Network) :=
  if sizeLimit flow.target < bytes.length then .error .messageTooLong
  else .ok (bytes.length, net.deliver flow bytes)

/-- Ties the socket bound to `own` to one target. -/
def connect (net : Network) (own target : Address) : Except IoError Flow := do
  net.loopback.flowConnected own target (← Path.between own target)

/-- IPv4 refuses lengths of more than 16 bits before it looks at the target. -/
def checkLength (isV4 : Bool) (bytes : Bytes) : Except IoError Unit :=
  if isV4 ∧ 65535 < bytes.length then .error .messageTooLong else .ok ()

/-- Datagrams that name their target need a port there. -/
def checkPort (target : Address) : Except IoError Unit :=
  if target.port = 0 then .error .invalidArgument else .ok ()

/-- Sends from the connected socket bound to `own`. One of IPv6 that is tied to an IPv4 target names
it with each datagram. -/
def send (net : Network) (own : Address) (flow : Flow) (bytes : Bytes) :
    Except IoError (Nat × Network) := do
  if own.isV6 ∧ !flow.target.isV6 then
    checkLength true bytes
    checkPort flow.target
  net.transmit flow bytes

/-- Sends from the socket bound to `own`, which need not be connected. -/
def sendTo (net : Network) (own target : Address) (bytes : Bytes) :
    Except IoError (Nat × Network) := do
  checkLength (!own.isV6) bytes
  let path ← Path.between own target
  checkLength path.isV4 bytes
  checkPort target
  let flow ← net.loopback.flowTo own target path
  net.transmit flow bytes

/-- Takes the oldest datagram from a socket's queue. -/
def receive? (net : Network) (own : Address) : Option (Datagram × Network) :=
  match net.queueOf own with
  | d :: queue => some (d, net.setQueue own queue)
  | [] => none

end Network

end UdpBench
