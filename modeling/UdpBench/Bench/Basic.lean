import UdpBench.Address.Parser
import UdpBench.Bench.Label
import UdpBench.Sender
import UdpBench.Sink

namespace UdpBench

/-- A workbench of named sinks and peers on one host. Peers are plain sockets. -/
structure Bench where
  net : Network
  now : Time
  /-- How many ports have been chosen. -/
  chosen : Nat
  sinks : List (String × Address)
  peers : List (String × Address)
  /-- The last datagram that each sink's name received. -/
  latest : List (String × Datagram)
  /-- Every port that a name had, the last one first. -/
  ports : List (String × Port)

/-- One thing to do on a bench. Addresses are texts in which braced names stand for ports. -/
inductive Step
  | bind (sink addr : String)
  | localAddress (sink : String)
  | close (sink : String)
  | send (target text : String)
  | sendDefault (text : String)
  | sendAll (target : Option String) (texts : List String)
  | receive (sink : String) (timeout : Time)
  /-- A datagram is sent on its way while the sink receives. -/
  | receiveLate (sink : String) (timeout after : Time) (target : String) (bytes : Bytes)
  | echoLatest (sink : String)
  | echoTo (sink target : String) (bytes : Bytes)
  | peerSend (peer target : String) (bytes : Bytes)
  | peerReceive (peer : String) (timeout : Time)
  | peerClose (peer : String)

inductive Answer
  | bound
  | address (a : Address)
  | closed (wasOpen : Bool)
  | sent (length : Nat)
  | counted (datagrams : Nat)
  | received (d : Option Datagram)
  | peerReceived (d : Option Datagram)
  | failed (e : Error)
  | overflowed
  | badAddress
  | noSink
  | noDatagram
  | noPeer

/-- What is said of a deadline beyond the end of the clock. -/
def overflowMessage : String := "overflow when adding duration to instant"

namespace Bench

/-- Clocks start some time before the programs. -/
def empty (lo : Loopback) : Bench where
  net := .empty lo
  now := .ofSeconds 1
  chosen := 0
  sinks := []
  peers := []
  latest := []
  ports := []

/-- The port that comes after `k` others. -/
def choice (b : Bench) (k : Nat) : Port := ephemeralPort (b.chosen + k)

def named (name : String) (a : α) (entries : List (String × α)) : List (String × α) :=
  (name, a) :: entries.filter fun entry => entry.1 != name

def unnamed (name : String) (entries : List (String × α)) : List (String × α) :=
  entries.filter fun entry => entry.1 != name

/-- The first name that had a port, between braces, or a star. -/
def label (b : Bench) (port : Port) : List Char :=
  match b.ports.reverse.find? fun entry => entry.2 == port with
  | some (name, _) => braced name.toList
  | none => ['*']

/-- A text without the ports that the system chose. -/
def mask (b : Bench) (text : String) : String := String.ofList (maskPorts b.label 0 text.toList)

def parse? (b : Bench) (addr : String) : Option Address :=
  Address.ofChars? (expandNames (fun name => b.ports.lookup name) 0 addr.toList)

def bindSink (b : Bench) (sink : String) (addr : Address) : Answer × Bench :=
  let opened := Sink.bind b.net {} addr (b.choice 0)
  match opened.result with
  | .error e => (.failed e, b)
  | .ok own =>
    let net := match b.sinks.lookup sink with
      | some earlier => opened.net.close earlier
      | none => opened.net
    (.bound, { b with net, chosen := b.chosen + 1, sinks := named sink own b.sinks,
                      ports := (sink, own.port) :: b.ports })

def closeSink (b : Bench) (sink : String) : Answer × Bench :=
  match b.sinks.lookup sink with
  | none => (.closed false, b)
  | some own => (.closed true, { b with net := b.net.close own, sinks := unnamed sink b.sinks })

def sendAll (b : Bench) (target : Address) (texts : List String) : Answer × Bench :=
  let outcome := Sender.sendAll target b.choice b.net texts
  let b := { b with net := outcome.net, chosen := b.chosen + texts.length }
  match outcome.result with
  | .ok n => (.counted n, b)
  | .error e => (.failed e, b)

def send (b : Bench) (target : Address) (text : String) : Answer × Bench :=
  let outcome := Sender.send b.net target text (b.choice 0)
  let b := { b with net := outcome.net, chosen := b.chosen + 1 }
  match outcome.result with
  | .ok n => (.sent n, b)
  | .error e => (.failed e, b)

/-- Receives at a sink. What arrives later is queued when the call is over. -/
def receive (b : Bench) (sink : String) (timeout : Time) (own : Address)
    (arrivals : List Arrival) : Answer × Bench :=
  let (receipt, net, t) := Sink.receive b.net own ⟨b.now, arrivals⟩ timeout
  let net := net.setQueue own (net.queueOf own ++ t.arrivals.map Arrival.datagram)
  let b := { b with net, now := t.now }
  match receipt with
  | .received d _ => (.received (some d), { b with latest := named sink d b.latest })
  | .timedOut _ | .waiting _ => (.received none, b)
  | .failed cause _ => (.failed (.io cause), b)
  | .overflowed _ => (.overflowed, b)

/-- The host after a datagram was sent from a socket that is closed again. Failures are ignored. -/
def sendOnce (b : Bench) (target : Address) (bytes : Bytes) : Bench :=
  match b.net.bind (target.localhostLike) (b.choice 0) with
  | .error _ => b
  | .ok (own, net) =>
    let net := match net.sendTo own target bytes with
      | .ok (_, net) => net
      | .error _ => net
    { b with net := net.close own, chosen := b.chosen + 1 }

def receiveLate (b : Bench) (sink : String) (timeout after : Time) (own target : Address)
    (bytes : Bytes) : Answer × Bench :=
  let queued := b.net.queueOf own
  let late := b.sendOnce target bytes
  let coming := (late.net.queueOf own).drop queued.length
  { late with net := late.net.setQueue own queued }.receive sink timeout own
    (coming.map fun d => ⟨b.now + after, d⟩)

def echo (b : Bench) (own : Address) (d : Datagram) : Answer × Bench :=
  let outcome := Sink.echo b.net own d
  let b := { b with net := outcome.net }
  match outcome.result with
  | .ok n => (.sent n, b)
  | .error e => (.failed e, b)

/-- The socket of a peer, opened for its first target. -/
def peerSocket (b : Bench) (peer : String) (target : Address) : Except IoError (Address × Bench) :=
  match b.peers.lookup peer with
  | some own => .ok (own, b)
  | none => do
    let (own, net) ← b.net.bind (target.localhostLike) (b.choice 0)
    return (own, { b with net, chosen := b.chosen + 1, peers := named peer own b.peers,
                          ports := (peer, own.port) :: b.ports })

def peerSend (b : Bench) (peer : String) (target : Address) (bytes : Bytes) :
    Except IoError (Answer × Bench) := do
  let (own, b) ← b.peerSocket peer target
  let (sent, net) ← b.net.sendTo own target bytes
  return (.sent sent, { b with net })

def peerReceive (b : Bench) (timeout : Time) (own : Address) : Answer × Bench :=
  match b.net.receive? own with
  | some (d, net) => (.peerReceived (some d), { b with net })
  | none => (.peerReceived none, { b with now := b.now + timeout })

def closePeer (b : Bench) (peer : String) : Answer × Bench :=
  match b.peers.lookup peer with
  | none => (.closed false, b)
  | some own => (.closed true, { b with net := b.net.close own, peers := unnamed peer b.peers })

def withAddress (b : Bench) (addr : String) (act : Address → Answer × Bench) : Answer × Bench :=
  match b.parse? addr with
  | some a => act a
  | none => (.badAddress, b)

def withSink (b : Bench) (sink : String) (act : Address → Answer × Bench) : Answer × Bench :=
  match b.sinks.lookup sink with
  | some own => act own
  | none => (.noSink, b)

/-- Does one step. A peer is the bench's own tool: where it fails, the bench gives up. -/
def step (b : Bench) : Step → Except IoError (Answer × Bench)
  | .bind sink addr => .ok <| b.withAddress addr (b.bindSink sink)
  | .localAddress sink => .ok <| b.withSink sink fun own => (.address own, b)
  | .close sink => .ok <| b.closeSink sink
  | .send addr text => .ok <| b.withAddress addr fun target => b.send target text
  | .sendDefault text => .ok <| b.send Sender.defaultTarget text
  | .sendAll none texts => .ok <| b.sendAll Sender.defaultTarget texts
  | .sendAll (some addr) texts => .ok <| b.withAddress addr fun target => b.sendAll target texts
  | .receive sink timeout => .ok <| b.withSink sink fun own => b.receive sink timeout own []
  | .receiveLate sink timeout after addr bytes =>
    .ok <| b.withAddress addr fun target => b.withSink sink fun own =>
      b.receiveLate sink timeout after own target bytes
  | .echoLatest sink =>
    match b.latest.lookup sink with
    | none => .ok (.noDatagram, b)
    | some d => .ok <| b.withSink sink fun own => b.echo own d
  | .echoTo sink addr bytes =>
    .ok <| b.withAddress addr fun target => b.withSink sink fun own => b.echo own ⟨target, bytes⟩
  | .peerSend peer addr bytes =>
    match b.parse? addr with
    | none => .ok (.badAddress, b)
    | some target => b.peerSend peer target bytes
  | .peerReceive peer timeout =>
    match b.peers.lookup peer with
    | none => .ok (.noPeer, b)
    | some own => .ok (b.peerReceive timeout own)
  | .peerClose peer => .ok (b.closePeer peer)

def run (b : Bench) : List Step → Except IoError (List Answer × Bench)
  | [] => .ok ([], b)
  | s :: steps => do
    let (answer, b) ← b.step s
    let (answers, b) ← b.run steps
    return (answer :: answers, b)

end Bench

end UdpBench
