import Mathlib.Data.List.DropRight
import UdpBench.Proofs.Operations

namespace UdpBench

/-- A host on which sinks are opened, used and dropped, while other sockets come, send and go. -/
structure Host where
  net : Network
  sinks : List Address
  /-- The deadlines of the calls to receive that are under way. -/
  calls : List (Address × Time)

/-- One thing done on a host. A call to receive is begun by `receive` and goes on by `attempt`s to
read, between which anything else may be done. Peers are sockets that are not sinks. -/
inductive Act
  | bind (poller : Sink.Poller) (requested : Address) (choice : Port)
  | drop (sink : Address)
  | send (target : Address) (text : String) (choice : Port)
  | sendAll (target : Address) (texts : List String) (choices : Nat → Port)
  | receive (sink : Address) (start timeout : Time)
  | attempt (sink : Address) (read : Read)
  | echo (sink : Address) (d : Datagram)
  | openPeer (requested : Address) (choice : Port)
  | closePeer (peer : Address)
  | peerSend (peer target : Address) (bytes : Bytes)
  | peerReceive (peer : Address)

/-- What the one who acts is told. -/
inductive Reply
  | opened (own : Address)
  | closed
  | sent (length : Nat)
  | counted (datagrams : Nat)
  | waiting
  | received (d : Datagram)
  | timedOut
  | failed (e : Error)
  | overflowed
  | refused (cause : IoError)
  | nothing
  /-- There is no such socket, or no call under way at it. -/
  | absent
  deriving DecidableEq

/-- What the history of a host keeps: when sinks were opened, what was sent, and what the calls to
receive returned. -/
inductive Record
  | opened (sink : Address)
  | sent (e : Emission)
  | returned (sink : Address) (d : Datagram)
  deriving DecidableEq

structure Effect where
  reply : Reply
  host : Host
  records : List Record

namespace Host

def empty (lo : Loopback) : Host := ⟨.empty lo, [], []⟩

def isPeer (h : Host) (a : Address) : Bool := h.net.addresses.contains a && !h.sinks.contains a

/-- The calls without those at one sink. -/
def callsBut (h : Host) (sink : Address) : List (Address × Time) :=
  h.calls.filter fun call => call.1 != sink

def bind (h : Host) (poller : Sink.Poller) (requested : Address) (choice : Port) : Effect :=
  let tried := Sink.bind h.net poller requested choice
  match tried.result with
  | .ok own =>
    ⟨.opened own, { h with net := tried.net, sinks := own :: h.sinks }, [.opened own]⟩
  | .error e => ⟨.failed e, { h with net := tried.net }, []⟩

def drop (h : Host) (sink : Address) : Effect :=
  ⟨.closed, ⟨h.net.close sink, h.sinks.filter (· != sink), h.callsBut sink⟩, []⟩

def send (h : Host) (target : Address) (text : String) (choice : Port) : Effect :=
  let tried := Sender.send h.net target text choice
  match tried.result with
  | .ok n => ⟨.sent n, { h with net := tried.net }, [.sent (Sender.emission target choice text)]⟩
  | .error e => ⟨.failed e, { h with net := tried.net }, []⟩

def sendAll (h : Host) (target : Address) (texts : List String) (choices : Nat → Port) : Effect :=
  let tried := Sender.sendAll target choices h.net texts
  let sent := Sender.emissions target choices (Sender.accepted target choices h.net texts)
  match tried.result with
  | .ok n => ⟨.counted n, { h with net := tried.net }, sent.map .sent⟩
  | .error e => ⟨.failed e, { h with net := tried.net }, sent.map .sent⟩

/-- Begins a call, unless its deadline is beyond the end of the clock. -/
def receive (h : Host) (sink : Address) (start timeout : Time) : Effect :=
  let receipt := UdpBench.receive start timeout (h.net.queueOf sink) []
  let net := h.net.setQueue sink receipt.queue
  match receipt with
  | .overflowed _ => ⟨.overflowed, { h with net }, []⟩
  | _ => ⟨.waiting, { h with net, calls := (sink, start + timeout) :: h.callsBut sink }, []⟩

/-- One round of a call with a given deadline. -/
def attempt (h : Host) (sink : Address) (deadline : Time) (read : Read) : Effect :=
  let receipt := receiveUntil deadline (h.net.queueOf sink) [{ toRead := read }]
  let net := h.net.setQueue sink receipt.queue
  let ended : Host := { h with net, calls := h.callsBut sink }
  match receipt with
  | .waiting _ => ⟨.waiting, { h with net }, []⟩
  | .received d _ => ⟨.received d, ended, [.returned sink d]⟩
  | .timedOut _ => ⟨.timedOut, ended, []⟩
  | .failed cause _ => ⟨.failed (.io cause), ended, []⟩
  | .overflowed _ => ⟨.overflowed, ended, []⟩

def echo (h : Host) (sink : Address) (d : Datagram) : Effect :=
  let tried := Sink.echo h.net sink d
  match tried.result with
  | .ok n => ⟨.sent n, { h with net := tried.net }, [.sent ⟨sink, d.source, d.bytes⟩]⟩
  | .error e => ⟨.failed e, { h with net := tried.net }, []⟩

def openPeer (h : Host) (requested : Address) (choice : Port) : Effect :=
  match h.net.bind requested choice with
  | .ok (own, net) => ⟨.opened own, { h with net }, []⟩
  | .error cause => ⟨.refused cause, h, []⟩

def peerSend (h : Host) (peer target : Address) (bytes : Bytes) : Effect :=
  match h.net.sendTo peer target bytes with
  | .ok (n, net) => ⟨.sent n, { h with net }, [.sent ⟨peer, target, bytes⟩]⟩
  | .error cause => ⟨.refused cause, h, []⟩

def peerReceive (h : Host) (peer : Address) : Effect :=
  match h.net.receive? peer with
  | some (d, net) => ⟨.received d, { h with net }, []⟩
  | none => ⟨.nothing, h, []⟩

/-- Does what is asked of a socket if it is of the kind asked for. -/
def only (h : Host) (present : Bool) (effect : Effect) : Effect :=
  if present then effect else ⟨.absent, h, []⟩

def step (h : Host) : Act → Effect
  | .bind poller requested choice => h.bind poller requested choice
  | .drop sink => h.only (h.sinks.contains sink) (h.drop sink)
  | .send target text choice => h.send target text choice
  | .sendAll target texts choices => h.sendAll target texts choices
  | .receive sink start timeout => h.only (h.sinks.contains sink) (h.receive sink start timeout)
  | .attempt sink read =>
    match h.calls.lookup sink with
    | some deadline => h.attempt sink deadline read
    | none => ⟨.absent, h, []⟩
  | .echo sink d => h.only (h.sinks.contains sink) (h.echo sink d)
  | .openPeer requested choice => h.openPeer requested choice
  | .closePeer peer => h.only (h.isPeer peer) ⟨.closed, { h with net := h.net.close peer }, []⟩
  | .peerSend peer target bytes => h.only (h.isPeer peer) (h.peerSend peer target bytes)
  | .peerReceive peer => h.only (h.isPeer peer) (h.peerReceive peer)

/-- The host after some acts. -/
def after (h : Host) : List Act → Host
  | [] => h
  | a :: acts => (h.step a).host.after acts

/-- What some acts add to the history. -/
def history (h : Host) : List Act → List Record
  | [] => []
  | a :: acts => (h.step a).records ++ (h.step a).host.history acts

/-- The acts with the replies to them. -/
def dialogue (h : Host) : List Act → List (Act × Reply)
  | [] => []
  | a :: acts => (a, (h.step a).reply) :: (h.step a).host.dialogue acts

/-- The hosts that come to be, whether their loopback interface works or not. -/
def Reachable (h : Host) : Prop := ∃ lo acts, h = (empty lo).after acts

end Host

end UdpBench
