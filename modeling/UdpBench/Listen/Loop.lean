import UdpBench.Listen.Settings
import UdpBench.Listen.Stats
import UdpBench.Sink

namespace UdpBench.Listen

/-- A single call to receive waits this long before the stop conditions are looked at again. -/
def slice : Time := .ofMilliseconds 250

/-- A listener between two turns. -/
structure Running where
  net : Network
  timeline : Timeline
  lastSeen : Time
  stats : Stats

inductive Turn
  | next (r : Running)
  | stopped (r : Running)
  | failed (e : Error) (r : Running)
  | overflowed (r : Running)

namespace Running

def start (net : Network) (timeline : Timeline) : Running := ⟨net, timeline, timeline.now, .zero⟩

def hasEnough (r : Running) (s : Settings) : Bool :=
  match s.count with
  | some count => count ≤ r.stats.datagrams
  | none => false

/-- The limit of seconds without traffic, if it has passed. -/
def idleFor? (r : Running) (s : Settings) : Option Nat :=
  match s.idleTimeout with
  | some limit =>
    if .ofSeconds limit.toNat ≤ r.timeline.now - r.lastSeen then some limit.toNat else none
  | none => none

/-- Counts, logs and, if asked to, echoes a datagram. An echo that fails is only logged. -/
def take (r : Running) (s : Settings) (own : Address) (d : Datagram) : Running × List Event :=
  let stats := r.stats.add d
  let seen : Running := { r with lastSeen := r.timeline.now, stats }
  let logged := Event.datagram stats.datagrams.toNat d
  if s.echo then
    let echoed := Sink.echo seen.net own d
    match echoed.result with
    | .ok _ => ({ seen with net := echoed.net, stats := stats.addEcho }, [logged])
    | .error e => ({ seen with net := echoed.net }, [logged, .echoFailed e])
  else (seen, [logged])

def turn (r : Running) (s : Settings) (own : Address) : Turn × List Event :=
  if r.hasEnough s then (.stopped r, [])
  else match r.idleFor? s with
    | some seconds => (.stopped r, [.idle seconds])
    | none =>
      let (receipt, net, timeline) := Sink.receive r.net own r.timeline slice
      let r := { r with net, timeline }
      match receipt with
      | .received d _ =>
        let (r, events) := r.take s own d
        (.next r, Sink.receiptEvents receipt ++ events)
      | .timedOut _ | .waiting _ => (.next r, [])
      | .failed cause _ => (.failed (.io cause) r, [])
      | .overflowed _ => (.overflowed r, [])

/-- At most `n` turns. A listener need not stop by itself. -/
def turns (s : Settings) (own : Address) : (n : Nat) → Running → Turn × List Event
  | 0, r => (.next r, [])
  | n + 1, r =>
    match r.turn s own with
    | (.next r, events) =>
      let (last, more) := turns s own n r
      (last, events ++ more)
    | ended => ended

end Running

end UdpBench.Listen
