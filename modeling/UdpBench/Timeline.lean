import UdpBench.Receive

namespace UdpBench

/-- A datagram that gets to a socket at some time. -/
structure Arrival where
  time : Time
  datagram : Datagram
  deriving DecidableEq

/-- What a socket is going to receive, in order, on a host where only waiting takes time. -/
structure Timeline where
  now : Time
  arrivals : List Arrival
  deriving DecidableEq

namespace Timeline

def dueBy (t : Timeline) (time : Time) : List Datagram :=
  (t.arrivals.takeWhile fun a => a.time ≤ time).map Arrival.datagram

/-- Lets time pass. -/
def advance (t : Timeline) (time : Time) : Timeline :=
  ⟨time, t.arrivals.dropWhile fun a => a.time ≤ time⟩

/-- A wait ends with the next arrival, or at its deadline. -/
def wakeTime (t : Timeline) (deadline : Time) : Time :=
  match t.arrivals with
  | a :: _ => min a.time deadline
  | [] => deadline

/-- One call to receive. It returns at once if something is queued, and otherwise as soon as
something arrives. -/
def receive (t : Timeline) (timeout : Time) (queue : List Datagram) : Receipt × Timeline :=
  let queue := queue ++ t.dueBy t.now
  let t := t.advance t.now
  let atOnce : Round := { clock := t.now, wake := .timedOut }
  if queue.isEmpty && 0 < timeout && (t.now + timeout).isRepresentable then
    let wake := t.wakeTime (t.now + timeout)
    let woken : Round := { before := t.dueBy wake, clock := wake, wake := .timedOut }
    (UdpBench.receive t.now timeout queue [atOnce, woken], t.advance wake)
  else (UdpBench.receive t.now timeout queue [atOnce], t)

end Timeline

end UdpBench
