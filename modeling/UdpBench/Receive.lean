import UdpBench.Datagram

namespace UdpBench

/-- Time counts nanoseconds on a clock that never goes back. -/
abbrev Time := Nat

namespace Time

def ofSeconds (n : Nat) : Time := n * 1000000000

def ofMilliseconds (n : Nat) : Time := n * 1000000

/-- The clock holds its seconds in 63 bits. -/
def isRepresentable (t : Time) : Bool := t / 1000000000 < 0x8000000000000000

end Time

/-- How a wait for the socket to become readable ends. -/
inductive Wake
  | readable
  | spurious
  | interrupted
  | timedOut
  | failed (cause : IoError)
  deriving DecidableEq, Repr

/-- What one attempt to read meets: what the buffer holds from earlier ones, why it fails other than
for an empty queue, and, for an empty one, what the clock says and how the wait ends. -/
structure Read where
  held : Bytes := []
  failure : Option IoError := none
  clock : Time
  wake : Wake

/-- An attempt to read with what arrives before and after it. -/
structure Round extends Read where
  before : List Datagram := []
  after : List Datagram := []

/-- How far a call has come, and the queue it leaves. -/
inductive Receipt
  | waiting (queue : List Datagram)
  | received (d : Datagram) (queue : List Datagram)
  | timedOut (queue : List Datagram)
  | failed (cause : IoError) (queue : List Datagram)
  | overflowed (queue : List Datagram)
  deriving DecidableEq

namespace Receipt

def queue : Receipt → List Datagram
  | waiting queue | received _ queue | timedOut queue | failed _ queue | overflowed queue => queue

end Receipt

/-- Datagrams are read into a buffer of this size. -/
def bufferSize : Nat := 64 * 1024

/-- Reads before it waits, so that nothing that is queued is waited for. -/
def receiveUntil (deadline : Time) : List Datagram → List Round → Receipt
  | queue, [] => .waiting queue
  | queue, r :: rounds =>
    match r.failure, queue ++ r.before with
    | some cause, queue => .failed cause (queue ++ r.after)
    | none, d :: queue => .received (d.readOver r.held bufferSize) (queue ++ r.after)
    | none, [] =>
      if deadline ≤ r.clock then .timedOut r.after
      else match r.wake with
        | .failed cause => .failed cause r.after
        | _ => receiveUntil deadline r.after rounds

/-- Takes the oldest datagram, or gives up when the timeout has passed without one. A deadline that
the clock cannot show is noticed before anything is read. -/
def receive (start timeout : Time) (queue : List Datagram) (rounds : List Round) : Receipt :=
  if (start + timeout).isRepresentable then receiveUntil (start + timeout) queue rounds
  else .overflowed queue

end UdpBench
