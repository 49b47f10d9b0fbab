import UdpBench.Error

namespace UdpBench

/-- What a socket received, and from whom. -/
structure Datagram where
  source : Address
  bytes : Bytes
  deriving DecidableEq

namespace Datagram

def length (d : Datagram) : Nat := d.bytes.length

def isEmpty (d : Datagram) : Bool := d.bytes.isEmpty

/-- What fits into a buffer of `room` bytes of a datagram. -/
def fitted (d : Datagram) (room : Nat) : Datagram := { d with bytes := d.bytes.take room }

theorem fitted_eq {d : Datagram} {room : Nat} (h : d.length ≤ room) : d.fitted room = d := by
  simp [fitted, List.take_of_length_le h]

/-- What is copied out of a buffer of `room` bytes that the datagram was read into, over what the
buffer held. Only as many bytes as were read are copied. -/
def readOver (d : Datagram) (held : Bytes) (room : Nat) : Datagram :=
  let n := min d.length room
  { d with bytes := (d.bytes.take n ++ held.drop n).take n }

/-- Nothing is left of what the buffer held. -/
theorem readOver_eq_fitted (d : Datagram) (held : Bytes) (room : Nat) :
    d.readOver held room = d.fitted room := by
  have hlen : (d.bytes.take (min d.length room)).length = min d.length room := by
    rw [List.length_take, Datagram.length, Nat.min_eq_left (Nat.min_le_left ..)]
  rw [readOver, fitted, List.take_left' hlen, Datagram.length, Nat.min_comm,
    ← List.take_eq_take_min]

/-- The first `max` bytes as printable text. Three dots follow when there are more. -/
def preview (d : Datagram) (max : Nat) : String :=
  String.ofList ((d.bytes.take max).flatMap escapeByte
    ++ if max < d.bytes.length then ['.', '.', '.'] else [])

end Datagram

end UdpBench
