import UdpBench.Datagram

namespace UdpBench.Listen

structure Stats where
  datagrams : UInt64
  bytes : UInt64
  empty : UInt64
  echoed : UInt64
  deriving DecidableEq, Repr

namespace Stats

def zero : Stats := ⟨0, 0, 0, 0⟩

def add (s : Stats) (d : Datagram) : Stats :=
  { s with
    datagrams := s.datagrams + 1
    bytes := s.bytes + d.length.toUInt64
    empty := if d.isEmpty then s.empty + 1 else s.empty }

def addEcho (s : Stats) : Stats := { s with echoed := s.echoed + 1 }

/-- The figures, with the time that the program ran. Echoes are left out when there were none. -/
def lines (s : Stats) (uptime : String) : List String :=
  ["", "Sink stats (uptime: " ++ uptime ++ ")",
   "   Datagrams:   " ++ decimalText s.datagrams.toNat,
   "   Empty:       " ++ decimalText s.empty.toNat,
   "   Bytes:       " ++ decimalText s.bytes.toNat]
  ++ if s.echoed = 0 then [] else ["   Echoed:      " ++ decimalText s.echoed.toNat]

end Stats

end UdpBench.Listen
