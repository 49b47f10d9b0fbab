import UdpBench.Log
import UdpBench.Network.Basic

namespace UdpBench

/-- How an operation ended, what it left behind and what it logged. -/
structure Outcome (α : Type) where
  result : Except Error α
  net : Network
  events : List Event

end UdpBench
