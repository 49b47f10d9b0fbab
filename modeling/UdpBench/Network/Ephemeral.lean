import UdpBench.Address.Basic

namespace UdpBench

/-- The ports from which the system takes its choice. -/
def isEphemeral (n : Nat) : Bool := 32768 ≤ n && n < 61000

/-- The system's choices in turn: no port comes back before all have been used. -/
def ephemeralPort (k : Nat) : Port := (32768 + k % 28232).toUInt16

end UdpBench
