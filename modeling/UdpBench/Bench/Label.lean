import UdpBench.Network.Ephemeral
import UdpBench.Text.Numeral

namespace UdpBench

/-- Writes labels over the ephemeral ports in a text, which are five digits behind a colon. The
argument `skip` counts the digits still to be dropped. -/
def maskPorts (label : Port → List Char) : (skip : Nat) → List Char → List Char
  | _, [] => []
  | skip + 1, _ :: cs => maskPorts label skip cs
  | 0, c :: cs =>
    let ds := cs.takeWhile (isDigitOf 10)
    let n := numeralValue 10 ds
    if c = ':' ∧ ds.length = 5 ∧ isEphemeral n = true then
      ':' :: label n.toUInt16 ++ maskPorts label 5 cs
    else c :: maskPorts label 0 cs

/-- A text with stars over the ports that the system chose. -/
def hidePorts (text : String) : String :=
  String.ofList (maskPorts (fun _ => ['*']) 0 text.toList)

/-- A name between braces. -/
def braced (name : List Char) : List Char := '\x7b' :: name ++ ['\x7d']

/-- Writes ports over the braced names of a text that have one. -/
def expandNames (port : String → Option Port) : (skip : Nat) → List Char → List Char
  | _, [] => []
  | skip + 1, _ :: cs => expandNames port skip cs
  | 0, c :: cs =>
    let name := cs.takeWhile (· ≠ '\x7d')
    match if c = '\x7b' ∧ name.length < cs.length then port (String.ofList name) else none with
    | some n => decimal n.toNat ++ expandNames port (name.length + 1) cs
    | none => c :: expandNames port 0 cs

end UdpBench
