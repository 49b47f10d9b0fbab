import UdpBench.Address.Parser
import UdpBench.CommandLine.Report
import UdpBench.Sender

namespace UdpBench

/-- Reads digits on from a number of 64 bits. The first character that is no digit counts, unless
the number got too large before it. -/
def readDigits64 : Nat → List Char → Except String Nat
  | n, [] => .ok n
  | n, c :: cs =>
    if !isDigitOf 10 c then .error "invalid digit found in string"
    else if 2 ^ 64 ≤ n * 10 + digitValue c then .error "number too large to fit in target type"
    else readDigits64 (n * 10 + digitValue c) cs

/-- A number of 64 bits. A plus sign may stand in front. -/
def readUnsigned64 (s : String) : Except String UInt64 :=
  match s.toList with
  | [] => .error "cannot parse integer from empty string"
  | ['+'] => .error "invalid digit found in string"
  | '+' :: ds => (readDigits64 0 ds).map Nat.toUInt64
  | ds => (readDigits64 0 ds).map Nat.toUInt64

def readAddress (s : String) : Except String Address :=
  match Address.parse? s with
  | some a => .ok a
  | none => .error Address.syntaxMessage

namespace Listen

structure Settings where
  bind : Address
  echo : Bool
  /-- How many datagrams to take. -/
  count : Option UInt64
  /-- How many seconds to wait for the next one. -/
  idleTimeout : Option UInt64
  logLevel : String
  deriving DecidableEq

namespace Settings

def level (s : Settings) : Level := .parse s.logLevel

end Settings

def grammar : Grammar Settings where
  name := "packet_sink"
  about := "Log UDP datagrams arriving on a loopback port"
  version := "packettest 0.1.0"
  options := [
    ⟨"bind", some 'b', "", .takeValue "ADDR" (some Sender.defaultTarget.text) fun v s =>
      (readAddress v).map fun bind => { s with bind }⟩,
    ⟨"echo", some 'e', "Send every datagram back to its source",
      .switch fun s => { s with echo := true }⟩,
    ⟨"count", some 'n', "Exit after this many datagrams", .takeValue "N" none fun v s =>
      (readUnsigned64 v).map fun n => { s with count := some n }⟩,
    ⟨"idle-timeout", none, "Exit after this many seconds without traffic",
      .takeValue "SECS" none fun v s =>
        (readUnsigned64 v).map fun n => { s with idleTimeout := some n }⟩,
    .logLevel fun v s => { s with logLevel := v }, .help, .version]
  operands := none
  initial := ⟨Sender.defaultTarget, false, none, none, "info"⟩

end Listen

end UdpBench
