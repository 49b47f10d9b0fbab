import UdpBench.CommandLine.Report
import UdpBench.Sender

namespace UdpBench.Fire

structure Settings where
  payloads : List String
  logLevel : String
  deriving DecidableEq, Repr

def grammar : Grammar Settings where
  name := "packettest"
  about := "Fires fixed UDP datagrams at a loopback port to exercise a local receiver"
  version := "packettest 0.1.0"
  options := [.logLevel fun v s => { s with logLevel := v }, .help, .version]
  operands := some ⟨"PAYLOAD", "ASCII payloads to send, one datagram each (default: built-in pair)",
    fun v s => { s with payloads := s.payloads ++ [v] }⟩
  initial := ⟨[], "info"⟩

namespace Settings

def level (s : Settings) : Level := .parse s.logLevel

/-- What is fired. Given payloads replace the default ones. -/
def texts (s : Settings) : List String :=
  if s.payloads.isEmpty then Sender.defaultPayloads else s.payloads

end Settings

def run (net : Network) (choices : Nat → Port) (s : Settings) : Report × Network :=
  let outcome := Sender.sendAll Sender.defaultTarget choices net s.texts
  let events := .loggingStarted s.level :: outcome.events
  let report := match outcome.result with
    | .ok _ => ⟨0, "", logLines s.level events⟩
    | .error e =>
      ⟨1, "", logLines s.level (events ++ [.sendFailed e]) ++ ["packettest: " ++ e.message]⟩
  (report, outcome.net)

def command (net : Network) (choices : Nat → Port) (arguments : List Argument) :
    Report × Network :=
  match grammar.settings arguments with
  | .ok settings => run net choices settings
  | .error report => (report, net)

end UdpBench.Fire
