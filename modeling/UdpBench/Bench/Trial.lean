import UdpBench.Bench.Label
import UdpBench.Fire
import UdpBench.Listen.Command

namespace UdpBench.Trial

/-- Runs the program that fires, on a host where someone listens at its target, and returns what is
received there. -/
def fire (lo : Loopback) (arguments : List Argument) : Except IoError (Report × List Bytes) := do
  let (own, net) ← (Network.empty lo).bind Sender.defaultTarget 0
  let (report, net) := Fire.command net ephemeralPort arguments
  return (report, (net.queueOf own).map Datagram.bytes)

/-- What is done to a program that listens: a peer sends to a target some time after the start, and
the target may have been taken before it. -/
structure Visit where
  target : Address
  occupied : Bool
  delay : Time
  sends : List Bytes

/-- A free port, which arguments and targets may name. -/
def freePort : Port := ephemeralPort 0

def expand (text : String) : String :=
  let port (name : String) := if name = "port" then some freePort else none
  String.ofList (expandNames port 0 text.toList)

def label (port : Port) : List Char := if port = freePort then braced "port".toList else ['*']

/-- A text without the ports that the system chose, but with the free port's name. -/
def mask (text : String) : String := String.ofList (maskPorts label 0 text.toList)

/-- Trials need a loopback interface that carries datagrams. -/
def probe (net : Network) : Except IoError Unit := do
  let (own, net) ← net.bind (.v4 .localhost 0) freePort
  let _ ← net.sendTo own own []

def occupy (net : Network) (v : Visit) : Except IoError Network :=
  if v.occupied then (·.2) <$> net.bind v.target (ephemeralPort 1) else .ok net

def sendEach (own target : Address) (net : Network) (sends : List Bytes) :
    Except IoError Network :=
  sends.foldlM (fun net bytes => (·.2) <$> net.sendTo own target bytes) net

/-- Longer than this nobody waits for a listener to stop by itself. -/
def patience : Nat := 100000

/-- Opens the sink, lets the peer send, and listens. -/
def meet (net : Network) (peer : Address) (v : Visit) (s : Listen.Settings) :
    Except IoError (Listen.Ending × Network) :=
  match Listen.openSink net {} (ephemeralPort 3) s with
  | .error (report, net) => .ok (.done report, net)
  | .ok (own, net) => do
    let net ← sendEach peer v.target net v.sends
    let start := Time.ofSeconds 1
    let arrivals := (net.queueOf own).map fun d => ⟨start + v.delay, d⟩
    return Listen.listen (net.setQueue own []) own ⟨start, arrivals⟩ patience "*" s

/-- Runs the program that listens, and returns what the peer gets back. -/
def listen (lo : Loopback) (arguments : List Argument) (v : Visit) :
    Except IoError (Listen.Ending × List Bytes) := do
  probe (.empty lo)
  let net ← occupy (.empty lo) v
  let (peer, net) ← net.bind v.target.localhostLike (ephemeralPort 2)
  match Listen.grammar.settings arguments with
  | .error report => return (.done report, [])
  | .ok settings =>
    let (ending, net) ← meet net peer v settings
    return (ending, (net.queueOf peer).map Datagram.bytes)

end UdpBench.Trial
