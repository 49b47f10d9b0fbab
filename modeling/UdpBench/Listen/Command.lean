import UdpBench.Listen.Loop

namespace UdpBench.Listen

/-- How a program that listens was last seen. -/
inductive Ending
  | done (report : Report)
  /-- It was still listening when it was last looked at. -/
  | listening
  deriving DecidableEq, Repr

/-- The exit code of a program that ended in a panic. -/
def panicCode : Nat := 101

def failure (s : Settings) (events : List Event) (e : Error) : Report :=
  ⟨1, "", logLines s.level (events ++ [.sinkFailed e]) ++ ["packet_sink: " ++ e.message]⟩

/-- What the system answers while a listener sets up its sink. -/
structure Setup where
  poller : Sink.Poller := {}
  /-- How the question for the sink's own address ended. Only the log asks it. -/
  located : Except IoError Unit := .ok ()

/-- Opens the sink, or reports why the program cannot listen, with what is left. A log that shows
information names the sink's own address. When that cannot be told the program fails, and the sink
is closed again. -/
def openSink (net : Network) (setup : Setup) (choice : Port) (s : Settings) :
    Except (Report × Network) (Address × Network) :=
  let opened := Sink.bind net setup.poller s.bind choice
  match opened.result with
  | .error e => .error (failure s [.loggingStarted s.level] e, opened.net)
  | .ok own =>
    match s.level.shows .info, setup.located with
    | true, .error cause =>
      let report := failure s [.loggingStarted s.level, .bound s.bind] (.io cause)
      .error (report, opened.net.close own)
    | _, _ => .ok (own, opened.net)

/-- What is seen of a program whose loop at `own` has come so far and logged this. A log that shows
that address was told it when the sink was opened. The end closes the sink. -/
def seen (own : Address) (uptime : String) (s : Settings) (last : Turn) (events : List Event) :
    Ending × Network :=
  let events := [Event.loggingStarted s.level, .bound s.bind, .listening own] ++ events
  match last with
  | .next r => (.listening, r.net)
  | .stopped r =>
    let output := String.join ((r.stats.lines uptime).map (· ++ "\n"))
    (.done ⟨0, output, logLines s.level events⟩, r.net.close own)
  | .failed e r => (.done (failure s events e), r.net.close own)
  | .overflowed r => (.done ⟨panicCode, "", logLines s.level events⟩, r.net.close own)

/-- Listens at an open sink for at most `n` turns. -/
def listen (net : Network) (own : Address) (timeline : Timeline) (n : Nat) (uptime : String)
    (s : Settings) : Ending × Network :=
  let (last, events) := (Running.start net timeline).turns s own n
  seen own uptime s last events

/-- Opens the sink and listens there for at most `n` turns. -/
def run (net : Network) (setup : Setup) (choice : Port) (timeline : Timeline) (n : Nat)
    (uptime : String) (s : Settings) : Ending × Network :=
  match openSink net setup choice s with
  | .ok (own, net) => listen net own timeline n uptime s
  | .error (report, net) => (.done report, net)

def command (net : Network) (setup : Setup) (choice : Port) (timeline : Timeline) (n : Nat)
    (uptime : String) (arguments : List Argument) : Ending × Network :=
  match grammar.settings arguments with
  | .ok settings => run net setup choice timeline n uptime settings
  | .error report => (.done report, net)

end UdpBench.Listen
