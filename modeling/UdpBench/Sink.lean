import UdpBench.Network.Outcome
import UdpBench.Timeline

namespace UdpBench.Sink

/-- The means to wait for a socket: how getting them ended, and how tying them to the socket did. -/
structure Poller where
  created : Except IoError Unit := .ok ()
  registered : Except IoError Unit := .ok ()

/-- Opens a sink: a socket that is only read from and echoed from. One that cannot be waited for is
closed again. -/
def bind (net : Network) (poller : Poller) (requested : Address) (choice : Port) :
    Outcome Address :=
  match poller.created with
  | .error cause => ⟨.error (.resource cause), net, []⟩
  | .ok () =>
    match net.bind requested choice with
    | .error cause => ⟨.error (.resource cause), net, []⟩
    | .ok (own, opened) =>
      match poller.registered with
      | .error cause => ⟨.error (.resource cause), opened.close own, []⟩
      | .ok () => ⟨.ok own, opened, [.bound requested]⟩

/-- Receives what is queued or comes along the timeline. -/
def receive (net : Network) (own : Address) (t : Timeline) (timeout : Time) :
    Receipt × Network × Timeline :=
  let (receipt, t) := t.receive timeout (net.queueOf own)
  (receipt, net.setQueue own receipt.queue, t)

/-- What is logged of a call to receive. -/
def receiptEvents : Receipt → List Event
  | .received d _ => [.received d.length d.source]
  | _ => []

/-- Sends a datagram's bytes back to where it came from. -/
def echo (net : Network) (own : Address) (d : Datagram) : Outcome Nat :=
  match net.sendTo own d.source d.bytes with
  | .error cause => ⟨.error (.transport d.source cause), net, []⟩
  | .ok (sent, net) =>
    if sent = d.length then ⟨.ok sent, net, []⟩
    else ⟨.error (.shortSend d.source sent d.length), net, []⟩

end UdpBench.Sink
