import UdpBench.Network.Outcome
import UdpBench.Payload

namespace UdpBench.Sender

def defaultTarget : Address := .v4 .localhost 26001

def defaultPayloads : List String :=
  ["", "do not go gently into the good night. Rage, rage against the dying of the light"]

/-- Sends one datagram from the open socket `own`. -/
def sendFrom (net : Network) (own target : Address) (payload : Payload) : Outcome Nat :=
  match net.connect own target with
  | .error cause => ⟨.error (.transport target cause), net, []⟩
  | .ok flow =>
    let associated := Event.associated (own.shownTo flow.source) target
    match net.send own flow payload.bytes with
    | .error cause => ⟨.error (.transport target cause), net, [associated]⟩
    | .ok (sent, net) =>
      if sent = payload.length then ⟨.ok sent, net, [associated, .sent sent target]⟩
      else ⟨.error (.shortSend target sent payload.length), net, [associated]⟩

/-- Sends a text as one datagram from a socket of its own, which is closed again however the attempt
ends. A text that cannot be encoded opens none. -/
def send (net : Network) (target : Address) (text : String) (choice : Port) : Outcome Nat :=
  match Payload.encode text with
  | .error e => ⟨.error e, net, []⟩
  | .ok payload =>
    match net.bind target.unspecifiedLike choice with
    | .error cause => ⟨.error (.resource cause), net, []⟩
    | .ok (own, opened) =>
      let fired := sendFrom opened own target payload
      { fired with net := fired.net.close own }

/-- Sends texts in order and counts them. The first failure ends it: what follows is not tried. -/
def sendAll (target : Address) :
    (choices : Nat → Port) → Network → List String → Outcome Nat
  | _, net, [] => ⟨.ok 0, net, []⟩
  | choices, net, text :: texts =>
    let first := send net target text (choices 0)
    match first.result with
    | .error e => ⟨.error e, first.net, first.events⟩
    | .ok _ =>
      let others := sendAll target (fun k => choices (k + 1)) first.net texts
      ⟨others.result.map (· + 1), others.net, first.events ++ others.events⟩

end UdpBench.Sender
