import UdpBench.Proofs.Answers
import UdpBench.Proofs.Changes
import UdpBench.Proofs.Tally

namespace UdpBench

/-- The sends that are not too long for the target. -/
def fitting (target : Address) (sends : List (Address × Bytes)) : List (Address × Bytes) :=
  sends.filter fun e => e.2.length ≤ Network.sizeLimit target

theorem fitting_append (target : Address) (sends more : List (Address × Bytes)) :
    fitting target (sends ++ more) = fitting target sends ++ fitting target more :=
  List.filter_append ..

/-- A peer tries to send a datagram to the socket. What is too long changes nothing. -/
theorem Fair.try_send {own : Address} {peers : List Address} {net : Network}
    {sends : List (Address × Bytes)} {answered : List Datagram} {held : Option Datagram}
    (h : Fair own peers net (fitting own sends) answered held) (hn : Neighbours own peers)
    {e : Address × Bytes} (he : e.1 ∈ peers) :
    (∃ after, net.sendTo e.1 own e.2 = .ok (e.2.length, after) ∧
      Fair own peers after (fitting own (sends ++ [e])) answered held) ∨
    ∃ cause, net.sendTo e.1 own e.2 = .error cause ∧
      Fair own peers net (fitting own (sends ++ [e])) answered held := by
  rw [fitting_append]
  by_cases hlen : e.2.length ≤ Network.sizeLimit own
  · obtain ⟨after, hsent, hfair⟩ := h.send hn he hlen
    left
    refine ⟨after, hsent, ?_⟩
    simpa [fitting, hlen] using hfair
  · obtain ⟨cause, hsent⟩ := Network.sendTo_too_long h.up (hn.answered _ he) hn.loopback
      (hn.family _ he) (Nat.lt_of_not_le hlen)
    right
    refine ⟨cause, hsent, ?_⟩
    simpa [fitting, hlen] using h

namespace Listen

/-- A peer sends a datagram to the socket, if it can. -/
def sendsTo (own : Address) (e : Address × Bytes) (net : Network) : Network :=
  match net.sendTo e.1 own e.2 with
  | .ok (_, after) => after
  | .error _ => net

/-- What the peers try to send. -/
def sendsIn (happenings : List (Happening (Address × Bytes))) : List (Address × Bytes) :=
  happenings.filterMap fun
    | .others e => some e
    | .own _ => none

theorem sendsIn_others (e : Address × Bytes) : sendsIn [.others e] = [e] := rfl

theorem sendsIn_cons (a : Happening (Address × Bytes)) (rest : List (Happening (Address × Bytes))) :
    sendsIn (a :: rest) = sendsIn [a] ++ sendsIn rest := List.filterMap_append (l := [a]) ..

/-- A listener that echoes has sent back what it took, and counted that. -/
structure Echoes (own : Address) (peers : List Address) (sends : List (Address × Bytes))
    (x : Session) : Prop where
  fair : Fair own peers x.running.net (fitting own sends) x.took x.stage.held
  echoed : x.running.stats.echoed = x.took.length.toUInt64

namespace Echoes

variable {own : Address} {peers : List Address} {sends : List (Address × Bytes)} {s : Settings}
  {x y : Session}

theorem advance (h : Echoes own peers sends x) (hn : Neighbours own peers) (hecho : s.echo = true)
    {m : Move} (ha : Session.Advance s own x m y) : Echoes own peers sends y := by
  have hfair := h.fair
  cases ha with
  | refused | passed => exact ⟨h.fair, h.echoed⟩
  | enough looking | idle _ looking | goesOn looking =>
    rw [looking] at hfair
    exact ⟨hfair, h.echoed⟩
  | called calling | overflowed calling =>
    rw [calling] at hfair
    exact ⟨hfair, h.echoed⟩
  | received waiting queued =>
    rw [waiting] at hfair
    exact ⟨hfair.receive hn queued, h.echoed⟩
  | unread waiting goesOn =>
    rw [waiting] at hfair
    rw [Network.setQueue_queueOf hfair.sound.exclusive.nodup]
    rcases goesOn with rfl | rfl | ⟨e, rfl⟩ <;> exact ⟨hfair, h.echoed⟩
  | @took d holding =>
    rw [holding] at hfair
    obtain ⟨after, hsent, hanswered⟩ := hfair.echo hn
    have htakes := x.running.take_takes s own d
    unfold Session.take
    generalize x.running.take s own d = taken at htakes ⊢
    obtain ⟨r, events⟩ := taken
    cases htakes with
    | silent off =>
      rw [hecho] at off
      cases off
    | failed _ refused =>
      rw [hsent] at refused
      cases refused
    | echoed _ sent =>
      obtain ⟨_, rfl⟩ := Prod.mk.inj (Except.ok.inj (hsent.symm.trans sent))
      refine ⟨hanswered, ?_⟩
      rw [List.length_append, List.length_singleton, toUInt64_succ, ← h.echoed]
      rfl

theorem next (h : Echoes own peers sends x) (hn : Neighbours own peers) (hecho : s.echo = true)
    {a : Happening (Address × Bytes)} (hpeers : ∀ e ∈ sendsIn [a], e.1 ∈ peers) :
    Echoes own peers (sends ++ sendsIn [a]) (x.next (sendsTo own) s own a) := by
  cases a with
  | own m => simpa [sendsIn, Session.next] using h.advance hn hecho (Session.step_advance s own x m)
  | others e =>
    rw [sendsIn_others] at hpeers ⊢
    simp only [Session.next, sendsTo]
    rcases h.fair.try_send hn (hpeers e List.mem_cons_self) with
      ⟨after, hsent, hfair⟩ | ⟨cause, hsent, hfair⟩
    · simp only [hsent]
      exact ⟨hfair, h.echoed⟩
    · simp only [hsent]
      exact ⟨hfair, h.echoed⟩

theorem after (h : Echoes own peers sends x) (hn : Neighbours own peers) (hecho : s.echo = true)
    {happenings : List (Happening (Address × Bytes))}
    (hpeers : ∀ e ∈ sendsIn happenings, e.1 ∈ peers) :
    Echoes own peers (sends ++ sendsIn happenings) (x.after (sendsTo own) s own happenings) := by
  induction happenings generalizing x sends with
  | nil =>
    simpa [sendsIn, Session.after] using h
  | cons a rest ih =>
    rw [sendsIn_cons] at hpeers ⊢
    have hnext := h.next hn hecho fun e he => hpeers e (List.mem_append_left _ he)
    rw [← List.append_assoc]
    exact ih hnext fun e he => hpeers e (List.mem_append_right _ he)

end Echoes

end Listen

/-- A step of one who receives at a sink and echoes each datagram before the next, or of peers. -/
inductive Deed
  | peerSend (peer : Address) (bytes : Bytes)
  | receive (start timeout : Time)
  | attempt (read : Read)
  | echo

/-- A host where someone receives and echoes, with what was echoed and what is still to be. -/
structure Service where
  host : Host
  took : List Datagram
  held : Option Datagram

namespace Service

def next (own : Address) (x : Service) : Deed → Service
  | .peerSend peer bytes => { x with host := (x.host.step (.peerSend peer own bytes)).host }
  | .receive start timeout =>
    match x.held with
    | none => { x with host := (x.host.step (.receive own start timeout)).host }
    | some _ => x
  | .attempt read =>
    match x.held with
    | none =>
      let effect := x.host.step (.attempt own read)
      match effect.reply with
      | .received d => { x with host := effect.host, held := some d }
      | _ => { x with host := effect.host }
    | some _ => x
  | .echo =>
    match x.held with
    | some d => ⟨(x.host.step (.echo own d)).host, x.took ++ [d], none⟩
    | none => x

def after (own : Address) (x : Service) (deeds : List Deed) : Service := deeds.foldl (next own) x

/-- What the calls to receive have returned. -/
def returned (x : Service) : List Datagram := x.took ++ x.held.toList

/-- What the peers try to send. -/
def sendsIn (deeds : List Deed) : List (Address × Bytes) :=
  deeds.filterMap fun
    | .peerSend peer bytes => some (peer, bytes)
    | _ => none

theorem sendsIn_cons (deed : Deed) (rest : List Deed) :
    sendsIn (deed :: rest) = sendsIn [deed] ++ sendsIn rest := List.filterMap_append (l := [deed]) ..

/-- The sink is there, and so are the peers. -/
structure Echoes (own : Address) (peers : List Address) (sends : List (Address × Bytes))
    (x : Service) : Prop where
  fair : Fair own peers x.host.net (fitting own sends) x.took x.held
  sink : own ∈ x.host.sinks
  others : ∀ p ∈ peers, p ∉ x.host.sinks

namespace Echoes

variable {own : Address} {peers : List Address} {sends : List (Address × Bytes)} {x : Service}

/-- Nothing is done to the sockets. -/
theorem quiet (h : Echoes own peers sends x) {host : Host} (hnet : host.net = x.host.net)
    (hsinks : host.sinks = x.host.sinks) :
    Echoes own peers sends { x with host := host } :=
  ⟨hnet ▸ h.fair, hsinks ▸ h.sink, hsinks ▸ h.others⟩

theorem isPeer (h : Echoes own peers sends x) {p : Address} (hp : p ∈ peers) :
    x.host.isPeer p = true := by
  simp [Host.isPeer, h.fair.peersOpen p hp, h.others p hp]

theorem peerSend (h : Echoes own peers sends x) (hn : Neighbours own peers) {p : Address}
    (hp : p ∈ peers) (bytes : Bytes) :
    Echoes own peers (sends ++ [(p, bytes)]) (x.next own (.peerSend p bytes)) := by
  simp only [next, Host.step, Host.only, h.isPeer hp, ↓reduceIte, Host.peerSend]
  rcases h.fair.try_send hn (e := (p, bytes)) hp with ⟨after, hsent, hfair⟩ | ⟨cause, hsent, hfair⟩
  · simp only [hsent]
    exact ⟨hfair, h.sink, h.others⟩
  · simp only [hsent]
    exact ⟨hfair, h.sink, h.others⟩

theorem receive (h : Echoes own peers sends x) (start timeout : Time) :
    Echoes own peers sends (x.next own (.receive start timeout)) := by
  have hkeep := Network.setQueue_queueOf h.fair.sound.exclusive.nodup own
  have hsink : x.host.sinks.contains own = true := by simpa using h.sink
  simp only [next]
  split
  · apply h.quiet
    all_goals
      simp only [Host.step, Host.only, hsink, ↓reduceIte, Host.receive]
      by_cases hclock : (start + timeout).isRepresentable = true <;>
        simp only [UdpBench.receive, hclock, receiveUntil, Receipt.queue, hkeep, ↓reduceIte,
          Bool.false_eq_true]
  · exact h

/-- A datagram that an attempt returns is held. -/
theorem attempt (h : Echoes own peers sends x) (hn : Neighbours own peers) (read : Read) :
    Echoes own peers sends (x.next own (.attempt read)) := by
  have hkeep := Network.setQueue_queueOf h.fair.sound.exclusive.nodup own
  simp only [next]
  split
  · rename_i hheld
    have hfair := hheld ▸ h.fair
    cases hcall : x.host.calls.lookup own with
    | none =>
      simp only [Host.step, hcall]
      exact h
    | some deadline =>
      simp only [Host.step, hcall, Host.attempt]
      rcases receiveUntil_round deadline (x.host.net.queueOf own) read with
        ⟨d, rest, hq, hr⟩ | ⟨hq, hno, _⟩
      · simp only [hr]
        exact ⟨hfair.receive hn hq, h.sink, h.others⟩
      · cases hr : receiveUntil deadline (x.host.net.queueOf own) [{ toRead := read }] with
        | received d rest => exact absurd hr (hno d rest)
        | waiting | timedOut | failed | overflowed =>
          rw [hr] at hq
          simp only [hq, hkeep]
          exact h.quiet rfl rfl
  · exact h

theorem echo (h : Echoes own peers sends x) (hn : Neighbours own peers) :
    Echoes own peers sends (x.next own .echo) := by
  have hsink : x.host.sinks.contains own = true := by simpa using h.sink
  simp only [next]
  split
  · rename_i d hheld
    obtain ⟨after, hsent, hfair⟩ := Fair.echo hn (hheld ▸ h.fair)
    simp only [Host.step, Host.only, hsink, ↓reduceIte, Host.echo, Sink.echo, hsent]
    exact ⟨hfair, h.sink, h.others⟩
  · exact h

theorem next (h : Echoes own peers sends x) (hn : Neighbours own peers) {deed : Deed}
    (hpeers : ∀ e ∈ sendsIn [deed], e.1 ∈ peers) :
    Echoes own peers (sends ++ sendsIn [deed]) (x.next own deed) := by
  cases deed with
  | peerSend p bytes => exact h.peerSend hn (hpeers (p, bytes) List.mem_cons_self) bytes
  | receive start timeout => simpa [sendsIn] using h.receive start timeout
  | attempt read => simpa [sendsIn] using h.attempt hn read
  | echo => simpa [sendsIn] using h.echo hn

theorem after (h : Echoes own peers sends x) (hn : Neighbours own peers) {deeds : List Deed}
    (hpeers : ∀ e ∈ sendsIn deeds, e.1 ∈ peers) :
    Echoes own peers (sends ++ sendsIn deeds) (x.after own deeds) := by
  induction deeds generalizing x sends with
  | nil =>
    simpa [sendsIn, Service.after] using h
  | cons deed rest ih =>
    rw [sendsIn_cons] at hpeers ⊢
    have hnext := h.next hn fun e he => hpeers e (List.mem_append_left _ he)
    rw [← List.append_assoc]
    exact ih hnext fun e he => hpeers e (List.mem_append_right _ he)

end Echoes

end Service

/-- However the sends of its peers are mixed with what a listener does that echoes, or with what
someone does who receives at a sink and echoes each datagram, a peer gets back nothing but what it
sent, in order, and by and by all of it. -/
theorem peers_get_their_own_back {own : Address} {peers : List Address}
    (hn : Neighbours own peers) :
    (∀ net t s happenings, Fresh own peers net → s.echo = true →
      (∀ e ∈ Listen.sendsIn happenings, e.1 ∈ peers) →
      let x := (Listen.Session.start (.start net t)).after (Listen.sendsTo own) s own happenings
      Answered own peers x.running.net (fitting own (Listen.sendsIn happenings)) x.returned
          x.stage.held ∧
        (x.stage.held = none → x.running.stats.echoed = x.returned.length.toUInt64)) ∧
    ∀ host deeds, Fresh own peers host.net → own ∈ host.sinks → (∀ p ∈ peers, p ∉ host.sinks) →
      (∀ e ∈ Service.sendsIn deeds, e.1 ∈ peers) →
      let x := (Service.mk host [] none).after own deeds
      Answered own peers x.host.net (fitting own (Service.sendsIn deeds)) x.returned x.held := by
  refine ⟨?_, ?_⟩
  · intro net t s happenings hfresh hecho hpeers x
    have hstart : Listen.Echoes own peers [] (.start (.start net t)) := ⟨hfresh.fair, rfl⟩
    have hx : Listen.Echoes own peers (Listen.sendsIn happenings) x :=
      hstart.after hn hecho hpeers
    refine ⟨hx.fair.answered hn.nodup, ?_⟩
    intro hheld
    rw [Listen.Session.returned, hheld, Option.toList_none, List.append_nil]
    exact hx.echoed
  · intro host deeds hfresh hsink hothers hpeers x
    have hstart : Service.Echoes own peers [] ⟨host, [], none⟩ := ⟨hfresh.fair, hsink, hothers⟩
    have hx : Service.Echoes own peers (Service.sendsIn deeds) x := hstart.after hn hpeers
    exact hx.fair.answered hn.nodup

/-- Two peers whose datagrams alternate, with one that is received but not yet echoed. -/
theorem peers_get_their_own_back_two :
    let own : Address := .v4 .localhost 26001
    let first : Address := .v4 .localhost 5000
    let second : Address := .v4 .unspecified 5001
    let net : Network := ⟨.up, [⟨first, []⟩, ⟨second, []⟩, ⟨own, []⟩]⟩
    let s : Listen.Settings := ⟨own, true, none, none, "info"⟩
    let read : Read := { clock := 0, wake := .readable }
    let takes : List (Listen.Happening (Address × Bytes)) :=
      [.own .look, .own .call, .own (.read read), .own .take]
    let happenings := [.others (first, [1]), .others (second, [2])] ++ takes ++
      [.others (first, [])] ++ takes ++ takes
    let x := (Listen.Session.start (.start net ⟨0, []⟩)).after (Listen.sendsTo own) s own happenings
    let deeds : List Deed := [.peerSend second [2], .receive 0 9, .attempt read, .peerSend first [1],
      .echo, .receive 0 9, .attempt read]
    let y := (Service.mk ⟨net, [own], []⟩ [] none).after own deeds
    (x.running.net.queueOf first = [⟨own, [1]⟩, ⟨own, []⟩] ∧
      x.running.net.queueOf second = [⟨own, [2]⟩] ∧ x.running.stats.echoed = 3) ∧
    (y.held = some ⟨first, [1]⟩ ∧ ∃ k, y.host.net.queueOf second =
      ([[2]].take k).map (Datagram.mk own)) := by
  intro own first second net s read takes happenings x deeds y
  have hn : Neighbours own [first, second] := by
    refine ⟨rfl, by decide, by decide, by decide, by decide, by decide, ?_⟩
    simp only [Address.IsAnswered]
    decide
  have hsound : net.Sound := by
    refine ⟨?_, by decide +kernel⟩
    unfold Network.Exclusive
    decide +kernel
  have hfresh : Fresh own [first, second] net :=
    ⟨rfl, hsound, by decide +kernel, by decide +kernel, by decide +kernel, by decide +kernel⟩
  obtain ⟨hlistener, hservice⟩ := peers_get_their_own_back hn
  have hx : Answered own [first, second] x.running.net (fitting own (Listen.sendsIn happenings))
      x.returned x.stage.held ∧
        (x.stage.held = none → x.running.stats.echoed = x.returned.length.toUInt64) :=
    hlistener net ⟨0, []⟩ s happenings hfresh rfl (by decide +kernel)
  have hheld : x.stage.held = none := by decide +kernel
  have hcount : x.returned.length = 3 := by decide +kernel
  have htried : (fitting own (Listen.sendsIn happenings)).length = 3 := by decide +kernel
  have hfirst : sentBy first (fitting own (Listen.sendsIn happenings)) = [[1], []] := by
    decide +kernel
  have hsecond : sentBy second (fitting own (Listen.sendsIn happenings)) = [[2]] := by
    decide +kernel
  have hy : Answered own [first, second] y.host.net (fitting own (Service.sendsIn deeds)) y.returned
      y.held := by
    have hat := hservice ⟨net, [own], []⟩ deeds hfresh (by decide) (by decide) (by decide +kernel)
    with_reducible exact hat
  have hsent : sentBy second (fitting own (Service.sendsIn deeds)) = [[2]] := by decide +kernel
  have hyheld : y.held = some ⟨first, [1]⟩ := by decide +kernel
  generalize x = x at hx hheld hcount ⊢
  generalize y = y at hy hyheld ⊢
  obtain ⟨hx, hechoed⟩ := hx
  have hall := hx.all hheld (hcount.trans htried.symm)
  obtain ⟨k, hk⟩ := hy.front second (by simp)
  refine ⟨⟨?_, ?_, ?_⟩, hyheld, k, ?_⟩
  · rw [hall first (by simp), hfirst]
    rfl
  · rw [hall second (by simp), hsecond]
    rfl
  · rw [hechoed hheld, hcount]
    rfl
  · rw [hk, hsent]

end UdpBench
