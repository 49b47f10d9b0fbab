import UdpBench.Proofs.Emission
import UdpBench.Proofs.Encoding

namespace UdpBench

theorem except_bind_eq_ok {ε α β : Type} {x : Except ε α} {f : α → Except ε β} {r : β} :
    (x >>= f) = .ok r ↔ ∃ a, x = .ok a ∧ f a = .ok r := by
  cases x <;> simp [Bind.bind, Except.bind]

/-- A connected socket's flow is that of a datagram which names the target itself. -/
theorem Loopback.flowTo_of_flowConnected {lo : Loopback} {own target : Address} {path : Path}
    {flow : Flow} (h : lo.flowConnected own target path = .ok flow) :
    lo.flowTo own target path = .ok flow := by
  cases path with
  | v4 ownIp targetIp =>
    simp only [flowConnected, flowTo, Bind.bind, Except.bind, pure, Except.pure] at h ⊢
    split at h
    · cases h
    · rename_i hr
      split <;> simp_all
  | v6 ownIp targetIp scope =>
    simp only [flowConnected, flowTo, Bind.bind, Except.bind, pure, Except.pure] at h ⊢
    split at h
    · cases h
    · exact h
  | crossed targetIp => exact h

namespace Network

theorem connect_eq_ok {net : Network} {own target : Address} {flow : Flow}
    (h : net.connect own target = .ok flow) (hup : net.loopback = .up) (bytes : Bytes) :
    Emission.flow? ⟨own, target, bytes⟩ = some flow := by
  simp only [connect, except_bind_eq_ok, hup] at h
  obtain ⟨path, hpath, hflow⟩ := h
  simp [Emission.flow?, hpath, Loopback.flowTo_of_flowConnected hflow, Except.toOption]

theorem sendTo_eq_ok {net after : Network} {own target : Address} {bytes : Bytes} {n : Nat}
    (h : net.sendTo own target bytes = .ok (n, after)) :
    ∃ flow, (net.loopback = .up → Emission.flow? ⟨own, target, bytes⟩ = some flow) ∧
      n = bytes.length ∧ bytes.length ≤ sizeLimit flow.target ∧ after = net.deliver flow bytes := by
  simp only [sendTo, except_bind_eq_ok] at h
  obtain ⟨_, _, path, hpath, _, _, _, _, flow, hflow, hsent⟩ := h
  refine ⟨flow, ?_, transmit_eq_ok hsent⟩
  intro hup
  rw [hup] at hflow
  simp [Emission.flow?, hpath, hflow, Except.toOption]

theorem sendTo_carries {net after : Network} (hn : net.Exclusive) {own target : Address}
    {bytes : Bytes} {n : Nat} (h : net.sendTo own target bytes = .ok (n, after)) :
    n = bytes.length ∧ net.Carries [⟨own, target, bytes⟩] after := by
  obtain ⟨flow, hf, hlen, hl, rfl⟩ := sendTo_eq_ok h
  exact ⟨hlen, deliver_carries hn hf hl⟩

end Network

namespace Sender

/-- Everything that an attempt to send a text can come to, and when. -/
inductive Attempt (net : Network) (target : Address) (text : String) (choice : Port) :
    Outcome Nat → Prop
  | unencodable {e : Error} (unencoded : Payload.encode text = .error e) :
    Attempt net target text choice ⟨.error e, net, []⟩
  | unopened {p : Payload} {cause : IoError} (encoded : Payload.encode text = .ok p)
    (unbound : net.bind target.unspecifiedLike choice = .error cause) :
    Attempt net target text choice ⟨.error (.resource cause), net, []⟩
  | unconnected {p : Payload} {own : Address} {opened : Network} {cause : IoError}
    (encoded : Payload.encode text = .ok p)
    (bound : net.bind target.unspecifiedLike choice = .ok (own, opened))
    (refused : opened.connect own target = .error cause) :
    Attempt net target text choice ⟨.error (.transport target cause), net, []⟩
  | unsent {p : Payload} {own : Address} {opened : Network} {flow : Flow} {cause : IoError}
    (encoded : Payload.encode text = .ok p)
    (bound : net.bind target.unspecifiedLike choice = .ok (own, opened))
    (connected : opened.connect own target = .ok flow)
    (refused : opened.send own flow p.bytes = .error cause) :
    Attempt net target text choice
      ⟨.error (.transport target cause), net, [.associated (own.shownTo flow.source) target]⟩
  | sent {p : Payload} {own : Address} {opened : Network} {flow : Flow}
    (encoded : Payload.encode text = .ok p)
    (bound : net.bind target.unspecifiedLike choice = .ok (own, opened))
    (connected : opened.connect own target = .ok flow)
    (accepted : opened.send own flow p.bytes = .ok (p.length, opened.deliver flow p.bytes)) :
    Attempt net target text choice
      ⟨.ok p.length, (opened.deliver flow p.bytes).close own,
        [.associated (own.shownTo flow.source) target, .sent p.length target]⟩

/-- Whatever becomes of an attempt, its socket is closed at the end of it. -/
theorem attempt (net : Network) (target : Address) (text : String) (choice : Port) :
    Attempt net target text choice (send net target text choice) := by
  unfold send
  cases he : Payload.encode text with
  | error e => exact .unencodable he
  | ok p =>
    cases hb : net.bind target.unspecifiedLike choice with
    | error cause => exact .unopened he hb
    | ok bound =>
      obtain ⟨own, opened⟩ := bound
      have hclose := (Network.bind_eq_ok_iff.mp hb).2.2.close
      cases hc : opened.connect own target with
      | error cause =>
        simp only [sendFrom, hc, hclose]
        exact .unconnected he hb hc
      | ok flow =>
        cases hs : opened.send own flow p.bytes with
        | error cause =>
          simp only [sendFrom, hc, hs, hclose]
          exact .unsent he hb hc hs
        | ok accepted =>
          obtain ⟨n, after⟩ := accepted
          obtain ⟨rfl, _, rfl⟩ := Network.send_eq_ok hs
          simp only [sendFrom, hc, hs, Payload.length, ↓reduceIte]
          exact .sent he hb hc hs

/-- What a successful attempt to send a text emits. -/
def emission (target : Address) (choice : Port) (text : String) : Emission :=
  ⟨Network.assigned target.unspecifiedLike choice, target, utf8 text.toList⟩

namespace Attempt

variable {net : Network} {target : Address} {text : String} {choice : Port} {o : Outcome Nat}

/-- A failed attempt leaves every socket as it was. -/
theorem failed (h : Attempt net target text choice o) {e : Error} (he : o.result = .error e) :
    o.net = net := by
  cases h with
  | unencodable | unopened | unconnected | unsent => rfl
  | sent => cases he

/-- What an attempt can fail with. -/
theorem error_kind (h : Attempt net target text choice o) {e : Error} (he : o.result = .error e) :
    (∃ index character, e = .encoding index character) ∨ (∃ cause, e = .resource cause) ∨
      ∃ cause, e = .transport target cause := by
  cases h with
  | unencodable hp =>
    obtain ⟨front, c, _, _, rfl, _⟩ := Payload.encode_eq_error_iff.mp hp
    exact .inl ⟨front.length, c, (Except.error.inj he).symm⟩
  | unopened => exact .inr (.inl ⟨_, (Except.error.inj he).symm⟩)
  | unconnected | unsent => exact .inr (.inr ⟨_, (Except.error.inj he).symm⟩)
  | sent => cases he

/-- A successful attempt emits one datagram, the whole text. -/
theorem succeeded (h : Attempt net target text choice o) (hs : net.Sound) {n : Nat}
    (hn : o.result = .ok n) :
    n = (utf8 text.toList).length ∧ net.Carries [emission target choice text] o.net := by
  cases h with
  | unencodable | unopened | unconnected | unsent => cases hn
  | @sent p own opened flow encoded bound connected accepted =>
    obtain ⟨_, rfl, ho⟩ := Network.bind_eq_ok_iff.mp bound
    have hp := (Payload.encode_eq_ok_iff.mp encoded).2
    have hso := hs.opens ho
    have hfits := (Network.send_eq_ok accepted).2.1
    have hc := Network.deliver_carries hso.exclusive
      (Network.connect_eq_ok connected · p.bytes) hfits
    rw [hp] at hc
    refine ⟨?_, ?_⟩
    · rw [← hp]
      exact (Except.ok.inj hn).symm
    · simpa only [emission, hp] using ho.carries hc

end Attempt

/-- What texts that are sent in order emit. -/
def emissions (target : Address) (choices : Nat → Port) (texts : List String) : List Emission :=
  texts.mapIdx fun k text => emission target (choices k) text

theorem emissions_cons (target : Address) (choices : Nat → Port) (text : String)
    (texts : List String) :
    emissions target choices (text :: texts) =
      emission target (choices 0) text :: emissions target (fun k => choices (k + 1)) texts :=
  List.mapIdx_cons

/-- The texts whose turn comes before the first one that cannot be sent. -/
def accepted (target : Address) : (choices : Nat → Port) → Network → List String → List String
  | _, _, [] => []
  | choices, net, text :: texts =>
    match (send net target text (choices 0)).result with
    | .error _ => []
    | .ok _ =>
      text :: accepted target (fun k => choices (k + 1)) (send net target text (choices 0)).net texts

/-- Sending texts in order emits those before the first failure, and nothing else. -/
theorem sendAll_carries (target : Address) (choices : Nat → Port) {net : Network} (hs : net.Sound)
    (texts : List String) :
    net.Carries (emissions target choices (accepted target choices net texts))
      (sendAll target choices net texts).net := by
  induction texts generalizing choices net with
  | nil => exact .refl net
  | cons text texts ih =>
    have ha := attempt net target text (choices 0)
    cases hr : (send net target text (choices 0)).result with
    | error e =>
      simp only [accepted, sendAll, hr]
      rw [ha.failed hr]
      exact .refl net
    | ok n =>
      obtain ⟨_, hc⟩ := ha.succeeded hs hr
      simp only [accepted, sendAll, hr, emissions_cons]
      exact hc.trans (ih _ (hs.carries hc))

/-- A series that ends well has sent every text. -/
theorem sendAll_eq_ok {target : Address} {choices : Nat → Port} {net : Network}
    {texts : List String} {n : Nat} (h : (sendAll target choices net texts).result = .ok n) :
    n = texts.length ∧ accepted target choices net texts = texts := by
  induction texts generalizing choices net n with
  | nil => exact ⟨(Except.ok.inj h).symm, rfl⟩
  | cons text texts ih =>
    cases hr : (send net target text (choices 0)).result with
    | error e => simp [sendAll, hr] at h
    | ok m =>
      simp only [sendAll, hr] at h
      cases ht : (sendAll target (fun k => choices (k + 1))
          (send net target text (choices 0)).net texts).result with
      | error e => simp [ht, Except.map] at h
      | ok k =>
        obtain ⟨rfl, hall⟩ := ih ht
        simp only [ht, Except.map, Except.ok.injEq] at h
        simp [accepted, hr, hall, ← h]

/-- A series that fails has sent the texts in front of one, which failed by itself. -/
theorem sendAll_eq_error {target : Address} {choices : Nat → Port} {net : Network}
    {texts : List String} {e : Error} (h : (sendAll target choices net texts).result = .error e) :
    ∃ done bad rest, texts = done ++ bad :: rest ∧ accepted target choices net texts = done ∧
      (sendAll target choices net done).result = .ok done.length ∧
      (sendAll target choices net texts).net = (sendAll target choices net done).net ∧
      (send (sendAll target choices net done).net target bad (choices done.length)).result =
        .error e := by
  induction texts generalizing choices net with
  | nil => cases h
  | cons text texts ih =>
    cases hr : (send net target text (choices 0)).result with
    | error e' =>
      simp only [sendAll, hr, Except.error.injEq] at h
      subst h
      refine ⟨[], text, texts, rfl, by simp [accepted, hr], rfl, ?_, hr⟩
      simp only [sendAll, hr]
      exact (attempt net target text (choices 0)).failed hr
    | ok m =>
      simp only [sendAll, hr] at h
      cases ht : (sendAll target (fun k => choices (k + 1))
          (send net target text (choices 0)).net texts).result with
      | ok k => simp [ht, Except.map] at h
      | error e' =>
        simp only [ht, Except.map, Except.error.injEq] at h
        subst h
        obtain ⟨done, bad, rest, rfl, hacc, hdone, hnet, hbad⟩ := ih ht
        refine ⟨text :: done, bad, rest, rfl, ?_, ?_, ?_, ?_⟩
        · simp [accepted, hr, hacc]
        · simp [sendAll, hr, hdone, Except.map]
        · simp [sendAll, hr, hnet]
        · simpa [sendAll, hr] using hbad

end Sender

namespace Sink

/-- A sink is opened, or nothing has changed and the error is one of resources. -/
theorem bind_cases (net : Network) (poller : Poller) (requested : Address) (choice : Port) :
    (∃ cause, bind net poller requested choice = ⟨.error (.resource cause), net, []⟩) ∨
      ∃ own opened, net.bind requested choice = .ok (own, opened) ∧
        bind net poller requested choice = ⟨.ok own, opened, [.bound requested]⟩ := by
  unfold bind
  cases poller.created with
  | error cause => exact .inl ⟨cause, rfl⟩
  | ok _ =>
    cases hb : net.bind requested choice with
    | error cause => exact .inl ⟨cause, rfl⟩
    | ok bound =>
      obtain ⟨own, opened⟩ := bound
      cases poller.registered with
      | error cause =>
        left
        exact ⟨cause, by simp only [(Network.bind_eq_ok_iff.mp hb).2.2.close]⟩
      | ok _ => exact .inr ⟨own, opened, rfl, rfl⟩

/-- A datagram is sent back whole, or nothing has changed and the error names its source. -/
theorem echo_cases {net : Network} (hs : net.Sound) (own : Address) (d : Datagram) :
    (∃ cause, echo net own d = ⟨.error (.transport d.source cause), net, []⟩) ∨
      ∃ after, net.Carries [⟨own, d.source, d.bytes⟩] after ∧
        echo net own d = ⟨.ok d.length, after, []⟩ := by
  unfold echo
  cases hsent : net.sendTo own d.source d.bytes with
  | error cause => exact .inl ⟨cause, rfl⟩
  | ok sent =>
    obtain ⟨n, after⟩ := sent
    obtain ⟨rfl, hc⟩ := Network.sendTo_carries hs.exclusive hsent
    exact .inr ⟨after, hc, by simp [Datagram.length]⟩

end Sink

end UdpBench
