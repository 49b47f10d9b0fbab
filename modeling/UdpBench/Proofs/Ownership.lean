import UdpBench.Proofs.Delivery

namespace UdpBench

/-- An address of the host that leaves no port to be chosen. -/
structure Loopback.Offers (lo : Loopback) (a : Address) : Prop where
  port : a.port ≠ 0
  admitted : lo.admits a = .ok ()

/-- The means to wait for a socket can be had. -/
structure Sink.Poller.Works (poller : Sink.Poller) : Prop where
  created : poller.created = .ok ()
  registered : poller.registered = .ok ()

/-- Sends, receives or sends back. -/
def Act.isTraffic : Act → Bool
  | .send .. | .sendAll .. | .receive .. | .attempt .. | .echo .. => true
  | _ => false

/-- Is done by sinks and senders alone, without other sockets. -/
def Act.isOwn : Act → Bool
  | .bind .. | .drop .. => true
  | a => a.isTraffic

namespace Network

/-- Where a port is asked for, a socket gets the address that was. Only its scope may be dropped. -/
theorem assigned_of_port {a : Address} (h : a.port ≠ 0) (choice : Port) :
    (assigned a choice).port = a.port ∧ (assigned a choice).ip = a.ip := by
  cases a with
  | v4 ip port =>
    have h : port ≠ 0 := h
    simp [assigned, Address.port, h]
  | v6 ip port scope =>
    have h : port ≠ 0 := h
    simp [assigned, Address.port, Address.ip, h]

theorem conflicts_assigned {a : Address} (h : a.port ≠ 0) (choice : Port) (b : Address) :
    (assigned a choice).conflicts b = a.conflicts b := by
  obtain ⟨hport, hip⟩ := assigned_of_port h choice
  simp only [Address.conflicts, hport, hip]

/-- An address of the host can be had unless someone holds one that conflicts with it. -/
theorem bind_offered_iff {net : Network} {a : Address} (h : net.loopback.Offers a)
    (choice : Port) : (∃ own opened, net.bind a choice = .ok (own, opened)) ↔
      ∀ b ∈ net.addresses, a.conflicts b = false := by
  simp only [bind_eq_ok_iff, h.admitted, true_and]
  constructor
  · rintro ⟨_, opened, rfl, hopens⟩ b hb
    rw [← conflicts_assigned h.port choice]
    exact hopens.free b hb
  · intro hfree
    refine ⟨_, _, rfl, ?_, rfl⟩
    intro b hb
    rw [conflicts_assigned h.port choice]
    exact hfree b hb

end Network

theorem Sink.bind_eq_ok_iff {net : Network} {poller : Poller} {requested own : Address}
    {choice : Port} : (bind net poller requested choice).result = .ok own ↔
      poller.Works ∧ ∃ opened, net.bind requested choice = .ok (own, opened) := by
  unfold bind
  split
  · rename_i cause hcreated
    simp only [reduceCtorEq, false_iff, not_and]
    intro hworks
    cases hcreated.symm.trans hworks.created
  · rename_i hcreated
    split
    · rename_i cause hbind
      simp [hbind]
    · rename_i got opened hbind
      split
      · rename_i cause hregistered
        simp only [reduceCtorEq, false_iff, not_and]
        intro hworks
        cases hregistered.symm.trans hworks.registered
      · rename_i hregistered
        have hworks : poller.Works := ⟨hcreated, hregistered⟩
        simp [hbind, hworks]

namespace Host

variable {h : Host} {poller : Sink.Poller} {requested own : Address} {choice : Port}

theorem bind_fails_iff (hoffers : h.net.loopback.Offers requested) :
    (∃ cause, (h.bind poller requested choice).reply = .failed (.resource cause)) ↔
      ¬poller.Works ∨ ∃ b ∈ h.net.addresses, requested.conflicts b = true := by
  have hok : (∃ own, (Sink.bind h.net poller requested choice).result = .ok own) ↔
      poller.Works ∧ ∀ b ∈ h.net.addresses, requested.conflicts b = false := by
    rw [← Network.bind_offered_iff hoffers choice]
    simp only [Sink.bind_eq_ok_iff, exists_and_left]
  have hfails : (∃ cause, (h.bind poller requested choice).reply = .failed (.resource cause)) ↔
      ¬∃ own, (Sink.bind h.net poller requested choice).result = .ok own := by
    unfold bind
    rcases Sink.bind_cases h.net poller requested choice with ⟨cause, hb⟩ | ⟨own, opened, _, hb⟩
    · simp [hb]
    · simp [hb]
  rw [hfails, hok, not_and_or]
  simp

theorem bind_opens (hworks : poller.Works) (hoffers : h.net.loopback.Offers requested)
    (hfree : ∀ b ∈ h.net.addresses, requested.conflicts b = false) :
    ∃ own, own.port = requested.port ∧ own.ip = requested.ip ∧
      (h.bind poller requested choice).reply = .opened own ∧
      own ∈ (h.bind poller requested choice).host.sinks ∧
      (h.bind poller requested choice).host.net.queueOf own = [] := by
  obtain ⟨own, opened, hbind⟩ := (Network.bind_offered_iff hoffers choice).mpr hfree
  obtain ⟨_, rfl, hopens⟩ := Network.bind_eq_ok_iff.mp hbind
  obtain ⟨hport, hip⟩ := Network.assigned_of_port hoffers.port choice
  have hsink : Sink.bind h.net poller requested choice =
      ⟨.ok (Network.assigned requested choice), opened, [.bound requested]⟩ := by
    simp only [Sink.bind, hworks.created, hworks.registered, hbind]
  refine ⟨_, hport, hip, ?_, ?_, ?_⟩
  · simp only [bind, hsink]
  · simp only [bind, hsink, List.mem_cons_self]
  · simp only [bind, hsink, hopens.queueOf_self]

/-! What acts do to the sockets that are open. -/

theorem traffic_sockets (hs : h.net.Sound) {a : Act} (ha : a.isTraffic = true) :
    (h.step a).host.net.addresses = h.net.addresses ∧ (h.step a).host.sinks = h.sinks := by
  have honly {present : Bool} {effect : Effect}
      (he : effect.host.net.addresses = h.net.addresses ∧ effect.host.sinks = h.sinks) :
      (h.only present effect).host.net.addresses = h.net.addresses ∧
        (h.only present effect).host.sinks = h.sinks := by
    unfold only
    split
    · exact he
    · exact ⟨rfl, rfl⟩
  cases a with
  | send target text choice =>
    have ha := Sender.attempt h.net target text choice
    cases hr : (Sender.send h.net target text choice).result with
    | error e => simp only [step, send, hr, ha.failed hr, and_self]
    | ok n => simp only [step, send, hr, (ha.succeeded hs hr).2.addresses, and_self]
  | sendAll target texts choices =>
    have hc := Sender.sendAll_carries target choices hs texts
    cases hr : (Sender.sendAll target choices h.net texts).result with
    | error e | ok n => simp only [step, sendAll, hr, hc.addresses, and_self]
  | receive sink start timeout =>
    refine honly ?_
    simp only [receive]
    cases UdpBench.receive start timeout (h.net.queueOf sink) [] <;>
      exact ⟨Network.addresses_setQueue .., rfl⟩
  | attempt sink read =>
    simp only [step]
    split
    · simp only [attempt]
      cases receiveUntil _ (h.net.queueOf sink) [{ toRead := read }] <;>
        exact ⟨Network.addresses_setQueue .., rfl⟩
    · exact ⟨rfl, rfl⟩
  | echo sink d =>
    refine honly ?_
    unfold echo
    rcases Sink.echo_cases hs sink d with ⟨cause, he⟩ | ⟨after, hc, he⟩
    · simp only [he, and_self]
    · simp only [he, hc.addresses, and_self]
  | bind | drop | openPeer | closePeer | peerSend | peerReceive => cases ha

/-- Only dropping it ends a sink. -/
theorem mem_sinks_step (hs : h.net.Sound) (hown : own ∈ h.sinks) {a : Act} (ha : a ≠ .drop own) :
    own ∈ (h.step a).host.sinks := by
  cases a with
  | bind poller requested choice =>
    simp only [step, bind]
    split
    · exact List.mem_cons_of_mem _ hown
    · exact hown
  | drop sink =>
    have hne : own ≠ sink := fun he => ha (he ▸ rfl)
    simp only [step, only]
    split
    · exact List.mem_filter.mpr ⟨hown, by simpa using hne⟩
    · exact hown
  | send | sendAll | receive | attempt | echo => rwa [(traffic_sockets hs rfl).2]
  | openPeer requested choice =>
    simp only [step, openPeer]
    split <;> exact hown
  | closePeer peer =>
    simp only [step, only]
    split <;> exact hown
  | peerSend peer target bytes =>
    simp only [step, only, peerSend]
    split
    · split <;> exact hown
    · exact hown
  | peerReceive peer =>
    simp only [step, only, peerReceive]
    split
    · split <;> exact hown
    · exact hown

/-- Every sink has a socket, and none of them shares an address. -/
structure Owned (h : Host) : Prop where
  sound : h.net.Sound
  isOpen : ∀ sink ∈ h.sinks, sink ∈ h.net.addresses
  apart : h.sinks.Pairwise fun a b => a.conflicts b = false

theorem Change.apart {records : List Record} (hc : h.Change records h') (ho : h.Owned) :
    h'.sinks.Pairwise fun a b => a.conflicts b = false := by
  cases hc with
  | quiet _ sinks | openedPeer _ sinks | carried _ sinks | returned _ _ sinks
  | drained _ _ _ sinks => exact sinks ▸ ho.apart
  | openedSink opens sinks =>
    rw [sinks, List.pairwise_cons]
    exact ⟨fun b hb => opens.free b (ho.isOpen b hb), ho.apart⟩
  | closed _ sinks =>
    rw [sinks]
    exact ho.apart.filter _

namespace Owned

theorem empty (lo : Loopback) : (empty lo).Owned :=
  ⟨Network.empty_sound lo, by simp [Host.empty], .nil⟩

theorem step (ho : h.Owned) (a : Act) : (h.step a).host.Owned := by
  have hc := step_change ho.sound a
  exact ⟨hc.sound ho.sound, hc.isOpen ho.isOpen, hc.apart ho⟩

theorem after (ho : h.Owned) (acts : List Act) : (h.after acts).Owned := by
  induction acts generalizing h with
  | nil => exact ho
  | cons a acts ih => exact ih (ho.step a)

/-- Where no other sockets are opened, none is open but those of sinks. -/
theorem sinks_step (ho : h.Owned) (hall : ∀ b ∈ h.net.addresses, b ∈ h.sinks) {a : Act}
    (ha : a.isOwn = true) : ∀ b ∈ (h.step a).host.net.addresses, b ∈ (h.step a).host.sinks := by
  by_cases ht : a.isTraffic = true
  · obtain ⟨haddresses, hsinks⟩ := traffic_sockets ho.sound ht
    rwa [haddresses, hsinks]
  cases a with
  | bind poller requested choice =>
    simp only [Host.step, bind]
    rcases Sink.bind_cases h.net poller requested choice with ⟨cause, hb⟩ | ⟨own, opened, hn, hb⟩
    · simpa only [hb] using hall
    · simp only [hb, (Network.bind_eq_ok_iff.mp hn).2.2.addresses]
      intro b hb
      rcases List.mem_append.mp hb with hb | hb
      · exact List.mem_cons_of_mem _ (hall b hb)
      · exact List.mem_singleton.mp hb ▸ List.mem_cons_self
  | drop sink =>
    simp only [Host.step, only]
    split
    · intro b hb
      rw [drop, Network.addresses_close] at hb
      obtain ⟨hb, hne⟩ := List.mem_filter.mp hb
      exact List.mem_filter.mpr ⟨hall b hb, hne⟩
    · exact hall
  | send | sendAll | receive | attempt | echo => exact absurd rfl ht
  | openPeer | closePeer | peerSend | peerReceive => cases ha

theorem sinks_after (ho : h.Owned) (hall : ∀ b ∈ h.net.addresses, b ∈ h.sinks) {acts : List Act}
    (ha : ∀ a ∈ acts, a.isOwn = true) :
    ∀ b ∈ (h.after acts).net.addresses, b ∈ (h.after acts).sinks := by
  induction acts generalizing h with
  | nil => exact hall
  | cons a acts ih =>
    rw [List.forall_mem_cons] at ha
    exact ih (ho.step a) (ho.sinks_step hall ha.1) ha.2

/-- What is left of the sockets when some sinks have been dropped. -/
theorem addresses_after_drops (ho : h.Owned) (drops : List Address) {b : Address}
    (hb : b ∈ (h.after (drops.map .drop)).net.addresses) :
    b ∈ h.net.addresses ∧ ¬(b ∈ h.sinks ∧ b ∈ drops) := by
  induction drops generalizing h with
  | nil => exact ⟨hb, by simp⟩
  | cons sink drops ih =>
    obtain ⟨hstep, hrest⟩ := ih (ho.step (.drop sink)) hb
    by_cases hsink : sink ∈ h.sinks
    · have hdrop : (h.step (.drop sink)).host = (h.drop sink).host := by
        simp only [Host.step, only, List.contains_iff_mem.mpr hsink, if_true]
      rw [hdrop] at hstep hrest
      have hmem : b ∈ (h.net.close sink).addresses := hstep
      rw [Network.addresses_close, List.mem_filter] at hmem
      have hne : b ≠ sink := by simpa using hmem.2
      refine ⟨hmem.1, ?_⟩
      rintro ⟨hown, hin⟩
      have hdrops : b ∈ drops := (List.mem_cons.mp hin).resolve_left hne
      exact hrest ⟨List.mem_filter.mpr ⟨hown, hmem.2⟩, hdrops⟩
    · have hkeep : (h.step (.drop sink)).host = h := by
        simp [Host.step, only, hsink]
      rw [hkeep] at hstep hrest
      refine ⟨hstep, ?_⟩
      rintro ⟨hown, hin⟩
      have hne : b ≠ sink := fun he => hsink (he ▸ hown)
      exact hrest ⟨hown, (List.mem_cons.mp hin).resolve_left hne⟩

/-- As long as it is not dropped a sink stays open. What it has returned and holds is what it held
before and, behind that, what was sent to it. -/
theorem stays (ho : h.Owned) (hown : own ∈ h.sinks) {acts : List Act} (ha : .drop own ∉ acts) :
    own ∈ (h.after acts).sinks ∧
      (h.history acts).filterMap (Record.returnedAt own) ++ (h.after acts).net.queueOf own =
        h.net.queueOf own ++ h.net.shown own ((h.history acts).filterMap Record.emission?) := by
  induction acts generalizing h with
  | nil => exact ⟨hown, by simp [history, Host.after]⟩
  | cons a acts ih =>
    rw [List.mem_cons, not_or] at ha
    have hc := step_change ho.sound a
    have hstay := mem_sinks_step ho.sound hown (Ne.symm ha.1)
    obtain ⟨_, hfirst⟩ := hc.queueOf ho.sound ho.isOpen hown hstay
    obtain ⟨hsink, hrest⟩ := ih (ho.step a) hstay ha.2
    refine ⟨hsink, ?_⟩
    have hshown : (h.step a).host.net.shown own = h.net.shown own := by
      funext es
      simp only [Network.shown, hc.loopback]
    rw [hshown] at hrest
    simp only [history, Host.after, List.filterMap_append, Network.shown_append]
    rw [List.append_assoc, hrest, ← List.append_assoc, hfirst, List.append_assoc]

theorem loopback_after (ho : h.Owned) (acts : List Act) :
    (h.after acts).net.loopback = h.net.loopback := by
  induction acts generalizing h with
  | nil => rfl
  | cons a acts ih => exact (ih (ho.step a)).trans (step_change ho.sound a).loopback

end Owned

/-- A sink that holds nothing. As long as it is not dropped, what it returns and holds later is what
is sent to it from now on. -/
structure NewSink (h : Host) (own : Address) : Prop where
  isOpen : own ∈ h.sinks
  queued : h.net.queueOf own = []
  shown : ∀ later, .drop own ∉ later → own ∈ (h.after later).sinks ∧
    (h.history later).filterMap (Record.returnedAt own) ++ (h.after later).net.queueOf own =
      h.net.shown own ((h.history later).filterMap Record.emission?)

theorem Owned.newSink (ho : h.Owned) (hown : own ∈ h.sinks) (hq : h.net.queueOf own = []) :
    h.NewSink own := by
  refine ⟨hown, hq, ?_⟩
  intro later hl
  simpa [hq] using ho.stays hown hl

/-- Once the sinks that are in the way have been dropped, an address can be had and starts anew. -/
theorem Owned.rebind (ho : h.Owned) (hoffers : h.net.loopback.Offers requested)
    (hworks : poller.Works) {drops : List Address}
    (hdrops : ∀ b ∈ h.net.addresses, requested.conflicts b = true → b ∈ h.sinks ∧ b ∈ drops) :
    let opened := (h.after (drops.map .drop)).step (.bind poller requested choice)
    ∃ own, own.port = requested.port ∧ own.ip = requested.ip ∧
      opened.reply = .opened own ∧ opened.host.NewSink own := by
  have hfreed : (h.after (drops.map .drop)).Owned := ho.after _
  have hoffers : (h.after (drops.map .drop)).net.loopback.Offers requested := by
    rwa [ho.loopback_after]
  have hfree : ∀ b ∈ (h.after (drops.map .drop)).net.addresses, requested.conflicts b = false := by
    intro b hb
    obtain ⟨hold, hkept⟩ := ho.addresses_after_drops drops hb
    rw [← Bool.not_eq_true]
    exact fun hc => hkept (hdrops b hold hc)
  obtain ⟨own, hport, hip, hreply, hsink, hq⟩ := @bind_opens _ _ _ choice hworks hoffers hfree
  exact ⟨own, hport, hip, hreply, (hfreed.step (.bind poller requested choice)).newSink hsink hq⟩

/-- Whatever was done on a host, an address is held by one sink at most. It is taken by binding and
given back by dropping alone, and whoever takes it next gets nothing that was sent before. -/
theorem addresses_have_one_owner (lo : Loopback) (acts : List Act) :
    let h := (empty lo).after acts
    (∀ sink ∈ h.sinks, sink ∈ h.net.addresses) ∧
    h.sinks.Pairwise (fun a b => a.conflicts b = false) ∧
    ((∀ a ∈ acts, a.isOwn = true) → ∀ b ∈ h.net.addresses, b ∈ h.sinks) ∧
    (∀ a : Act, a.isTraffic = true →
      (h.step a).host.net.addresses = h.net.addresses ∧ (h.step a).host.sinks = h.sinks) ∧
    ∀ poller requested choice, lo.Offers requested →
      ((∃ cause, (h.step (.bind poller requested choice)).reply = .failed (.resource cause)) ↔
        ¬poller.Works ∨ ∃ b ∈ h.net.addresses, requested.conflicts b = true) ∧
      (poller.Works → ∀ drops : List Address,
        (∀ b ∈ h.net.addresses, requested.conflicts b = true → b ∈ h.sinks ∧ b ∈ drops) →
        let opened := (h.after (drops.map .drop)).step (.bind poller requested choice)
        ∃ own, own.port = requested.port ∧ own.ip = requested.ip ∧
          opened.reply = .opened own ∧ opened.host.NewSink own) := by
  intro h
  have ho : h.Owned := (Owned.empty lo).after acts
  have hlo : h.net.loopback = lo := (Owned.empty lo).loopback_after acts
  refine ⟨ho.isOpen, ho.apart, ?_, fun a ha => traffic_sockets ho.sound ha, ?_⟩
  · exact (Owned.empty lo).sinks_after (by simp [Host.empty, Network.empty, Network.addresses])
  · intro poller requested choice hoffers
    rw [← hlo] at hoffers
    exact ⟨bind_fails_iff hoffers, fun hworks drops hdrops => ho.rebind hoffers hworks hdrops⟩

/-- A sink holds a datagram when its address is asked for again, first in vain. -/
theorem addresses_have_one_owner_rebound :
    let sink : Address := .v4 .localhost 26001
    let h := (empty .up).after [.bind {} sink 0, .send sink "old" 40000]
    let opened := (h.after [.drop sink]).step (.bind {} sink 0)
    h.net.queueOf sink ≠ [] ∧
    (∃ cause, (h.step (.bind {} sink 0)).reply = .failed (.resource cause)) ∧
    ∃ own, opened.reply = .opened own ∧ opened.host.NewSink own := by
  intro sink h opened
  obtain ⟨_, _, hall, _, hbind⟩ :=
    addresses_have_one_owner .up [.bind {} sink 0, .send sink "old" 40000]
  have hsinks : ∀ b ∈ h.net.addresses, b ∈ h.sinks := hall (by decide)
  obtain ⟨hfails, hagain⟩ := hbind {} sink 0 ⟨by decide, by decide⟩
  refine ⟨by decide +kernel, hfails.mpr (.inr (by decide +kernel)), ?_⟩
  obtain ⟨own, _, _, hreply, hnew⟩ := hagain ⟨rfl, rfl⟩ [sink] fun b hb _ =>
    ⟨hsinks b hb, by revert b; decide +kernel⟩
  exact ⟨own, hreply, hnew⟩

end Host

end UdpBench
