import UdpBench.Proofs.Changes

namespace UdpBench

namespace Record

/-- Does not open a sink at this address. -/
def isElsewhere (sink : Address) (r : Record) : Bool := r != .opened sink

/-- What a call to receive at a sink returned. -/
def returnedAt (sink : Address) : Record → Option Datagram
  | .returned a d => if a = sink then some d else none
  | _ => none

/-- What a sink is shown of what was sent. -/
def shownAt (sink : Address) : Record → Option Datagram
  | .sent e => e.shownAt sink
  | _ => none

def emission? : Record → Option Emission
  | .sent e => some e
  | _ => none

end Record

/-- The part of a history that follows the last opening of a sink. -/
def since (sink : Address) (log : List Record) : List Record :=
  log.rtakeWhile (Record.isElsewhere sink)

/-- What a sink's calls to receive returned since it was opened. -/
def returnedSince (sink : Address) (log : List Record) : List Datagram :=
  (since sink log).filterMap (Record.returnedAt sink)

/-- What was sent to a sink since it was opened. -/
def shownSince (sink : Address) (log : List Record) : List Datagram :=
  (since sink log).filterMap (Record.shownAt sink)

theorem since_append {sink : Address} {log records : List Record}
    (h : .opened sink ∉ records) : since sink (log ++ records) = since sink log ++ records := by
  induction records using List.reverseRecOn with
  | nil => simp
  | append_singleton records r ih =>
    simp only [List.mem_append, List.mem_singleton, not_or] at h
    have hr : r.isElsewhere sink = true := by simpa [Record.isElsewhere] using Ne.symm h.2
    rw [← List.append_assoc, ← List.append_assoc, ← ih h.1]
    exact List.rtakeWhile_concat_pos _ _ _ hr

theorem since_opened (sink : Address) (log : List Record) :
    since sink (log ++ [.opened sink]) = [] :=
  List.rtakeWhile_concat_neg _ _ _ (by simp [Record.isElsewhere])

/-- Nothing new for a sink: neither an opening, nor a return, nor anything shown to it. -/
theorem returnedSince_append {sink : Address} {log records : List Record}
    (h : .opened sink ∉ records) : returnedSince sink (log ++ records) =
      returnedSince sink log ++ records.filterMap (Record.returnedAt sink) := by
  rw [returnedSince, since_append h, List.filterMap_append, returnedSince]

theorem shownSince_append {sink : Address} {log records : List Record}
    (h : .opened sink ∉ records) : shownSince sink (log ++ records) =
      shownSince sink log ++ records.filterMap (Record.shownAt sink) := by
  rw [shownSince, since_append h, List.filterMap_append, shownSince]

theorem filterMap_returnedAt_sent (sink : Address) (es : List Emission) :
    (es.map Record.sent).filterMap (Record.returnedAt sink) = [] := by
  simp [List.filterMap_map, Function.comp_def, Record.returnedAt]

theorem filterMap_emission?_sent (es : List Emission) :
    (es.map Record.sent).filterMap Record.emission? = es := by
  simp [List.filterMap_map, Function.comp_def, Record.emission?]

/-- On a loopback interface that is up everything that was sent is shown to whom it was sent. -/
theorem shown_emissions {net : Network} (hup : net.loopback = .up) (sink : Address)
    (records : List Record) : net.shown sink (records.filterMap Record.emission?) =
      records.filterMap (Record.shownAt sink) := by
  rw [Network.shown_of_up hup, List.filterMap_filterMap]
  refine List.filterMap_congr ?_
  intro r _
  cases r <;> rfl

namespace Host

/-- What a sink was shown since it was opened is what it returned and, behind that, what is still
queued in it. -/
def BalancedAt (h : Host) (log : List Record) (sink : Address) : Prop :=
  returnedSince sink log ++ h.net.queueOf sink = shownSince sink log

/-- A host in agreement with its history. -/
structure Balanced (h : Host) (log : List Record) : Prop where
  up : h.net.loopback = .up
  sound : h.net.Sound
  isOpen : ∀ sink ∈ h.sinks, sink ∈ h.net.addresses
  balance : ∀ sink ∈ h.sinks, h.BalancedAt log sink
  sent : ∀ e, .sent e ∈ log → e.flow?.isSome = true ∧ e.bytes.length ≤ Datagram.maxLength

variable {h h' : Host} {log records : List Record}

theorem empty_balanced : (empty .up).Balanced [] :=
  ⟨rfl, Network.empty_sound .up, by simp [empty], by simp [empty], by simp⟩

/-- A sink stays balanced when what it newly returned comes from the front of its queue and what it
was newly shown goes to the end. -/
theorem BalancedAt.append {sink : Address} (hb : h.BalancedAt log sink)
    (hr : .opened sink ∉ records)
    (hq : records.filterMap (Record.returnedAt sink) ++ h'.net.queueOf sink =
      h.net.queueOf sink ++ records.filterMap (Record.shownAt sink)) :
    h'.BalancedAt (log ++ records) sink := by
  unfold BalancedAt at hb ⊢
  rw [returnedSince_append hr, shownSince_append hr, List.append_assoc, hq, ← List.append_assoc, hb]

namespace Change

theorem isOpen (hc : h.Change records h') (hopen : ∀ sink ∈ h.sinks, sink ∈ h.net.addresses) :
    ∀ sink ∈ h'.sinks, sink ∈ h'.net.addresses := by
  intro sink hsink
  cases hc with
  | quiet net sinks => exact net ▸ hopen sink (sinks ▸ hsink)
  | openedSink opens sinks =>
    rw [opens.addresses]
    rcases List.mem_cons.mp (sinks ▸ hsink) with rfl | hold
    · exact List.mem_append_right _ (List.mem_singleton_self _)
    · exact List.mem_append_left _ (hopen sink hold)
  | openedPeer opens sinks =>
    rw [opens.addresses]
    exact List.mem_append_left _ (hopen sink (sinks ▸ hsink))
  | closed net sinks =>
    rw [sinks] at hsink
    obtain ⟨hold, hne⟩ := List.mem_filter.mp hsink
    rw [net, Network.addresses_close]
    exact List.mem_filter.mpr ⟨hopen sink hold, hne⟩
  | carried carries sinks =>
    rw [carries.addresses]
    exact hopen sink (sinks ▸ hsink)
  | returned _ net sinks | drained _ _ net sinks =>
    rw [net, Network.addresses_setQueue]
    exact hopen sink (sinks ▸ hsink)

/-- What a sink that stays open newly returned comes from the front of its queue, and what it was
newly shown goes to the end. -/
theorem queueOf (hc : h.Change records h') (hs : h.net.Sound)
    (hopen : ∀ sink ∈ h.sinks, sink ∈ h.net.addresses) {sink : Address} (hsink : sink ∈ h.sinks)
    (hsink' : sink ∈ h'.sinks) : .opened sink ∉ records ∧
      records.filterMap (Record.returnedAt sink) ++ h'.net.queueOf sink =
        h.net.queueOf sink ++ h.net.shown sink (records.filterMap Record.emission?) := by
  have hmem := hopen sink hsink
  cases hc with
  | quiet net => simp [net]
  | @openedSink _ own opens =>
    have hne : sink ≠ own := fun he => opens.fresh (he ▸ hmem)
    simp [hne, List.filterMap_cons, Record.returnedAt, Record.emission?, opens.queueOf_of_ne hne]
  | @openedPeer _ own opens =>
    have hne : sink ≠ own := fun he => opens.fresh (he ▸ hmem)
    simp [opens.queueOf_of_ne hne]
  | closed net sinks =>
    obtain ⟨_, hne⟩ := List.mem_filter.mp (sinks ▸ hsink')
    simp [net, Network.queueOf_close_of_ne (by simpa using hne)]
  | carried carries =>
    refine ⟨by simp, ?_⟩
    rw [filterMap_returnedAt_sent, filterMap_emission?_sent, List.nil_append]
    exact carries.queueOf sink hmem
  | @returned _ own d rest queued net =>
    refine ⟨by simp, ?_⟩
    by_cases he : own = sink
    · subst he
      have hfits : d.length ≤ bufferSize :=
        (hs.fits own hmem d (queued ▸ List.mem_cons_self)).trans (by decide)
      simp [List.filterMap_cons, Record.returnedAt, Record.emission?, net, queued,
        Datagram.fitted_eq hfits, Network.queueOf_setQueue_self hmem]
    · simp [List.filterMap_cons, Record.returnedAt, Record.emission?, he, net,
        Network.queueOf_setQueue_of_ne (Ne.symm he)]
  | @drained _ peer d rest other queued net =>
    have hne : sink ≠ peer := fun he => other (he ▸ hsink)
    simp [net, Network.queueOf_setQueue_of_ne hne]

theorem balance (hc : h.Change records h') (hb : h.Balanced log) :
    ∀ sink ∈ h'.sinks, h'.BalancedAt (log ++ records) sink := by
  intro sink hsink
  by_cases hold : sink ∈ h.sinks
  · obtain ⟨hr, hq⟩ := hc.queueOf hb.sound hb.isOpen hold hsink
    rw [shown_emissions hb.up] at hq
    exact (hb.balance sink hold).append hr hq
  · -- Only the opening of a sink adds one, and a new one has neither returned nor been shown anything.
    cases hc with
    | quiet _ sinks | openedPeer _ sinks | carried _ sinks | returned _ _ sinks
    | drained _ _ _ sinks => exact absurd (sinks ▸ hsink) hold
    | closed _ sinks => exact absurd (List.mem_filter.mp (sinks ▸ hsink)).1 hold
    | openedSink opens sinks =>
      obtain rfl := (List.mem_cons.mp (sinks ▸ hsink)).resolve_right hold
      simp [BalancedAt, returnedSince, shownSince, since_opened, opens.queueOf_self]

theorem sent (hc : h.Change records h') (hup : h.net.loopback = .up) {e : Emission}
    (he : .sent e ∈ records) : e.flow?.isSome = true ∧ e.bytes.length ≤ Datagram.maxLength := by
  cases hc with
  | quiet | openedPeer | closed | drained => cases he
  | openedSink | returned => simp at he
  | carried carries =>
    obtain ⟨f, hf, hfe⟩ := List.mem_map.mp he
    obtain rfl := Record.sent.inj hfe
    exact ⟨carries.routed hup f hf, carries.fits f hf⟩

end Change

/-- Whatever is done next, a host stays in agreement with its history. -/
theorem Balanced.step (hb : h.Balanced log) (a : Act) :
    (h.step a).host.Balanced (log ++ (h.step a).records) := by
  have hc := step_change hb.sound a
  refine ⟨hc.loopback.trans hb.up, hc.sound hb.sound, hc.isOpen hb.isOpen, hc.balance hb, ?_⟩
  intro e he
  rcases List.mem_append.mp he with he | he
  · exact hb.sent e he
  · exact hc.sent hb.up he

theorem Balanced.after (hb : h.Balanced log) (acts : List Act) :
    (h.after acts).Balanced (log ++ h.history acts) := by
  induction acts generalizing h log with
  | nil => simpa [Host.after, history] using hb
  | cons a acts ih => simpa [Host.after, history] using ih (hb.step a)

/-- What is sent to one sink is shown to no other. -/
theorem Balanced.shown_once (hb : h.Balanced log) {a b : Address} (ha : a ∈ h.sinks)
    (hbs : b ∈ h.sinks) {e : Emission} (hea : (e.shownAt a).isSome = true)
    (heb : (e.shownAt b).isSome = true) : a = b := by
  obtain ⟨d, hd⟩ := Option.isSome_iff_exists.mp hea
  obtain ⟨d', hd'⟩ := Option.isSome_iff_exists.mp heb
  obtain ⟨flow, hflow, hra, _⟩ := Emission.shownAt_eq_some_iff.mp hd
  obtain ⟨flow', hflow', hrb, _⟩ := Emission.shownAt_eq_some_iff.mp hd'
  obtain rfl := Option.some.inj (hflow.symm.trans hflow')
  exact hb.sound.exclusive.receiver_unique (hb.isOpen a ha) (hb.isOpen b hbs) hra hrb

end Host

/-- What a sink is shown is the whole body of something that was sent, under its sender's name. -/
theorem mem_shownSince {sink : Address} {log : List Record} {d : Datagram}
    (hd : d ∈ shownSince sink log) : ∃ e, .sent e ∈ since sink log ∧ e.shownAt sink = some d ∧
      d.bytes = e.bytes ∧ d.source.port = e.sender.port ∧
        (e.sender.ip.isInterface = true → d.source.ip = e.sender.ip) := by
  obtain ⟨r, hr, hshown⟩ := List.mem_filterMap.mp hd
  cases r with
  | opened | returned => cases hshown
  | sent e =>
    obtain ⟨flow, hflow, _, rfl⟩ := Emission.shownAt_eq_some_iff.mp hshown
    obtain ⟨hport, hip⟩ := Emission.flow?_source hflow
    exact ⟨e, hr, hshown, rfl, (Address.port_shownTo ..).trans hport,
      fun hi => (Address.ip_shownTo ..).trans (hip hi)⟩

open Host in
/-- Whatever was done on a host, a sink's calls to receive have returned in order what was sent to
that sink since it was opened, but for what is still queued there. -/
theorem returned_append_queued_eq_shown {acts : List Act} {sink : Address}
    (hsink : sink ∈ ((empty .up).after acts).sinks) :
    let h := (empty .up).after acts
    let log := (empty .up).history acts
    returnedSince sink log ++ h.net.queueOf sink = shownSince sink log ∧
      (∀ d ∈ shownSince sink log, ∃ e, .sent e ∈ since sink log ∧ e.shownAt sink = some d ∧
        d.bytes = e.bytes ∧ d.source.port = e.sender.port ∧
          (e.sender.ip.isInterface = true → d.source.ip = e.sender.ip)) ∧
      ∀ e, .sent e ∈ log → e.flow?.isSome = true ∧ e.bytes.length ≤ Datagram.maxLength ∧
        ∀ other ∈ h.sinks, (e.shownAt sink).isSome = true → (e.shownAt other).isSome = true →
          sink = other := by
  have hb : Balanced ((empty .up).after acts) ((empty .up).history acts) :=
    empty_balanced.after acts
  refine ⟨hb.balance sink hsink, fun d hd => mem_shownSince hd, ?_⟩
  intro e he
  obtain ⟨hrouted, hfits⟩ := hb.sent e he
  refine ⟨hrouted, hfits, ?_⟩
  intro other hother hshown hother'
  exact hb.shown_once hsink hother hshown hother'

open Host in
/-- One sink among others, with a datagram returned, two queued and one lost with an earlier sink at
the same address. -/
theorem returned_append_queued_eq_shown_reopened :
    let sink : Address := .v4 .localhost 26001
    let peer : Address := .v4 .localhost 5000
    let acts : List Act := [.bind {} sink 0, .openPeer peer 0, .peerSend peer sink [0], .drop sink,
      .bind {} (.v4 .localhost 0) 7000, .bind {} sink 0, .peerSend peer sink [1, 2],
      .sendAll sink ["hi", "é", "ho"] fun k => 40000 + k.toUInt16,
      .send (.v4 .localhost 7000) "" 40000, .echo sink ⟨sink, []⟩, .receive sink 0 0,
      .attempt sink { held := [7, 7, 7], clock := 0, wake := .timedOut }]
    returnedSince sink ((empty .up).history acts) = [⟨peer, [1, 2]⟩] ∧
      shownSince sink ((empty .up).history acts) =
        [⟨peer, [1, 2]⟩, ⟨.v4 .localhost 40000, [104, 105]⟩, ⟨sink, []⟩] ∧
      returnedSince sink ((empty .up).history acts) ++ ((empty .up).after acts).net.queueOf sink =
        shownSince sink ((empty .up).history acts) := by
  refine ⟨by decide +kernel, by decide +kernel, ?_⟩
  exact (returned_append_queued_eq_shown (by decide +kernel)).1

end UdpBench
