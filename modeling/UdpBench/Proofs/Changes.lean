import UdpBench.Proofs.Host

namespace UdpBench

/-- One round takes the oldest datagram, or leaves the queue as it is. -/
theorem receiveUntil_round (deadline : Time) (queue : List Datagram) (read : Read) :
    (∃ d rest, queue = d :: rest ∧
      receiveUntil deadline queue [{ toRead := read }] = .received (d.fitted bufferSize) rest) ∨
    (receiveUntil deadline queue [{ toRead := read }]).queue = queue ∧
      (∀ d rest, receiveUntil deadline queue [{ toRead := read }] ≠ .received d rest) ∧
      ∀ rest, receiveUntil deadline queue [{ toRead := read }] ≠ .overflowed rest := by
  obtain ⟨held, failure, clock, wake⟩ := read
  cases failure with
  | some cause => simp [receiveUntil, Receipt.queue]
  | none =>
    cases queue with
    | cons d rest => exact .inl ⟨d, rest, rfl, by simp [receiveUntil, Datagram.readOver_eq_fitted]⟩
    | nil =>
      right
      by_cases hd : deadline ≤ clock
      · simp [receiveUntil, hd, Receipt.queue]
      · cases wake <;> simp [receiveUntil, hd, Receipt.queue]

namespace Host

/-- What one act can do to the sockets, with what it adds to the history. -/
inductive Change (h : Host) : List Record → Host → Prop
  | quiet {h' : Host} (net : h'.net = h.net) (sinks : h'.sinks = h.sinks) : Change h [] h'
  | openedSink {h' : Host} {own : Address} (opens : h.net.Opens own h'.net)
    (sinks : h'.sinks = own :: h.sinks) : Change h [.opened own] h'
  | openedPeer {h' : Host} {own : Address} (opens : h.net.Opens own h'.net)
    (sinks : h'.sinks = h.sinks) : Change h [] h'
  | closed {h' : Host} {own : Address} (net : h'.net = h.net.close own)
    (sinks : h'.sinks = h.sinks.filter (· != own)) : Change h [] h'
  | carried {h' : Host} {es : List Emission} (carries : h.net.Carries es h'.net)
    (sinks : h'.sinks = h.sinks) : Change h (es.map .sent) h'
  | returned {h' : Host} {sink : Address} {d : Datagram} {rest : List Datagram}
    (queued : h.net.queueOf sink = d :: rest) (net : h'.net = h.net.setQueue sink rest)
    (sinks : h'.sinks = h.sinks) : Change h [.returned sink (d.fitted bufferSize)] h'
  | drained {h' : Host} {peer : Address} {d : Datagram} {rest : List Datagram}
    (other : peer ∉ h.sinks) (queued : h.net.queueOf peer = d :: rest)
    (net : h'.net = h.net.setQueue peer rest) (sinks : h'.sinks = h.sinks) : Change h [] h'

variable {h : Host}

theorem bind_change (poller : Sink.Poller) (requested : Address) (choice : Port) :
    h.Change (h.bind poller requested choice).records (h.bind poller requested choice).host := by
  unfold bind
  rcases Sink.bind_cases h.net poller requested choice with ⟨cause, hb⟩ | ⟨own, opened, hn, hb⟩
  · rw [hb]
    exact .quiet rfl rfl
  · rw [hb]
    exact .openedSink (Network.bind_eq_ok_iff.mp hn).2.2 rfl

theorem send_change (hs : h.net.Sound) (target : Address) (text : String) (choice : Port) :
    h.Change (h.send target text choice).records (h.send target text choice).host := by
  have ha := Sender.attempt h.net target text choice
  cases hr : (Sender.send h.net target text choice).result with
  | error e =>
    simp only [send, hr]
    exact .quiet (ha.failed hr) rfl
  | ok n =>
    simp only [send, hr]
    exact @Change.carried _ _ [_] (ha.succeeded hs hr).2 rfl

theorem sendAll_change (hs : h.net.Sound) (target : Address) (texts : List String)
    (choices : Nat → Port) :
    h.Change (h.sendAll target texts choices).records (h.sendAll target texts choices).host := by
  have hc := Sender.sendAll_carries target choices hs texts
  cases hr : (Sender.sendAll target choices h.net texts).result with
  | error e =>
    simp only [sendAll, hr]
    exact .carried hc rfl
  | ok n =>
    simp only [sendAll, hr]
    exact .carried hc rfl

theorem receive_change (hs : h.net.Sound) (sink : Address) (start timeout : Time) :
    h.Change (h.receive sink start timeout).records (h.receive sink start timeout).host := by
  have hkeep := Network.setQueue_queueOf hs.exclusive.nodup sink
  unfold receive UdpBench.receive
  split
  · exact .quiet hkeep rfl
  · exact .quiet hkeep rfl

theorem attempt_change (hs : h.net.Sound) (sink : Address) (deadline : Time) (read : Read) :
    h.Change (h.attempt sink deadline read).records (h.attempt sink deadline read).host := by
  have hkeep := Network.setQueue_queueOf hs.exclusive.nodup sink
  unfold attempt
  rcases receiveUntil_round deadline (h.net.queueOf sink) read with
    ⟨d, rest, hq, hr⟩ | ⟨hq, hno, _⟩
  · rw [hr]
    exact .returned hq rfl rfl
  · cases hr : receiveUntil deadline (h.net.queueOf sink) [{ toRead := read }] with
    | received d rest => exact absurd hr (hno d rest)
    | waiting queue | timedOut queue | failed cause queue | overflowed queue =>
      rw [hr] at hq
      simp only [hq]
      exact .quiet hkeep rfl

theorem echo_change (hs : h.net.Sound) (sink : Address) (d : Datagram) :
    h.Change (h.echo sink d).records (h.echo sink d).host := by
  unfold echo
  rcases Sink.echo_cases hs sink d with ⟨cause, he⟩ | ⟨after, hc, he⟩
  · rw [he]
    exact .quiet rfl rfl
  · rw [he]
    exact @Change.carried _ _ [_] hc rfl

theorem openPeer_change (requested : Address) (choice : Port) :
    h.Change (h.openPeer requested choice).records (h.openPeer requested choice).host := by
  unfold openPeer
  split
  · rename_i own net hb
    exact .openedPeer (Network.bind_eq_ok_iff.mp hb).2.2 rfl
  · exact .quiet rfl rfl

theorem peerSend_change (hs : h.net.Sound) (peer target : Address) (bytes : Bytes) :
    h.Change (h.peerSend peer target bytes).records (h.peerSend peer target bytes).host := by
  unfold peerSend
  split
  · rename_i n net hsent
    exact @Change.carried _ _ [_] (Network.sendTo_carries hs.exclusive hsent).2 rfl
  · exact .quiet rfl rfl

theorem peerReceive_change {peer : Address} (hp : peer ∉ h.sinks) :
    h.Change (h.peerReceive peer).records (h.peerReceive peer).host := by
  unfold peerReceive Network.receive?
  cases hq : h.net.queueOf peer with
  | nil => exact .quiet rfl rfl
  | cons d rest => exact .drained hp hq rfl rfl

theorem only_change {present : Bool} {effect : Effect}
    (hc : present = true → h.Change effect.records effect.host) :
    h.Change (h.only present effect).records (h.only present effect).host := by
  unfold only
  split
  · rename_i hp
    exact hc hp
  · exact .quiet rfl rfl

theorem step_change (hs : h.net.Sound) (a : Act) : h.Change (h.step a).records (h.step a).host := by
  cases a with
  | bind poller requested choice => exact bind_change poller requested choice
  | drop sink => exact only_change fun _ => .closed rfl rfl
  | send target text choice => exact send_change hs target text choice
  | sendAll target texts choices => exact sendAll_change hs target texts choices
  | receive sink start timeout => exact only_change fun _ => receive_change hs sink start timeout
  | attempt sink read =>
    simp only [step]
    split
    · exact attempt_change hs ..
    · exact .quiet rfl rfl
  | echo sink d => exact only_change fun _ => echo_change hs sink d
  | openPeer requested choice => exact openPeer_change requested choice
  | closePeer peer =>
    refine only_change fun hp => .closed rfl ?_
    simp only [isPeer, Bool.and_eq_true, Bool.not_eq_true', List.contains_eq_mem,
      decide_eq_false_iff_not] at hp
    symm
    apply List.filter_eq_self.mpr
    intro a ha
    have hne : a ≠ peer := fun e => hp.2 (e ▸ ha)
    simpa using hne
  | peerSend peer target bytes => exact only_change fun _ => peerSend_change hs peer target bytes
  | peerReceive peer =>
    refine only_change fun hp => peerReceive_change ?_
    simpa using (Bool.and_eq_true_iff.mp hp).2

theorem Change.loopback {records : List Record} {h' : Host} (hc : h.Change records h') :
    h'.net.loopback = h.net.loopback := by
  cases hc with
  | quiet net => rw [net]
  | closed net =>
    rw [net]
    rfl
  | openedSink opens | openedPeer opens => exact opens.loopback
  | carried carries => exact carries.loopback
  | returned _ net | drained _ _ net => rw [net, Network.loopback_setQueue]

theorem Change.sound {records : List Record} {h' : Host} (hc : h.Change records h')
    (hs : h.net.Sound) : h'.net.Sound := by
  cases hc with
  | quiet net => exact net ▸ hs
  | openedSink opens | openedPeer opens => exact hs.opens opens
  | closed net => exact net ▸ hs.close _
  | carried carries => exact hs.carries carries
  | returned queued net =>
    rw [net]
    apply hs.setQueue
    intro d hd
    exact hs.length_le (queued ▸ List.mem_cons_of_mem _ hd)
  | drained _ queued net =>
    rw [net]
    apply hs.setQueue
    intro d hd
    exact hs.length_le (queued ▸ List.mem_cons_of_mem _ hd)

theorem step_sound (hs : h.net.Sound) (a : Act) : (h.step a).host.net.Sound :=
  (step_change hs a).sound hs

theorem after_sound (hs : h.net.Sound) (acts : List Act) : (h.after acts).net.Sound := by
  induction acts generalizing h with
  | nil => exact hs
  | cons a acts ih => exact ih (step_sound hs a)

theorem Reachable.sound (hr : h.Reachable) : h.net.Sound := by
  obtain ⟨lo, acts, rfl⟩ := hr
  exact after_sound (Network.empty_sound lo) acts

end Host

end UdpBench
