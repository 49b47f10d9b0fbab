import UdpBench.Proofs.Changes

namespace UdpBench

def Reply.isFailure : Reply → Bool
  | .failed _ | .overflowed => true
  | _ => false

/-- The ways in which an act can fail. -/
def Act.CanFailWith : Act → Reply → Prop
  | .bind .., .failed e => ∃ cause, e = .resource cause
  | .send target .., .failed e | .sendAll target .., .failed e =>
    (∃ index character, e = .encoding index character) ∨ (∃ cause, e = .resource cause) ∨
      ∃ cause, e = .transport target cause
  | .echo _ d, .failed e => ∃ cause, e = .transport d.source cause
  | .attempt .., .failed e => ∃ cause, e = .io cause
  | .receive .., .overflowed => True
  | _, _ => False

/-- A series fails like one of its texts. -/
theorem Act.CanFailWith.series {target : Address} {text : String} {choice : Port} {reply : Reply}
    (h : (Act.send target text choice).CanFailWith reply) {texts : List String}
    {choices : Nat → Port} : (Act.sendAll target texts choices).CanFailWith reply := by
  cases reply with
  | failed e => exact h
  | _ => cases h

/-- An operation of a sink or a sender that does one thing, and at once. -/
def Act.isSingle : Act → Bool
  | .bind .. | .send .. | .receive .. | .echo .. => true
  | _ => false

def Act.isSeries : Act → Bool
  | .sendAll .. => true
  | _ => false

namespace Host

variable {h : Host} {effect : Effect}

/-- The sockets of a host are open at the same addresses with the same in their queues, and nothing
was sent or returned. -/
structure Spared (h : Host) (effect : Effect) : Prop where
  net : effect.host.net = h.net
  sinks : effect.host.sinks = h.sinks
  records : effect.records = []

/-- Nothing happened at all. -/
structure Ignored (h : Host) (effect : Effect) : Prop where
  host : effect.host = h
  records : effect.records = []

theorem Ignored.spared (hi : h.Ignored effect) : h.Spared effect :=
  ⟨congrArg Host.net hi.host, congrArg Host.sinks hi.host, hi.records⟩

theorem only_of_failure {present : Bool} (hf : (h.only present effect).reply.isFailure = true) :
    h.only present effect = effect := by
  cases present with
  | false => cases hf
  | true => rfl

theorem bind_failure {poller : Sink.Poller} {requested : Address} {choice : Port}
    (hf : (h.bind poller requested choice).reply.isFailure = true) :
    (Act.bind poller requested choice).CanFailWith (h.bind poller requested choice).reply ∧
      h.Ignored (h.bind poller requested choice) := by
  unfold bind at hf ⊢
  rcases Sink.bind_cases h.net poller requested choice with ⟨cause, hb⟩ | ⟨own, opened, _, hb⟩
  · rw [hb]
    exact ⟨⟨cause, rfl⟩, rfl, rfl⟩
  · rw [hb] at hf
    cases hf

theorem send_failure {target : Address} {text : String} {choice : Port}
    (hf : (h.send target text choice).reply.isFailure = true) :
    (Act.send target text choice).CanFailWith (h.send target text choice).reply ∧
      h.Ignored (h.send target text choice) := by
  have ha := Sender.attempt h.net target text choice
  cases hr : (Sender.send h.net target text choice).result with
  | ok n =>
    simp only [send, hr] at hf
    cases hf
  | error e =>
    simp only [send, hr]
    refine ⟨ha.error_kind hr, ?_, rfl⟩
    simp only [ha.failed hr]

theorem echo_failure (hs : h.net.Sound) {sink : Address} {d : Datagram}
    (hf : (h.echo sink d).reply.isFailure = true) :
    (Act.echo sink d).CanFailWith (h.echo sink d).reply ∧ h.Ignored (h.echo sink d) := by
  unfold echo at hf ⊢
  rcases Sink.echo_cases hs sink d with ⟨cause, he⟩ | ⟨after, _, he⟩
  · rw [he]
    exact ⟨⟨cause, rfl⟩, rfl, rfl⟩
  · rw [he] at hf
    cases hf

/-- A call that cannot begin does not touch the queue. -/
theorem receive_failure (hs : h.net.Sound) {sink : Address} {start timeout : Time}
    (hf : (h.receive sink start timeout).reply.isFailure = true) :
    (Act.receive sink start timeout).CanFailWith (h.receive sink start timeout).reply ∧
      h.Ignored (h.receive sink start timeout) := by
  have hkeep := Network.setQueue_queueOf hs.exclusive.nodup sink
  by_cases hr : (start + timeout).isRepresentable = true
  · simp only [receive, UdpBench.receive, hr, ↓reduceIte, receiveUntil] at hf
    cases hf
  · simp only [receive, UdpBench.receive, hr, Bool.false_eq_true, ↓reduceIte, Receipt.queue, hkeep]
    exact ⟨trivial, rfl, rfl⟩

theorem attempt_failure (hs : h.net.Sound) {sink : Address} {deadline : Time} {read : Read}
    (hf : (h.attempt sink deadline read).reply.isFailure = true) :
    (Act.attempt sink read).CanFailWith (h.attempt sink deadline read).reply ∧
      h.Spared (h.attempt sink deadline read) := by
  have hkeep := Network.setQueue_queueOf hs.exclusive.nodup sink
  unfold attempt at hf ⊢
  rcases receiveUntil_round deadline (h.net.queueOf sink) read with
    ⟨d, rest, _, hr⟩ | ⟨hq, _, hno⟩
  · rw [hr] at hf
    cases hf
  · cases hr : receiveUntil deadline (h.net.queueOf sink) [{ toRead := read }] with
    | received | waiting | timedOut =>
      rw [hr] at hf
      cases hf
    | overflowed queue => exact absurd hr (hno queue)
    | failed cause queue =>
      rw [hr] at hq
      simp only [hq, hkeep]
      exact ⟨⟨cause, rfl⟩, rfl, rfl, rfl⟩

/-- The texts of a series that fails begin with some that are sent like a series of their own. Then
comes one that fails by itself. -/
theorem sendAll_failure {target : Address} {texts : List String} {choices : Nat → Port}
    (hf : (h.sendAll target texts choices).reply.isFailure = true) :
    ∃ done bad rest, texts = done ++ bad :: rest ∧
      (h.sendAll target done choices).reply = .counted done.length ∧
      (h.sendAll target texts choices).host = (h.sendAll target done choices).host ∧
      (h.sendAll target texts choices).records = (h.sendAll target done choices).records ∧
      (h.sendAll target texts choices).reply =
        ((h.sendAll target done choices).host.send target bad (choices done.length)).reply := by
  cases hr : (Sender.sendAll target choices h.net texts).result with
  | ok n =>
    simp only [sendAll, hr] at hf
    cases hf
  | error e =>
    obtain ⟨done, bad, rest, htexts, hacc, hdone, hnet, hbad⟩ := Sender.sendAll_eq_error hr
    obtain ⟨_, hall⟩ := Sender.sendAll_eq_ok hdone
    refine ⟨done, bad, rest, htexts, ?_, ?_, ?_, ?_⟩
    · simp only [sendAll, hdone]
    · simp only [sendAll, hr, hdone, hnet]
    · simp only [sendAll, hr, hdone, hacc, hall]
    · simp only [sendAll, hr, hdone, send, hbad]

/-- A series that ends well emits all its texts. -/
theorem sendAll_counted (hs : h.net.Sound) {target : Address} {texts : List String}
    {choices : Nat → Port} {n : Nat} (hn : (h.sendAll target texts choices).reply = .counted n) :
    h.net.Carries (Sender.emissions target choices texts) (h.sendAll target texts choices).host.net ∧
      (h.sendAll target texts choices).host.sinks = h.sinks ∧
      (h.sendAll target texts choices).records =
        (Sender.emissions target choices texts).map .sent := by
  have hc := Sender.sendAll_carries target choices hs texts
  cases hr : (Sender.sendAll target choices h.net texts).result with
  | error e =>
    simp only [sendAll, hr] at hn
    cases hn
  | ok m =>
    obtain ⟨_, hall⟩ := Sender.sendAll_eq_ok hr
    rw [hall] at hc
    refine ⟨?_, ?_, ?_⟩
    · simpa only [sendAll, hr] using hc
    · simp only [sendAll, hr]
    · simp only [sendAll, hr, hall]

/-- Single operations that fail do nothing. -/
theorem step_of_single (hs : h.net.Sound) {a : Act} (ha : a.isSingle = true)
    (hf : (h.step a).reply.isFailure = true) :
    a.CanFailWith (h.step a).reply ∧ h.Ignored (h.step a) := by
  cases a with
  | bind poller requested choice => exact bind_failure hf
  | send target text choice => exact send_failure hf
  | receive sink start timeout =>
    simp only [step] at hf ⊢
    have he := only_of_failure hf
    rw [he] at hf ⊢
    exact receive_failure hs hf
  | echo sink d =>
    simp only [step] at hf ⊢
    have he := only_of_failure hf
    rw [he] at hf ⊢
    exact echo_failure hs hf
  | drop | sendAll | attempt | openPeer | closePeer | peerSend | peerReceive => cases ha

/-- An act that fails does so in one of its ways. -/
theorem step_of_failure (hs : h.net.Sound) {a : Act} (hf : (h.step a).reply.isFailure = true) :
    a.CanFailWith (h.step a).reply ∧ (a.isSeries = false → h.Spared (h.step a)) := by
  by_cases ha : a.isSingle = true
  · obtain ⟨hcan, hi⟩ := step_of_single hs ha hf
    exact ⟨hcan, fun _ => hi.spared⟩
  · cases a with
    | bind | send | receive | echo => exact absurd rfl ha
    | sendAll target texts choices =>
      obtain ⟨done, bad, rest, _, _, _, _, hreply⟩ := sendAll_failure hf
      simp only [step] at hf ⊢
      rw [hreply] at hf ⊢
      refine ⟨(send_failure hf).1.series, ?_⟩
      intro hno
      cases hno
    | attempt sink read =>
      simp only [step] at hf ⊢
      split at hf
      · obtain ⟨hcan, hspared⟩ := attempt_failure hs hf
        exact ⟨hcan, fun _ => hspared⟩
      · cases hf
    | drop sink =>
      simp only [step] at hf
      rw [only_of_failure hf] at hf
      cases hf
    | openPeer requested choice =>
      simp only [step, openPeer] at hf
      split at hf <;> cases hf
    | closePeer peer =>
      simp only [step] at hf
      rw [only_of_failure hf] at hf
      cases hf
    | peerSend peer target bytes =>
      simp only [step] at hf
      rw [only_of_failure hf] at hf
      unfold peerSend at hf
      split at hf <;> cases hf
    | peerReceive peer =>
      simp only [step] at hf
      rw [only_of_failure hf] at hf
      unfold peerReceive at hf
      split at hf <;> cases hf

/-- What is left of a dialogue without the single operations that failed. -/
def kept (dialogue : List (Act × Reply)) : List (Act × Reply) :=
  dialogue.filter fun (a, reply) => !(a.isSingle && reply.isFailure)

/-- Had the single operations that failed not been tried, every other act would have had the same
reply and the same effects. -/
theorem dialogue_kept (hs : h.net.Sound) (acts : List Act) :
    h.dialogue ((kept (h.dialogue acts)).map Prod.fst) = kept (h.dialogue acts) ∧
      h.after ((kept (h.dialogue acts)).map Prod.fst) = h.after acts ∧
      h.history ((kept (h.dialogue acts)).map Prod.fst) = h.history acts := by
  induction acts generalizing h with
  | nil => exact ⟨rfl, rfl, rfl⟩
  | cons a acts ih =>
    by_cases hf : (a.isSingle && (h.step a).reply.isFailure) = true
    · obtain ⟨hsingle, hfail⟩ := Bool.and_eq_true_iff.mp hf
      obtain ⟨_, hi⟩ := step_of_single hs hsingle hfail
      have hkept : kept (h.dialogue (a :: acts)) = kept (h.dialogue acts) := by
        simp only [kept, dialogue, List.filter_cons, hf, hi.host, Bool.not_true, Bool.false_eq_true,
          ↓reduceIte]
      rw [hkept]
      simpa only [after, history, hi.host, hi.records, List.nil_append] using ih hs
    · have hkept : kept (h.dialogue (a :: acts)) =
          (a, (h.step a).reply) :: kept ((h.step a).host.dialogue acts) := by
        simp only [kept, dialogue, List.filter_cons, hf, Bool.not_false, ↓reduceIte]
      obtain ⟨hdialogue, hafter, hhistory⟩ := ih (step_sound hs a)
      rw [hkept]
      simp only [List.map_cons, dialogue, after, history, hdialogue, hafter, hhistory, and_self]

/-- Whatever fails leaves the sockets as they were, but that a series has sent what stands in front
of its first bad text. So the single operations that fail could as well not have been tried. -/
theorem Reachable.failures_leave_no_trace {h : Host} (hr : h.Reachable) :
    (∀ a, (h.step a).reply.isFailure = true →
      a.CanFailWith (h.step a).reply ∧ (a.isSeries = false → h.Spared (h.step a))) ∧
    (∀ target texts choices, (h.sendAll target texts choices).reply.isFailure = true →
      ∃ done bad rest, texts = done ++ bad :: rest ∧
        (h.sendAll target texts choices).reply =
          ((h.sendAll target done choices).host.send target bad (choices done.length)).reply ∧
        (h.sendAll target done choices).reply = .counted done.length ∧
        h.net.Carries (Sender.emissions target choices done)
          (h.sendAll target texts choices).host.net ∧
        (h.sendAll target texts choices).host.sinks = h.sinks ∧
        (h.sendAll target texts choices).records =
          (Sender.emissions target choices done).map .sent) ∧
    ∀ acts, h.dialogue ((kept (h.dialogue acts)).map Prod.fst) = kept (h.dialogue acts) ∧
      h.after ((kept (h.dialogue acts)).map Prod.fst) = h.after acts := by
  refine ⟨fun a hf => step_of_failure hr.sound hf, ?_, ?_⟩
  · intro target texts choices hf
    obtain ⟨done, bad, rest, htexts, hcounted, hhost, hrecords, hreply⟩ := sendAll_failure hf
    obtain ⟨hcarries, hsinks, hdone⟩ := sendAll_counted hr.sound hcounted
    rw [hhost, hrecords]
    exact ⟨done, bad, rest, htexts, hreply, hcounted, hcarries, hsinks, hdone⟩
  · intro acts
    obtain ⟨hdialogue, hafter, _⟩ := dialogue_kept hr.sound acts
    exact ⟨hdialogue, hafter⟩

/-- Of seven acts at an open sink four fail by themselves, and leave the replies to the others. -/
theorem Reachable.failures_leave_no_trace_mixed :
    let sink : Address := .v4 .localhost 26001
    let h := (empty .up).after [.bind {} sink 0, .send sink "first" 40000]
    let acts : List Act := [.bind {} sink 0, .send sink "sécond" 40001,
      .echo sink ⟨.v4 .localhost 0, []⟩, .receive sink 0 (.ofSeconds 0x8000000000000000),
      .sendAll sink ["third", "", "é", "fourth"] fun k => 40002 + k.toUInt16, .receive sink 0 0,
      .attempt sink { clock := 0, wake := .timedOut }]
    h.dialogue ((kept (h.dialogue acts)).map Prod.fst) = kept (h.dialogue acts) ∧
      (kept (h.dialogue acts)).map Prod.snd = [.failed (.encoding 0 'é'), .waiting,
        .received ⟨.v4 .localhost 40000, utf8 "first".toList⟩] := by
  refine ⟨?_, by decide +kernel⟩
  exact ((Reachable.failures_leave_no_trace ⟨.up, _, rfl⟩).2.2 _).1

end Host

end UdpBench
