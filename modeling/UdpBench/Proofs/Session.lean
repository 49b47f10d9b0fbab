import UdpBench.Listen.Command
import UdpBench.Proofs.Changes
import UdpBench.Proofs.Waiting

namespace UdpBench

theorem Network.setQueue_setQueue (net : Network) (own : Address) (queue queue' : List Datagram) :
    (net.setQueue own queue).setQueue own queue' = net.setQueue own queue' := by
  simp only [setQueue, List.map_map]
  congr 1
  apply List.map_congr_left
  intro s _
  by_cases h : s.address = own <;> simp [h]

namespace Listen

/-- All that taking a datagram can come to. -/
inductive Running.Takes (r : Running) (s : Settings) (own : Address) (d : Datagram) :
    Running → List Event → Prop
  | silent (off : s.echo = false) :
    Takes r s own d { r with lastSeen := r.timeline.now, stats := r.stats.add d }
      [.datagram (r.stats.add d).datagrams.toNat d]
  | echoed {net : Network} (on : s.echo = true)
    (sent : r.net.sendTo own d.source d.bytes = .ok (d.length, net)) :
    Takes r s own d ⟨net, r.timeline, r.timeline.now, (r.stats.add d).addEcho⟩
      [.datagram (r.stats.add d).datagrams.toNat d]
  | failed {cause : IoError} (on : s.echo = true)
    (refused : r.net.sendTo own d.source d.bytes = .error cause) :
    Takes r s own d { r with lastSeen := r.timeline.now, stats := r.stats.add d }
      [.datagram (r.stats.add d).datagrams.toNat d, .echoFailed (.transport d.source cause)]

theorem Running.take_takes (r : Running) (s : Settings) (own : Address) (d : Datagram) :
    r.Takes s own d (r.take s own d).1 (r.take s own d).2 := by
  cases he : s.echo with
  | false =>
    simp only [take, he]
    exact .silent he
  | true =>
    simp only [take, he, ↓reduceIte, Sink.echo]
    cases hsent : r.net.sendTo own d.source d.bytes with
    | error cause => exact .failed he hsent
    | ok sent =>
      obtain ⟨n, net⟩ := sent
      obtain ⟨_, _, hn, _, _⟩ := Network.sendTo_eq_ok hsent
      obtain rfl : n = d.length := hn
      simp only [↓reduceIte]
      exact .echoed he hsent

theorem Running.Takes.addresses {r r' : Running} {s : Settings} {own : Address} {d : Datagram}
    {events : List Event} (h : r.Takes s own d r' events) : r'.net.addresses = r.net.addresses := by
  cases h with
  | silent | failed => rfl
  | echoed _ carried =>
    obtain ⟨flow, _, _, _, rfl⟩ := Network.sendTo_eq_ok carried
    exact Network.addresses_deliver ..

/-- Where a listener stands in its loop. -/
inductive Stage
  /-- About to look at the stop conditions. -/
  | looking
  /-- About to begin a call to receive. -/
  | calling
  /-- In a call that has this deadline. -/
  | waiting (deadline : Time)
  /-- With a datagram that a call returned and that is still to be dealt with. -/
  | holding (d : Datagram)
  | stopped
  | failed (e : Error)
  | overflowed
  deriving DecidableEq

/-- The datagram that is still to be dealt with. -/
def Stage.held : Stage → Option Datagram
  | .holding d => some d
  | _ => none

/-- Where a listener stands when a call with this deadline has come so far. -/
def Stage.behind (deadline : Time) : Receipt → Stage
  | .waiting _ => .waiting deadline
  | .received d _ => .holding d
  | .timedOut _ => .looking
  | .failed cause _ => .failed (.io cause)
  | .overflowed _ => .overflowed

/-- A step of a listener. Each is short enough to have no effect on others but at one moment. -/
inductive Move
  | look
  | call
  | read (read : Read)
  | take
  /-- The clock goes on. -/
  | pass (timeline : Timeline)

/-- A step of the listener, or something that others do. -/
inductive Happening (ε : Type)
  | own (m : Move)
  | others (e : ε)

/-- A listener in the middle of its loop, with what it took and logged so far. -/
structure Session where
  running : Running
  stage : Stage
  took : List Datagram
  log : List Event

namespace Session

def start (r : Running) : Session := ⟨r, .looking, [], []⟩

/-- What the calls to receive have returned. -/
def returned (x : Session) : List Datagram := x.took ++ x.stage.held.toList

def look (x : Session) (s : Settings) : Session :=
  if x.running.hasEnough s then { x with stage := .stopped }
  else match x.running.idleFor? s with
    | some seconds => { x with stage := .stopped, log := x.log ++ [.idle seconds] }
    | none => { x with stage := .calling }

def call (x : Session) : Session :=
  let deadline := x.running.timeline.now + slice
  { x with stage := if deadline.isRepresentable then .waiting deadline else .overflowed }

/-- One attempt to read, in a call with a given deadline. -/
def read (x : Session) (own : Address) (deadline : Time) (read : Read) : Session :=
  let receipt := receiveUntil deadline (x.running.net.queueOf own) [{ toRead := read }]
  { x with
    running := { x.running with net := x.running.net.setQueue own receipt.queue }
    stage := .behind deadline receipt
    log := x.log ++ Sink.receiptEvents receipt }

def take (x : Session) (s : Settings) (own : Address) (d : Datagram) : Session :=
  let (running, events) := x.running.take s own d
  ⟨running, .looking, x.took ++ [d], x.log ++ events⟩

/-- Makes a move where it is the next one. -/
def step (s : Settings) (own : Address) (x : Session) (m : Move) : Session :=
  match x.stage, m with
  | .looking, .look => x.look s
  | .calling, .call => x.call
  | .waiting deadline, .read read => x.read own deadline read
  | .holding d, .take => x.take s own d
  | _, .pass timeline => { x with running := { x.running with timeline } }
  | _, _ => x

variable {ε : Type}

def next (others : ε → Network → Network) (s : Settings) (own : Address) (x : Session) :
    Happening ε → Session
  | .own m => x.step s own m
  | .others e => { x with running := { x.running with net := others e x.running.net } }

/-- The session after some steps of its own and of others, in any order. -/
def after (others : ε → Network → Network) (s : Settings) (own : Address) :
    Session → List (Happening ε) → Session
  | x, [] => x
  | x, a :: rest => (x.next others s own a).after others s own rest

/-- How far the loop has come, as a turn of it would end. -/
def turn (x : Session) : Turn :=
  match x.stage with
  | .stopped => .stopped x.running
  | .failed e => .failed e x.running
  | .overflowed => .overflowed x.running
  | _ => .next x.running

theorem after_append (others : ε → Network → Network) (s : Settings) (own : Address) (x : Session)
    (front back : List (Happening ε)) : x.after others s own (front ++ back) =
      (x.after others s own front).after others s own back := by
  induction front generalizing x with
  | nil => rfl
  | cons a front ih => exact ih _

/-- All that a step of the listener can come to. -/
inductive Advance (s : Settings) (own : Address) (x : Session) : Move → Session → Prop
  /-- It is not this move's turn. -/
  | refused {m : Move} : Advance s own x m x
  | enough (looking : x.stage = .looking) : Advance s own x .look { x with stage := .stopped }
  | idle (seconds : Nat) (looking : x.stage = .looking) :
    Advance s own x .look { x with stage := .stopped, log := x.log ++ [.idle seconds] }
  | goesOn (looking : x.stage = .looking) (more : x.running.hasEnough s = false) :
    Advance s own x .look { x with stage := .calling }
  | called (calling : x.stage = .calling) :
    Advance s own x .call { x with stage := .waiting (x.running.timeline.now + slice) }
  | overflowed (calling : x.stage = .calling)
    (clock : (x.running.timeline.now + slice).isRepresentable = false) :
    Advance s own x .call { x with stage := .overflowed }
  | received {deadline : Time} {read : Read} {d : Datagram} {rest : List Datagram}
    (waiting : x.stage = .waiting deadline) (queued : x.running.net.queueOf own = d :: rest) :
    Advance s own x (.read read)
      { x with
        running := { x.running with net := x.running.net.setQueue own rest }
        stage := .holding (d.fitted bufferSize)
        log := x.log ++ [.received (d.fitted bufferSize).length d.source] }
  | unread {deadline : Time} {read : Read} {stage : Stage} (waiting : x.stage = .waiting deadline)
    (goesOn : stage = .waiting deadline ∨ stage = .looking ∨ ∃ e, stage = .failed e) :
    Advance s own x (.read read)
      { x with
        running := { x.running with
          net := x.running.net.setQueue own (x.running.net.queueOf own) }
        stage }
  | took {d : Datagram} (holding : x.stage = .holding d) :
    Advance s own x .take (x.take s own d)
  | passed (timeline : Timeline) :
    Advance s own x (.pass timeline) { x with running := { x.running with timeline } }

theorem look_advance (s : Settings) (own : Address) {x : Session} (looking : x.stage = .looking) :
    Advance s own x .look (x.look s) := by
  unfold look
  split
  · exact .enough looking
  · rename_i hmore
    split
    · exact .idle _ looking
    · exact .goesOn looking (by simpa using hmore)

theorem call_advance (s : Settings) (own : Address) {x : Session} (calling : x.stage = .calling) :
    Advance s own x .call x.call := by
  by_cases hclock : (x.running.timeline.now + slice).isRepresentable = true
  · simp only [call, hclock, ↓reduceIte]
    exact .called calling
  · simp only [call, hclock]
    exact .overflowed calling (by simpa using hclock)

theorem read_advance (s : Settings) {own : Address} {x : Session} {deadline : Time}
    (waiting : x.stage = .waiting deadline) (read : Read) :
    Advance s own x (.read read) (x.read own deadline read) := by
  unfold Session.read
  rcases receiveUntil_round deadline (x.running.net.queueOf own) read with
    ⟨d, rest, hq, hr⟩ | ⟨hq, hno, hfits⟩
  · rw [hr]
    exact .received waiting hq
  · cases hr : receiveUntil deadline (x.running.net.queueOf own) [{ toRead := read }] with
    | received d rest => exact absurd hr (hno d rest)
    | overflowed queue => exact absurd hr (hfits queue)
    | waiting queue | timedOut queue | failed cause queue =>
      rw [hr] at hq
      simp only [hq, Sink.receiptEvents, List.append_nil]
      exact .unread waiting (by simp [Stage.behind])

theorem step_advance (s : Settings) (own : Address) (x : Session) (m : Move) :
    Advance s own x m (x.step s own m) := by
  unfold step
  split
  · rename_i looking
    exact look_advance s own looking
  · rename_i calling
    exact call_advance s own calling
  · rename_i waiting
    exact read_advance s waiting _
  · rename_i holding
    exact .took holding
  · exact .passed _
  · exact .refused

/-! A turn of the loop on a timeline is a session: what is due arrives before the first attempt to
read, and what ends the wait before the second. -/

/-- Others may do anything to the sockets. -/
def anyhow (net _ : Network) : Network := net

/-- Some steps lead from one session to another. -/
def Becomes (s : Settings) (own : Address) (x y : Session) : Prop :=
  ∃ happenings, x.after anyhow s own happenings = y

namespace Becomes

variable {s : Settings} {own : Address} {x y z : Session}

theorem refl (s : Settings) (own : Address) (x : Session) : Becomes s own x x := ⟨[], rfl⟩

theorem trans (h : Becomes s own x y) (h' : Becomes s own y z) : Becomes s own x z := by
  obtain ⟨front, rfl⟩ := h
  obtain ⟨back, rfl⟩ := h'
  exact ⟨front ++ back, after_append ..⟩

theorem of_step {m : Move} (h : x.step s own m = y) : Becomes s own x y := ⟨[.own m], h⟩

/-- Others act, and the clock goes on. -/
theorem meanwhile (s : Settings) (own : Address) (x : Session) (net : Network) (t : Timeline) :
    Becomes s own x { x with running := { x.running with net, timeline := t } } := by
  refine ⟨[.others net, .own (.pass t)], ?_⟩
  obtain ⟨r, stage, took, log⟩ := x
  cases stage <;> rfl

end Becomes

section Turns

variable {s : Settings} {own : Address} {r : Running} {took : List Datagram} {log : List Event}

theorem becomes_calling (henough : r.hasEnough s = false) (hidle : r.idleFor? s = none) :
    Becomes s own ⟨r, .looking, took, log⟩ ⟨r, .calling, took, log⟩ := by
  apply Becomes.of_step (m := .look)
  simp only [step, look, henough, hidle, Bool.false_eq_true, ↓reduceIte]

theorem becomes_waiting (hclock : (r.timeline.now + slice).isRepresentable = true) :
    Becomes s own ⟨r, .calling, took, log⟩
      ⟨r, .waiting (r.timeline.now + slice), took, log⟩ := by
  apply Becomes.of_step (m := .call)
  simp only [step, call, hclock, ↓reduceIte]

/-- With a queue that others have filled, an attempt to read is a round of a call. -/
theorem becomes_read (hopen : own ∈ r.net.addresses) (queue : List Datagram) {deadline : Time}
    {read : Read} {receipt : Receipt}
    (hr : receiveUntil deadline queue [{ toRead := read }] = receipt) :
    Becomes s own ⟨{ r with net := r.net.setQueue own queue }, .waiting deadline, took, log⟩
      ⟨{ r with net := r.net.setQueue own receipt.queue }, .behind deadline receipt, took,
        log ++ Sink.receiptEvents receipt⟩ := by
  apply Becomes.of_step (m := .read read)
  simp only [step, Session.read, Network.queueOf_setQueue_self hopen, hr,
    Network.setQueue_setQueue]

/-- A wait on a timeline ends with something to read, or at its deadline. -/
theorem woken (deadline : Time) (t : Timeline) :
    t.dueBy (t.wakeTime deadline) ≠ [] ∨ t.wakeTime deadline = deadline := by
  obtain ⟨now, arrivals⟩ := t
  cases arrivals with
  | nil => exact .inr rfl
  | cons a later =>
    rcases Nat.le_total a.time deadline with hin | hlate
    · left
      simp [Timeline.dueBy, Timeline.wakeTime, hin]
    · exact .inr (Nat.min_eq_right hlate)

/-- Nobody waits any longer who has something to read, or is at the deadline. -/
theorem receiveUntil_ended {deadline : Time} {queue : List Datagram} {read : Read}
    (h : queue ≠ [] ∨ deadline ≤ read.clock) (left : List Datagram) :
    receiveUntil deadline queue [{ toRead := read }] ≠ .waiting left := by
  cases hf : read.failure with
  | some cause => simp [receiveUntil, hf]
  | none =>
    cases queue with
    | cons d rest => simp [receiveUntil, hf]
    | nil => simp [receiveUntil, hf, h.resolve_left (fun hne => hne rfl)]

/-- A call on a timeline ends like one attempt to read, the last one, or it cannot begin at all. -/
theorem receive_cases {t t' : Timeline} {queue : List Datagram} {receipt : Receipt}
    (hr : t.receive slice queue = (receipt, t')) :
    ((t.now + slice).isRepresentable = true ∧ ∃ (there : List Datagram) (read : Read),
      receiveUntil (t.now + slice) there [{ toRead := read }] = receipt ∧
        ∀ left, receipt ≠ .waiting left) ∨
    ((t.now + slice).isRepresentable = false ∧ ∃ left, receipt = .overflowed left) := by
  by_cases hclock : (t.now + slice).isRepresentable = true
  · refine .inl ⟨hclock, ?_⟩
    cases hq : queue ++ t.dueBy t.now with
    | cons d rest =>
      rw [Timeline.receive_of_due hq hclock] at hr
      obtain ⟨rfl, _⟩ := Prod.mk.inj hr
      refine ⟨d :: rest, { clock := t.now, wake := .timedOut }, ?_, by simp⟩
      simp [receiveUntil, Datagram.readOver_eq_fitted]
    | nil =>
      rw [Timeline.receive_of_nothing_due hq rfl (by decide) hclock] at hr
      obtain ⟨hreceipt, _⟩ := Prod.mk.inj hr
      let now := t.advance t.now
      let wake := now.wakeTime (t.now + slice)
      let atEnd : Read := { clock := wake, wake := .timedOut }
      have hround : receiveUntil (t.now + slice) (now.dueBy wake) [{ toRead := atEnd }] =
          receipt := by
        rw [← hreceipt]
        simp only [receiveUntil, List.append_nil, List.nil_append]
        rfl
      refine ⟨_, _, hround, ?_⟩
      intro left
      rw [← hround]
      have hwoken := (woken (t.now + slice) now).imp_right fun h => Nat.le_of_eq h.symm
      exact receiveUntil_ended hwoken left
  · have hno : (t.now + slice).isRepresentable = false := by simpa using hclock
    rw [Timeline.receive_of_overflow hno] at hr
    exact .inr ⟨hno, _, (Prod.mk.inj hr).1.symm⟩

/-- A call on a timeline is an attempt to read with what others have done in front of it. -/
theorem becomes_received (took : List Datagram) (log : List Event) (hopen : own ∈ r.net.addresses)
    (henough : r.hasEnough s = false) (hidle : r.idleFor? s = none) {receipt : Receipt}
    {net : Network} {t : Timeline}
    (hr : Sink.receive r.net own r.timeline slice = (receipt, net, t)) :
    (∃ deadline, Becomes s own ⟨r, .looking, took, log⟩
      ⟨{ r with net, timeline := t }, .behind deadline receipt, took,
        log ++ Sink.receiptEvents receipt⟩) ∧
    (∀ left, receipt ≠ .waiting left) ∧ net.addresses = r.net.addresses := by
  have hcalling : Becomes s own ⟨r, .looking, took, log⟩ ⟨r, .calling, took, log⟩ :=
    becomes_calling henough hidle
  rcases hcall : r.timeline.receive slice (r.net.queueOf own) with ⟨receipt', t'⟩
  simp only [Sink.receive, hcall, Prod.mk.injEq] at hr
  obtain ⟨rfl, rfl, rfl⟩ := hr
  have haddresses := Network.addresses_setQueue r.net own receipt'.queue
  rcases receive_cases hcall with ⟨hclock, there, read, hround, hended⟩ | ⟨hno, left, rfl⟩
  · refine ⟨⟨r.timeline.now + slice, ?_⟩, hended, haddresses⟩
    have hwaiting := hcalling.trans (becomes_waiting hclock)
    have hfilled := hwaiting.trans (.meanwhile s own _ (r.net.setQueue own there) t')
    exact hfilled.trans (becomes_read (r := { r with timeline := t' }) hopen there hround)
  · refine ⟨⟨0, ?_⟩, by simp, haddresses⟩
    have hover : Becomes s own ⟨r, .calling, took, log⟩ ⟨r, .overflowed, took, log⟩ := by
      apply Becomes.of_step (m := .call)
      simp only [step, call, hno, Bool.false_eq_true, ↓reduceIte]
    have hdone := (hcalling.trans hover).trans (.meanwhile s own _ (r.net.setQueue own left) t')
    simpa [Sink.receiptEvents, Stage.behind, Receipt.queue] using hdone

/-- A turn of the loop is a session from one look at the stop conditions to the next, or to the
end. -/
theorem becomes_turn (took : List Datagram) (log : List Event) (hopen : own ∈ r.net.addresses)
    {last : Turn} {events : List Event} (hturn : r.turn s own = (last, events)) :
    ∃ y, Becomes s own ⟨r, .looking, took, log⟩ y ∧ y.turn = last ∧ y.log = log ++ events ∧
      ∀ r', last = .next r' → y.running = r' ∧ y.stage = .looking ∧
        own ∈ r'.net.addresses := by
  by_cases henough : r.hasEnough s = true
  · simp only [Running.turn, henough, ↓reduceIte, Prod.mk.injEq] at hturn
    obtain ⟨rfl, rfl⟩ := hturn
    refine ⟨⟨r, .stopped, took, log⟩, .of_step (m := .look) ?_, rfl, by simp, by simp⟩
    simp only [step, look, henough, ↓reduceIte]
  · have hmore : r.hasEnough s = false := by simpa using henough
    cases hidle : r.idleFor? s with
    | some seconds =>
      simp only [Running.turn, hmore, hidle, Bool.false_eq_true, ↓reduceIte, Prod.mk.injEq] at hturn
      obtain ⟨rfl, rfl⟩ := hturn
      refine ⟨⟨r, .stopped, took, log ++ [.idle seconds]⟩, .of_step (m := .look) ?_, rfl, rfl,
        by simp⟩
      simp only [step, look, hmore, hidle, Bool.false_eq_true, ↓reduceIte]
    | none =>
      rcases hr : Sink.receive r.net own r.timeline slice with ⟨receipt, net, t⟩
      obtain ⟨⟨deadline, hcame⟩, hended, haddresses⟩ :=
        becomes_received took log hopen hmore hidle hr
      simp only [Running.turn, hmore, hidle, hr, Bool.false_eq_true, ↓reduceIte] at hturn
      cases receipt with
      | received d queue =>
        simp only [Prod.mk.injEq] at hturn
        obtain ⟨rfl, rfl⟩ := hturn
        refine ⟨_, hcame.trans (.of_step (m := .take) rfl), rfl, List.append_assoc .., ?_⟩
        intro r' hr'
        obtain rfl := Turn.next.inj hr'
        refine ⟨rfl, rfl, ?_⟩
        rw [(Running.take_takes ..).addresses]
        exact haddresses ▸ hopen
      | timedOut queue =>
        obtain ⟨rfl, rfl⟩ := Prod.mk.inj hturn
        refine ⟨_, hcame, rfl, rfl, ?_⟩
        intro r' hr'
        obtain rfl := Turn.next.inj hr'
        exact ⟨rfl, rfl, haddresses ▸ hopen⟩
      | waiting queue => exact absurd rfl (hended queue)
      | failed cause queue | overflowed queue =>
        obtain ⟨rfl, rfl⟩ := Prod.mk.inj hturn
        exact ⟨_, hcame, rfl, rfl, by simp⟩

/-- Any number of turns is a session. -/
theorem becomes_turns (took : List Datagram) (log : List Event) (n : Nat)
    (hopen : own ∈ r.net.addresses) :
    ∃ y, Becomes s own ⟨r, .looking, took, log⟩ y ∧ y.turn = (r.turns s own n).1 ∧
      y.log = log ++ (r.turns s own n).2 := by
  induction n generalizing r took log with
  | zero => exact ⟨_, .refl s own _, rfl, (List.append_nil log).symm⟩
  | succ n ih =>
    rcases hturn : r.turn s own with ⟨last, events⟩
    obtain ⟨y, hy, hlast, hlog, hnext⟩ := becomes_turn took log hopen hturn
    cases last with
    | next r' =>
      obtain ⟨hrunning, hstage, hopen'⟩ := hnext r' rfl
      obtain ⟨z, hz, hlast', hlog'⟩ := ih y.took y.log hopen'
      have hsame : y = ⟨r', .looking, y.took, y.log⟩ := by
        obtain ⟨running, stage, took, log⟩ := y
        subst hrunning hstage
        rfl
      refine ⟨z, hy.trans (hsame ▸ hz), ?_, ?_⟩
      · simp only [Running.turns, hturn]
        exact hlast'
      · simp only [Running.turns, hturn]
        rw [hlog', hlog, List.append_assoc]
    | stopped r' | failed e r' | overflowed r' =>
      refine ⟨y, hy, ?_, ?_⟩
      · simp only [Running.turns, hturn, hlast]
      · simp only [Running.turns, hturn, hlog]

end Turns

end Session

/-- The program, when its loop has come so far by steps of its own and of others. -/
def attend {ε : Type} (others : ε → Network → Network) (net : Network) (setup : Setup)
    (choice : Port) (timeline : Timeline) (uptime : String) (s : Settings)
    (happenings : List (Happening ε)) : Ending × Network :=
  match openSink net setup choice s with
  | .ok (own, opened) =>
    let x := (Session.start (.start opened timeline)).after others s own happenings
    seen own uptime s x.turn x.log
  | .error (report, net) => (.done report, net)

section Opening

variable {net opened : Network} {setup : Setup} {choice : Port} {s : Settings} {own : Address}
  {events : List Event} {cause : IoError}

theorem openSink_of_unbound {e : Error}
    (unbound : Sink.bind net setup.poller s.bind choice = ⟨.error e, opened, events⟩) :
    openSink net setup choice s = .error (failure s [.loggingStarted s.level] e, opened) := by
  simp only [openSink, unbound]

/-- A sink that is bound is used if it tells its address or is not asked. -/
theorem openSink_of_told
    (bound : Sink.bind net setup.poller s.bind choice = ⟨.ok own, opened, events⟩)
    (told : s.level.shows .info = true → setup.located = .ok ()) :
    openSink net setup choice s = .ok (own, opened) := by
  simp only [openSink, bound]
  split
  · rename_i asked refused
    cases refused.symm.trans (told asked)
  · rfl

theorem openSink_of_untold
    (bound : Sink.bind net setup.poller s.bind choice = ⟨.ok own, opened, events⟩)
    (asked : s.level.shows .info = true) (refused : setup.located = .error cause) :
    openSink net setup choice s = .error
      (failure s [.loggingStarted s.level, .bound s.bind] (.io cause), opened.close own) := by
  simp only [openSink, bound, asked, refused]

/-- All that opening a sink can come to. A program that cannot listen leaves no socket behind. -/
inductive Opening (net : Network) (setup : Setup) (s : Settings) :
    Except (Report × Network) (Address × Network) → Prop
  | unbound (cause : IoError) :
    Opening net setup s (.error (failure s [.loggingStarted s.level] (.resource cause), net))
  | untold {cause : IoError} (asked : s.level.shows .info = true)
    (refused : setup.located = .error cause) :
    Opening net setup s
      (.error (failure s [.loggingStarted s.level, .bound s.bind] (.io cause), net))
  | opened {own : Address} {opened : Network} (opens : net.Opens own opened) :
    Opening net setup s (.ok (own, opened))

theorem openSink_opening (net : Network) (setup : Setup) (choice : Port) (s : Settings) :
    Opening net setup s (openSink net setup choice s) := by
  rcases Sink.bind_cases net setup.poller s.bind choice with ⟨cause, hb⟩ | ⟨own, opened, hn, hb⟩
  · exact openSink_of_unbound hb ▸ .unbound cause
  · have ho : net.Opens own opened := (Network.bind_eq_ok_iff.mp hn).2.2
    cases hlocated : setup.located with
    | ok _ => exact openSink_of_told hb (fun _ => hlocated) ▸ .opened ho
    | error cause =>
      by_cases asked : s.level.shows .info = true
      · rw [openSink_of_untold hb asked hlocated, ho.close]
        exact .untold asked hlocated
      · exact openSink_of_told hb (fun h => absurd h asked) ▸ .opened ho

theorem openSink_eq_ok (h : openSink net setup choice s = .ok (own, opened)) :
    net.Opens own opened := by
  have hopening := openSink_opening net setup choice s
  rw [h] at hopening
  cases hopening with
  | opened opens => exact opens

theorem openSink_eq_error {report : Report} {left : Network}
    (h : openSink net setup choice s = .error (report, left)) :
    left = net ∧ ∃ events e, report = failure s events e := by
  have hopening := openSink_opening net setup choice s
  rw [h] at hopening
  cases hopening with
  | unbound | untold => exact ⟨rfl, _, _, rfl⟩

end Opening

end Listen

end UdpBench
