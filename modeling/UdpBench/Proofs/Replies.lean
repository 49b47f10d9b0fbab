import UdpBench.Proofs.Reporting
import UdpBench.Proofs.Turns

namespace UdpBench

namespace Network

variable {net after : Network} {own : Address} {es : List Emission}

theorem close_setQueue (net : Network) (own : Address) (queue : List Datagram) :
    (net.setQueue own queue).close own = net.close own := by
  have hp : (fun s : Socket => s.address != own) ∘
      (fun s => if s.address = own then ⟨own, queue⟩ else s) = fun s => s.address != own := by
    funext s
    by_cases hs : s.address = own <;> simp [hs]
  have hothers : (net.sockets.filter fun s => s.address != own).map
      (fun s => if s.address = own then ⟨own, queue⟩ else s) =
      net.sockets.filter fun s => s.address != own := by
    refine (List.map_congr_left ?_).trans (List.map_id _)
    intro s hs
    have hne : s.address ≠ own := by simpa using (List.mem_filter.mp hs).2
    rw [if_neg hne, id_eq]
  simp only [setQueue, close, List.filter_map, hp, hothers]

/-- A socket that was shown nothing may have taken from its queue meanwhile. -/
theorem Carries.setQueue (h : net.Carries es after) (hnothing : net.shown own es = [])
    (queue : List Datagram) : (net.setQueue own queue).Carries es (after.setQueue own queue) := by
  refine ⟨h.loopback, by simp [h.addresses], ?_, h.routed, h.fits⟩
  intro other hother
  rw [addresses_setQueue] at hother
  have hshown : (net.setQueue own queue).shown other es = net.shown other es := rfl
  by_cases he : other = own
  · subst he
    rw [queueOf_setQueue_self hother, queueOf_setQueue_self (h.addresses ▸ hother), hshown,
      hnothing, List.append_nil]
  · rw [queueOf_setQueue_of_ne he, queueOf_setQueue_of_ne he, hshown, h.queueOf other hother]

theorem Carries.close (h : net.Carries es after) (own : Address) :
    (net.close own).Carries es (after.close own) := by
  refine ⟨h.loopback, by simp only [addresses_close, h.addresses], ?_, h.routed, h.fits⟩
  intro other hother
  rw [addresses_close] at hother
  obtain ⟨hother, hne⟩ := List.mem_filter.mp hother
  have hne : other ≠ own := by simpa using hne
  have hshown : (net.close own).shown other es = net.shown other es := rfl
  rw [queueOf_close_of_ne hne, queueOf_close_of_ne hne, hshown, h.queueOf other hother]

end Network

namespace Listen

/-- What a socket sends that sends a datagram back. -/
def reply (own : Address) (d : Datagram) : Emission := ⟨own, d.source, d.bytes⟩

theorem shown_replies {own : Address} {took : List Datagram} (h : ∀ d ∈ took, Foreign own d)
    (net : Network) : net.shown own (took.map (reply own)) = [] := by
  unfold Network.shown
  split
  · rw [List.filterMap_map]
    exact List.filterMap_eq_nil_iff.mpr h
  · rfl

/-- Two listeners at the same place of which only the second one echoes. It has sent back what both
took, and counted that. Without the sink the first one has left no trace. -/
structure Running.Twin (net : Network) (own : Address) (took : List Datagram)
    (silent loud : Running) : Prop where
  timeline : loud.timeline = silent.timeline
  lastSeen : loud.lastSeen = silent.lastSeen
  stats : loud.stats = { silent.stats with echoed := took.length.toUInt64 }
  unechoed : silent.stats.echoed = 0
  replied : silent.net.Carries (took.map (reply own)) loud.net
  untouched : silent.net.close own = net
  isOpen : own ∈ silent.net.addresses
  exclusive : silent.net.Exclusive
  foreign : ∀ d ∈ took, Foreign own d

/-- Two turns that end in the same way. -/
inductive Turn.Twin (net : Network) (own : Address) (took : List Datagram) : Turn → Turn → Prop
  | next {silent loud : Running} (h : Running.Twin net own took silent loud) :
    Twin net own took (.next silent) (.next loud)
  | stopped {silent loud : Running} (h : Running.Twin net own took silent loud) :
    Twin net own took (.stopped silent) (.stopped loud)
  | failed (e : Error) {silent loud : Running} (h : Running.Twin net own took silent loud) :
    Twin net own took (.failed e silent) (.failed e loud)
  | overflowed {silent loud : Running} (h : Running.Twin net own took silent loud) :
    Twin net own took (.overflowed silent) (.overflowed loud)

namespace Running.Twin

variable {net : Network} {own : Address} {took : List Datagram} {silent loud : Running}
  {s : Settings}

theorem hasEnough (h : Twin net own took silent loud) :
    loud.hasEnough { s with echo := true } = silent.hasEnough { s with echo := false } := by
  simp only [Running.hasEnough, h.stats]

theorem idleFor? (h : Twin net own took silent loud) :
    loud.idleFor? { s with echo := true } = silent.idleFor? { s with echo := false } := by
  simp only [Running.idleFor?, h.timeline, h.lastSeen]

theorem queueOf (h : Twin net own took silent loud) :
    loud.net.queueOf own = silent.net.queueOf own := by
  rw [h.replied.queueOf own h.isOpen, shown_replies h.foreign, List.append_nil]

/-- Both have received the same, or have waited for nothing. -/
theorem received (h : Twin net own took silent loud) (queue : List Datagram) (t : Timeline) :
    Twin net own took { silent with net := silent.net.setQueue own queue, timeline := t }
      { loud with net := loud.net.setQueue own queue, timeline := t } := by
  refine ⟨rfl, h.lastSeen, h.stats, h.unechoed, ?_, ?_, ?_, ?_, h.foreign⟩
  · exact h.replied.setQueue (shown_replies h.foreign _) queue
  · rw [Network.close_setQueue, h.untouched]
  · rw [Network.addresses_setQueue]
    exact h.isOpen
  · simpa only [Network.Exclusive, Network.addresses_setQueue] using h.exclusive

/-- The second one sends back what both take. -/
theorem take (h : Twin net own took silent loud) {d : Datagram} (hforeign : Foreign own d)
    (hsent : ∀ ev ∈ (loud.take { s with echo := true } own d).2, isEchoFailure ev = false) :
    (loud.take { s with echo := true } own d).2 = (silent.take { s with echo := false } own d).2 ∧
      Twin net own (took ++ [d]) (silent.take { s with echo := false } own d).1
        (loud.take { s with echo := true } own d).1 := by
  have hnumber : (loud.stats.add d).datagrams = (silent.stats.add d).datagrams := by
    simp only [Stats.add, h.stats]
  have htakes := loud.take_takes { s with echo := true } own d
  generalize loud.take { s with echo := true } own d = result at htakes hsent ⊢
  obtain ⟨after, events⟩ := result
  cases htakes with
  | silent off => cases off
  | @failed cause on refused =>
    have hfailed := hsent (.echoFailed (.transport d.source cause)) (by simp)
    cases hfailed
  | @echoed sentBack on sent =>
    have hexclusive : loud.net.Exclusive := by
      simpa only [Network.Exclusive, h.replied.addresses] using h.exclusive
    have hreplied := h.replied.trans (Network.sendTo_carries hexclusive sent).2
    refine ⟨?_, h.timeline, congrArg Timeline.now h.timeline, ?_, h.unechoed, ?_, h.untouched,
      h.isOpen, h.exclusive, ?_⟩
    · rw [hnumber]
      rfl
    · simp only [Stats.addEcho, Stats.add, h.stats, List.length_append, List.length_singleton,
        toUInt64_succ]
      rfl
    · rw [List.map_append]
      exact hreplied
    · intro d' hd'
      rcases List.mem_append.mp hd' with hd' | hd'
      · exact h.foreign d' hd'
      · rw [List.mem_singleton.mp hd']
        exact hforeign

/-- One turn of each ends in the same way. -/
theorem turn (h : Twin net own took silent loud)
    (hforeign : ∀ d ∈ taken (silent.turn { s with echo := false } own).2, Foreign own d)
    (hsent : ∀ ev ∈ (loud.turn { s with echo := true } own).2, isEchoFailure ev = false) :
    (loud.turn { s with echo := true } own).2 = (silent.turn { s with echo := false } own).2 ∧
      Turn.Twin net own (took ++ taken (silent.turn { s with echo := false } own).2)
        (silent.turn { s with echo := false } own).1 (loud.turn { s with echo := true } own).1 := by
  have hno : took ++ taken [] = took := List.append_nil took
  unfold Running.turn at hforeign hsent ⊢
  simp only [h.hasEnough, h.idleFor?, Sink.receive, h.timeline, h.queueOf] at hforeign hsent ⊢
  by_cases henough : silent.hasEnough { s with echo := false } = true
  · simp only [henough, ↓reduceIte, hno]
    exact ⟨trivial, .stopped h⟩
  · simp only [henough] at hforeign hsent ⊢
    cases hidle : silent.idleFor? { s with echo := false } with
    | some seconds => exact ⟨rfl, hno.symm ▸ .stopped h⟩
    | none =>
      rcases hr : silent.timeline.receive slice (silent.net.queueOf own) with ⟨receipt, t⟩
      simp only [hidle, hr] at hforeign hsent ⊢
      have hreceived := h.received receipt.queue t
      cases receipt with
      | received d queue =>
        have hfirst : Foreign own d := hforeign d (List.mem_cons_self (a := d) (l := []))
        obtain ⟨hevents, htwin⟩ := hreceived.take hfirst fun ev hev =>
          hsent ev (List.mem_append_right _ hev)
        exact ⟨congrArg (Sink.receiptEvents (.received d queue) ++ ·) hevents, .next htwin⟩
      | timedOut queue | waiting queue => exact ⟨rfl, hno.symm ▸ .next hreceived⟩
      | failed cause queue => exact ⟨rfl, hno.symm ▸ .failed _ hreceived⟩
      | overflowed queue => exact ⟨rfl, hno.symm ▸ .overflowed hreceived⟩

/-- What is logged in a turn is logged in any number of turns that begins with it. -/
theorem mem_turns (n : Nat) {r : Running} {ev : Event} (hev : ev ∈ (r.turn s own).2) :
    ev ∈ (r.turns s own (n + 1)).2 := by
  unfold Running.turns
  split
  · rename_i hturn
    rw [hturn] at hev
    exact List.mem_append_left _ hev
  · exact hev

/-- After any number of turns both are at the same place. -/
theorem turns (h : Twin net own took silent loud) (n : Nat)
    (hforeign : ∀ d ∈ taken (silent.turns { s with echo := false } own n).2, Foreign own d)
    (hsent : ∀ ev ∈ (loud.turns { s with echo := true } own n).2, isEchoFailure ev = false) :
    (loud.turns { s with echo := true } own n).2 = (silent.turns { s with echo := false } own n).2 ∧
      Turn.Twin net own (took ++ taken (silent.turns { s with echo := false } own n).2)
        (silent.turns { s with echo := false } own n).1
        (loud.turns { s with echo := true } own n).1 := by
  induction n generalizing took silent loud with
  | zero => exact ⟨rfl, (List.append_nil took).symm ▸ .next h⟩
  | succ n ih =>
    have hforeign' : ∀ d ∈ taken (silent.turn { s with echo := false } own).2, Foreign own d := by
      intro d hd
      obtain ⟨ev, hev, htaken⟩ := List.mem_filterMap.mp hd
      exact hforeign d (List.mem_filterMap.mpr ⟨ev, mem_turns n hev, htaken⟩)
    obtain ⟨hevents, htwin⟩ := h.turn hforeign' fun ev hev => hsent ev (mem_turns n hev)
    unfold Running.turns at hforeign hsent ⊢
    rcases hquiet : silent.turn { s with echo := false } own with ⟨last, events⟩
    rcases hloud : loud.turn { s with echo := true } own with ⟨last', events'⟩
    simp only [hquiet, hloud] at hforeign hsent hevents htwin ⊢
    subst hevents
    -- Neither run can end before the other, so what is left is the same number of turns.
    cases htwin with
    | next h =>
      simp only [taken_append] at hforeign ⊢
      obtain ⟨hmore, hlast⟩ := ih h (fun d hd => hforeign d (List.mem_append_right _ hd))
        fun ev hev => hsent ev (List.mem_append_right _ hev)
      rw [hmore, ← List.append_assoc]
      exact ⟨rfl, hlast⟩
    | stopped h => exact ⟨rfl, .stopped h⟩
    | failed e h => exact ⟨rfl, .failed e h⟩
    | overflowed h => exact ⟨rfl, .overflowed h⟩

end Running.Twin

/-- What is left by a program that does not echo, and by one that sends back what both take. -/
structure SameButReplies (uptime : String) (took : List Datagram) (silent loud : Report) :
    Prop where
  exitCode : loud.exitCode = silent.exitCode
  errors : loud.errors = silent.errors
  success : silent.exitCode = 0 → ∃ datagrams empty bytes echoes,
    silent.output = figures uptime datagrams empty bytes ∧
      loud.output = silent.output ++ echoedText echoes ∧
      (took.length < UInt64.size → echoes = took.length)
  failure : silent.exitCode ≠ 0 → silent.output = "" ∧ loud.output = ""

theorem SameButReplies.of_eq {uptime : String} {took : List Datagram} {report : Report}
    (hcode : report.exitCode ≠ 0) (houtput : report.output = "") :
    SameButReplies uptime took report report :=
  ⟨rfl, rfl, fun h => absurd h hcode, fun _ => ⟨houtput, houtput⟩⟩

/-- What is seen of two programs whose loops have come to the same place. -/
theorem Turn.Twin.seen {net : Network} {own : Address} {took : List Datagram} {silent loud : Turn}
    (h : silent.Twin net own took loud) (uptime : String) (s : Settings) (events : List Event) :
    let quiet := seen own uptime { s with echo := false } silent events
    let replying := seen own uptime { s with echo := true } loud events
    (quiet.1 = .listening ∧ replying.1 = .listening) ∨
      quiet.2 = net ∧ net.Carries (took.map (reply own)) replying.2 ∧
        ∃ report report', quiet.1 = .done report ∧ replying.1 = .done report' ∧
          SameButReplies uptime took report report' := by
  intro quiet replying
  cases h with
  | next h => exact .inl ⟨rfl, rfl⟩
  | @stopped silent loud h =>
    refine .inr ⟨h.untouched, h.untouched ▸ h.replied.close own, _, _, rfl, rfl, rfl, rfl, ?_,
      fun hne => absurd rfl hne⟩
    intro _
    refine ⟨_, _, _, loud.stats.echoed.toNat, join_lines_silent h.unechoed uptime, ?_, ?_⟩
    · rw [join_lines_echoed, join_lines_silent h.unechoed, h.stats]
    · intro hlen
      rw [h.stats]
      exact UInt64.toNat_ofNat_of_lt' hlen
  | failed e h =>
    exact .inr ⟨h.untouched, h.untouched ▸ h.replied.close own, _, _, rfl, rfl,
      .of_eq Nat.one_ne_zero rfl⟩
  | overflowed h =>
    have hpanic : panicCode ≠ 0 := by decide
    exact .inr ⟨h.untouched, h.untouched ▸ h.replied.close own, _, _, rfl, rfl, .of_eq hpanic rfl⟩

/-- A program that is asked to echo opens the same sink, takes the same datagrams, stops at the same
point and leaves the same as without, but for the replies and their number. Without, the other
sockets are left as they were. With it they are shown what was taken, sent back in order. No echo
must fail, and none may come back to the sink, where it would be one more arrival. -/
theorem echo_changes_only_replies {net : Network} (hn : net.Exclusive) {s : Settings}
    {plain echoing : List Argument}
    (hplain : grammar.settings plain = .ok { s with echo := false })
    (hechoing : grammar.settings echoing = .ok { s with echo := true })
    (setup : Setup) (choice : Port) (t : Timeline) (n : Nat) (uptime : String) :
    let quiet := command net setup choice t n uptime plain
    let replying := command net setup choice t n uptime echoing
    (∀ report left, openSink net setup choice s = .error (report, left) →
      quiet = (.done report, net) ∧ replying = (.done report, net)) ∧
    ∀ own opened, openSink net setup choice s = .ok (own, opened) →
      let silent := (Running.start opened t).turns { s with echo := false } own n
      let loud := (Running.start opened t).turns { s with echo := true } own n
      let took := taken silent.2
      (∀ ev ∈ loud.2, isEchoFailure ev = false) → (∀ d ∈ took, Foreign own d) →
        loud.2 = silent.2 ∧ silent.1.Twin net own took loud.1 ∧
        ((quiet.1 = .listening ∧ replying.1 = .listening) ∨
          quiet.2 = net ∧ net.Carries (took.map (reply own)) replying.2 ∧
            ∃ report report', quiet.1 = .done report ∧ replying.1 = .done report' ∧
              SameButReplies uptime took report report') := by
  intro quiet replying
  have hopen (echo : Bool) :
      openSink net setup choice { s with echo } = openSink net setup choice s := rfl
  refine ⟨?_, ?_⟩
  · intro report left herror
    obtain ⟨rfl, _⟩ := openSink_eq_error herror
    simp only [quiet, replying, command, hplain, hechoing, run, hopen, herror]
    exact ⟨trivial, trivial⟩
  · intro own opened hsink silent loud took hsent hforeign
    have ho := openSink_eq_ok hsink
    have hstart : Running.Twin net own [] (.start opened t) (.start opened t) := by
      refine ⟨rfl, rfl, rfl, rfl, .refl opened, ho.close, ?_, ho.exclusive hn, by simp⟩
      simp [Running.start, ho.addresses]
    obtain ⟨hevents, htwin⟩ := hstart.turns n hforeign hsent
    have hquiet : quiet = seen own uptime { s with echo := false } silent.1 silent.2 := by
      simp only [quiet, command, hplain, run, hopen, hsink, listen, silent]
    have hreplying : replying = seen own uptime { s with echo := true } loud.1 silent.2 := by
      rw [← hevents]
      simp only [replying, command, hechoing, run, hopen, hsink, listen, loud]
    rw [hquiet, hreplying]
    exact ⟨hevents, htwin, htwin.seen uptime s silent.2⟩

def Ending.exitCode? : Ending → Option Nat
  | .done report => some report.exitCode
  | .listening => none

/-- Of two datagrams that come at the same time the second is empty. -/
theorem echo_changes_only_replies_two :
    let own : Address := .v4 .localhost 26001
    let peer : Address := .v4 .localhost 5000
    let net : Network := ⟨.up, [⟨peer, []⟩]⟩
    let t : Timeline := ⟨.ofSeconds 1, [⟨.ofSeconds 2, ⟨peer, [1]⟩⟩, ⟨.ofSeconds 2, ⟨peer, []⟩⟩]⟩
    let quiet := command net {} 0 t 6 "1.0s" (["-n2"].map Argument.ofText)
    let replying := command net {} 0 t 6 "1.0s" (["-en2"].map Argument.ofText)
    quiet.2 = net ∧ replying.2.queueOf peer = [⟨own, [1]⟩, ⟨own, []⟩] ∧
      ∃ report report', quiet.1 = .done report ∧ replying.1 = .done report' ∧
        report'.errors = report.errors ∧ report'.exitCode = report.exitCode ∧
        report'.output = report.output ++ "   Echoed:      2\n" := by
  intro own peer net t quiet replying
  let s : Settings := ⟨own, false, some 2, none, "info"⟩
  have hplain : grammar.settings (["-n2"].map Argument.ofText) = .ok { s with echo := false } := by
    decide +kernel
  have hechoing : grammar.settings (["-en2"].map Argument.ofText) =
      .ok { s with echo := true } := by decide +kernel
  have hn : net.Exclusive := List.pairwise_singleton ..
  obtain ⟨_, hruns⟩ := echo_changes_only_replies hn hplain hechoing {} 0 t 6 "1.0s"
  let opened : Network := ⟨.up, [⟨peer, []⟩, ⟨own, []⟩]⟩
  let took := taken ((Running.start opened t).turns { s with echo := false } own 6).2
  have htook : took = [⟨peer, [1]⟩, ⟨peer, []⟩] := by decide +kernel
  have hforeign : ∀ d ∈ took, Foreign own d := by
    rw [htook]
    simp only [Foreign]
    decide +kernel
  have hopen : openSink net {} 0 s = .ok (own, opened) := openSink_of_told rfl fun _ => rfl
  obtain ⟨_, _, hseen⟩ := hruns own opened hopen (by decide +kernel) hforeign
  have hended : quiet.1.exitCode? = some 0 := by decide +kernel
  rcases hseen with ⟨hlistening, _⟩ | ⟨huntouched, hreplied, report, report', hdone, hdone', hsame⟩
  · rw [hlistening] at hended
    cases hended
  · have hcode : report.exitCode = 0 := by
      rw [hdone] at hended
      exact Option.some.inj hended
    obtain ⟨_, _, _, echoes, _, houtput, hechoes⟩ := hsame.success hcode
    refine ⟨huntouched, ?_, report, report', hdone, hdone', hsame.errors, hsame.exitCode, ?_⟩
    · rw [hreplied.queueOf peer List.mem_cons_self]
      change [] ++ net.shown peer (took.map (reply own)) = _
      rw [htook]
      decide +kernel
    · have hlen : took.length = 2 := congrArg List.length htook
      have hechoed : echoedText 2 = "   Echoed:      2\n" := by decide +kernel
      rw [houtput, hechoes (hlen ▸ (by decide)), hlen, hechoed]

end Listen

end UdpBench
