import UdpBench.Proofs.Verbosity

namespace UdpBench

/-- Of three statements exactly one is true. -/
def ExactlyOne (p q r : Prop) : Prop := (p ∨ q ∨ r) ∧ ¬(p ∧ q) ∧ ¬(p ∧ r) ∧ ¬(q ∧ r)

namespace Report

/-- The report of a program whose arguments are refused. Nothing of it is from the log. -/
structure IsUsageError (r : Report) : Prop where
  exitCode : r.exitCode = 2
  output : r.output = ""
  errors : ∃ reason rest, r.errors = ("error: " ++ reason) :: rest
  unlogged : ∀ line ∈ r.errors, lineLevel? line = none

/-- The report of a program that was asked for help or its version. -/
structure IsAnswer (r : Report) : Prop where
  exitCode : r.exitCode = 0
  output : r.output ≠ ""
  errors : r.errors = []

/-- The report of a program that failed: its name and the error come last. -/
structure IsFailure (program : String) (r : Report) : Prop where
  exitCode : r.exitCode = 1
  output : r.output = ""
  errors : ∃ before e, r.errors = before ++ [program ++ ": " ++ Error.message e]

end Report

theorem mem_intersperse {α : Type} {sep a : α} {l : List α} (h : a ∈ l.intersperse sep) :
    a = sep ∨ a ∈ l := by
  induction l with
  | nil => exact .inr h
  | cons b l ih =>
    cases l with
    | nil => exact .inr h
    | cons c l =>
      rw [List.intersperse_cons_cons, List.mem_cons, List.mem_cons] at h
      rcases h with rfl | rfl | h
      · exact .inr List.mem_cons_self
      · exact .inl rfl
      · exact (ih h).imp_right (List.mem_cons_of_mem _)

theorem exists_intersperse_cons {α : Type} (sep a : α) (l : List α) :
    ∃ rest, (a :: l).intersperse sep = a :: rest := by
  cases l with
  | nil => exact ⟨[], rfl⟩
  | cons b l => exact ⟨_, List.intersperse_cons_cons⟩

theorem lineLevel?_usage {σ : Type} (g : Grammar σ) (mentions : List Mention) :
    lineLevel? (g.usage mentions) = none := by
  simp [Grammar.usage, lineLevel?, Fire.begins, Level.name, List.isPrefixOf]

namespace UsageError

variable {σ : Type}

theorem lineLevel?_tips (e : UsageError) : ∀ line ∈ e.tips, lineLevel? line = none := by
  intro line hline
  unfold tips at hline
  split at hline
  · rw [List.mem_singleton.mp hline]
    simp [lineLevel?, Fire.begins, Level.name, List.isPrefixOf]
  · rw [List.mem_singleton.mp hline]
    simp [lineLevel?, Fire.begins, Level.name, List.isPrefixOf]
  · cases hline

theorem lineLevel?_usages (g : Grammar σ) (e : UsageError) :
    ∀ line ∈ e.usages g, lineLevel? line = none := by
  intro line hline
  cases e with
  | missingValue | invalidValue => cases hline
  | repeated | undecodable | unexpectedValue | unexpectedArgument =>
    rw [List.mem_singleton.mp hline]
    exact lineLevel?_usage ..

/-- The message says what is wrong, and no line of it is one of the log. -/
theorem isUsageError (g : Grammar σ) (e : UsageError) :
    Report.IsUsageError ⟨2, "", e.lines g⟩ := by
  refine ⟨rfl, rfl, ?_, ?_⟩
  · obtain ⟨rest, hrest⟩ := exists_intersperse_cons "" ("error: " ++ e.reason)
      (e.tips ++ e.usages g ++ ["For more information, try '--help'."])
    exact ⟨e.reason, rest, by simpa [lines] using hrest⟩
  · intro line hline
    rcases mem_intersperse hline with rfl | hline
    · decide
    · simp only [List.mem_append, List.mem_singleton] at hline
      rcases hline with ((rfl | hline) | hline) | rfl
      · simp [lineLevel?, Fire.begins, Level.name, List.isPrefixOf]
      · exact e.lineLevel?_tips line hline
      · exact e.lineLevel?_usages g line hline
      · decide

end UsageError

theorem Grammar.helpText_ne_empty {σ : Type} (g : Grammar σ) : g.helpText ≠ "" := by
  simp [helpText]

theorem Grammar.versionText_ne_empty {σ : Type} (g : Grammar σ) : g.versionText ≠ "" := by
  simp [versionText]

/-- Arguments are refused, or ask for help or the version, or let the program run. -/
theorem Grammar.one_way {σ : Type} (g : Grammar σ) (arguments : List Argument)
    {unrun : Report → Prop} {runs : σ → Prop}
    (hunrun : ∀ report, g.settings arguments = .error report → unrun report)
    (hruns : ∀ s, g.settings arguments = .ok s → runs s) :
    ExactlyOne
      (∃ report, g.settings arguments = .error report ∧ report.IsUsageError ∧ unrun report)
      (∃ report, g.settings arguments = .error report ∧ report.IsAnswer ∧ unrun report)
      (∃ s, g.settings arguments = .ok s ∧ runs s) := by
  refine ⟨?_, ?_, ?_, ?_⟩
  · unfold settings at hunrun hruns ⊢
    cases hrequest : g.request arguments with
    | run s =>
      rw [hrequest] at hruns
      exact .inr (.inr ⟨s, rfl, hruns s rfl⟩)
    | help =>
      rw [hrequest] at hunrun
      exact .inr (.inl ⟨_, rfl, ⟨rfl, g.helpText_ne_empty, rfl⟩, hunrun _ rfl⟩)
    | version =>
      rw [hrequest] at hunrun
      exact .inr (.inl ⟨_, rfl, ⟨rfl, g.versionText_ne_empty, rfl⟩, hunrun _ rfl⟩)
    | refused e =>
      rw [hrequest] at hunrun
      exact .inl ⟨_, rfl, e.isUsageError g, hunrun _ rfl⟩
  · rintro ⟨⟨report, hreport, hrefused, _⟩, report', hreport', hanswer, _⟩
    obtain rfl := Except.error.inj (hreport.symm.trans hreport')
    have hcode := hrefused.exitCode.symm.trans hanswer.exitCode
    cases hcode
  · rintro ⟨⟨report, hreport, _⟩, s, hs, _⟩
    cases hreport.symm.trans hs
  · rintro ⟨⟨report, hreport, _⟩, s, hs, _⟩
    cases hreport.symm.trans hs

/-- Firing ends well, or with the error of the text that could not be sent. -/
theorem Fire.run_exits (net : Network) (choices : Nat → Port) (s : Settings) :
    (run net choices s).1.exitCode = 0 ∨ (run net choices s).1.IsFailure "packettest" := by
  simp only [run]
  cases (Sender.sendAll Sender.defaultTarget choices net s.texts).result with
  | ok n => exact .inl rfl
  | error e => exact .inr ⟨rfl, rfl, _, e, rfl⟩

/-- A call to receive takes no longer than it may. -/
theorem Timeline.now_receive_le (t : Timeline) (timeout : Time) (queue : List Datagram) :
    (t.receive timeout queue).2.now ≤ t.now + timeout := by
  have hwake (t : Timeline) (deadline : Time) : t.wakeTime deadline ≤ deadline := by
    unfold wakeTime
    split
    · exact Nat.min_le_right ..
    · exact Nat.le_refl _
  simp only [receive]
  split
  · exact hwake _ _
  · exact Nat.le_add_right ..

namespace Listen

theorem failure_isFailure (s : Settings) (events : List Event) (e : Error) :
    (failure s events e).IsFailure "packet_sink" := ⟨rfl, rfl, _, e, rfl⟩

namespace Running

variable {s : Settings} {own : Address}

/-- While the clock goes on for another slice no deadline is beyond its end. -/
theorem turn_in_time (s : Settings) (own : Address) {r : Running}
    (hclock : (r.timeline.now + slice).isRepresentable = true) :
    (∀ last, (r.turn s own).1 ≠ .overflowed last) ∧
      ∀ r', (r.turn s own).1 = .next r' → r'.timeline.now ≤ r.timeline.now + slice := by
  have htime := r.timeline.now_receive_le slice (r.net.queueOf own)
  rcases hr : r.timeline.receive slice (r.net.queueOf own) with ⟨receipt, t⟩
  rw [hr] at htime
  unfold turn
  split
  · exact ⟨by simp, by simp⟩
  · split
    · exact ⟨by simp, by simp⟩
    · simp only [Sink.receive, hr]
      cases receipt with
      | received d queue =>
        refine ⟨by simp, ?_⟩
        intro r' hr'
        obtain rfl := Turn.next.inj hr'
        rw [(take_takes ..).timeline]
        exact htime
      | timedOut queue | waiting queue =>
        refine ⟨by simp, ?_⟩
        intro r' hr'
        obtain rfl := Turn.next.inj hr'
        exact htime
      | failed cause queue => exact ⟨by simp, by simp⟩
      | overflowed queue =>
        rcases Session.receive_cases hr with ⟨_, there, read, hround, _⟩ | ⟨hover, _⟩
        · rcases receiveUntil_round (r.timeline.now + slice) there read with
            ⟨d, rest, _, hreceived⟩ | ⟨_, _, hfits⟩
          · rw [hreceived] at hround
            cases hround
          · exact absurd hround (hfits queue)
        · rw [hclock] at hover
          cases hover

theorem turns_in_time (n : Nat) {r : Running}
    (hclock : (r.timeline.now + n * slice).isRepresentable = true) (last : Running) :
    (r.turns s own n).1 ≠ .overflowed last := by
  induction n generalizing r with
  | zero => simp [turns]
  | succ n ih =>
    have htime : r.timeline.now + (n + 1) * slice = r.timeline.now + slice + n * slice := by
      rw [Nat.add_one_mul, Nat.add_assoc, Nat.add_comm slice]
    rw [htime] at hclock
    have hfirst := Time.isRepresentable_of_le (Nat.le_add_right ..) hclock
    obtain ⟨hno, hnext⟩ := turn_in_time s own hfirst
    unfold turns
    rcases hturn : r.turn s own with ⟨last', events⟩
    rw [hturn] at hno hnext
    cases last' with
    | next r' =>
      -- A turn uses up one slice of the time that is left for all of them.
      have hlater : r'.timeline.now + n * slice ≤ r.timeline.now + slice + n * slice :=
        Nat.add_le_add_right (hnext r' rfl) _
      exact ih (Time.isRepresentable_of_le hlater hclock)
    | stopped r' | failed e r' | overflowed r' => exact hno last

end Running

/-- A program that is done was done with its loop, or failed. -/
theorem seen_exits {own : Address} {uptime : String} {s : Settings} {last : Turn}
    {events : List Event} {report : Report} (hno : ∀ r, last ≠ .overflowed r)
    (hdone : (seen own uptime s last events).1 = .done report) :
    report.exitCode = 0 ∨ report.IsFailure "packet_sink" := by
  cases last with
  | next r => cases hdone
  | stopped r =>
    obtain rfl := Ending.done.inj hdone
    exact .inl rfl
  | failed e r =>
    obtain rfl := Ending.done.inj hdone
    exact .inr (failure_isFailure ..)
  | overflowed r => exact absurd rfl (hno r)

theorem openSink_exits {net left : Network} {setup : Setup} {choice : Port} {s : Settings}
    {report : Report} (h : openSink net setup choice s = .error (report, left)) :
    report.IsFailure "packet_sink" := by
  obtain ⟨_, events, e, rfl⟩ := openSink_eq_error h
  exact failure_isFailure ..

/-- On a timeline a program is not done but by an end of its own making. -/
theorem run_exits {net : Network} {setup : Setup} {choice : Port} {t : Timeline} {n : Nat}
    {uptime : String} {s : Settings} {report : Report}
    (hclock : (t.now + n * slice).isRepresentable = true)
    (hdone : (run net setup choice t n uptime s).1 = .done report) :
    report.exitCode = 0 ∨ report.IsFailure "packet_sink" := by
  unfold run at hdone
  cases hopen : openSink net setup choice s with
  | error refused =>
    obtain ⟨refused, left⟩ := refused
    rw [hopen] at hdone
    obtain rfl := Ending.done.inj hdone
    exact .inr (openSink_exits hopen)
  | ok sink =>
    obtain ⟨own, opened⟩ := sink
    rw [hopen] at hdone
    exact seen_exits (Running.turns_in_time n (r := .start opened t) hclock) hdone

/-- No act of others changes how a program can end. -/
theorem attend_exits {ε : Type} {others : ε → Network → Network} {net : Network} {setup : Setup}
    {choice : Port} {t : Timeline} {uptime : String} {s : Settings}
    {happenings : List (Happening ε)} {report : Report}
    (hnow : (t.now + slice).isRepresentable = true)
    (hclock : happenings.all Happening.onClock = true)
    (hdone : (attend others net setup choice t uptime s happenings).1 = .done report) :
    report.exitCode = 0 ∨ report.IsFailure "packet_sink" := by
  unfold attend at hdone
  cases hopen : openSink net setup choice s with
  | error refused =>
    obtain ⟨refused, left⟩ := refused
    rw [hopen] at hdone
    obtain rfl := Ending.done.inj hdone
    exact .inr (openSink_exits hopen)
  | ok sink =>
    obtain ⟨own, opened⟩ := sink
    rw [hopen] at hdone
    have hstart : (Session.start (.start opened t)).OnClock := ⟨hnow, by simp [Session.start]⟩
    have hafter : ((Session.start (.start opened t)).after others s own happenings).OnClock :=
      hstart.after hclock
    refine seen_exits ?_ hdone
    intro r hover
    unfold Session.turn at hover
    split at hover
    · cases hover
    · cases hover
    · rename_i hoverflowed
      exact hafter.stage hoverflowed
    · cases hover

end Listen

/-- Whatever bytes they are made of, arguments are refused, or ask for help or the version, or let a
program run. Only then are there effects. A program that runs ends with success, or with the error
that it failed with, as long as the clock goes on. -/
theorem arguments_go_one_way (arguments : List Bytes) :
    let given := arguments.map Argument.ofBytes
    ExactlyOne
      (∃ report, Fire.grammar.settings given = .error report ∧ report.IsUsageError ∧
        ∀ net choices, Fire.command net choices given = (report, net))
      (∃ report, Fire.grammar.settings given = .error report ∧ report.IsAnswer ∧
        ∀ net choices, Fire.command net choices given = (report, net))
      (∃ s, Fire.grammar.settings given = .ok s ∧
        ∀ net choices, Fire.command net choices given = Fire.run net choices s) ∧
    ExactlyOne
      (∃ report, Listen.grammar.settings given = .error report ∧ report.IsUsageError ∧
        ∀ net setup choice t n uptime,
          Listen.command net setup choice t n uptime given = (.done report, net))
      (∃ report, Listen.grammar.settings given = .error report ∧ report.IsAnswer ∧
        ∀ net setup choice t n uptime,
          Listen.command net setup choice t n uptime given = (.done report, net))
      (∃ s, Listen.grammar.settings given = .ok s ∧
        ∀ net setup choice t n uptime, Listen.command net setup choice t n uptime given =
          Listen.run net setup choice t n uptime s) ∧
    (∀ net choices s, (Fire.run net choices s).1.exitCode = 0 ∨
      (Fire.run net choices s).1.IsFailure "packettest") ∧
    ∀ net setup choice (t : Timeline) uptime s report,
      (∀ n, (t.now + n * Listen.slice).isRepresentable = true →
        (Listen.run net setup choice t n uptime s).1 = .done report →
          report.exitCode = 0 ∨ report.IsFailure "packet_sink") ∧
      ∀ (ε : Type) (others : ε → Network → Network) (happenings : List (Listen.Happening ε)),
        (t.now + Listen.slice).isRepresentable = true →
        happenings.all Listen.Happening.onClock = true →
        (Listen.attend others net setup choice t uptime s happenings).1 = .done report →
          report.exitCode = 0 ∨ report.IsFailure "packet_sink" := by
  intro given
  refine ⟨Fire.grammar.one_way given ?_ ?_, Listen.grammar.one_way given ?_ ?_, Fire.run_exits, ?_⟩
  · intro report hreport net choices
    rw [Fire.command, hreport]
  · intro s hs net choices
    rw [Fire.command, hs]
  · intro report hreport net setup choice t n uptime
    rw [Listen.command, hreport]
  · intro s hs net setup choice t n uptime
    rw [Listen.command, hs]
  · intro net setup choice t uptime s report
    exact ⟨fun n hclock hdone => Listen.run_exits hclock hdone,
      fun ε others happenings hnow hclock hdone => Listen.attend_exits hnow hclock hdone⟩

/-- A byte that is no text is refused, and help is given. A listener with extreme limits fails at an
address of another host, and in its first call to receive. -/
theorem arguments_go_one_way_extreme :
    let s (bind : Address) : Listen.Settings :=
      ⟨bind, true, some 0xffffffffffffffff, some 0xffffffffffffffff, "info"⟩
    let read : Read := { clock := 0, failure := some (.os 12), wake := .timedOut }
    let happenings : List (Listen.Happening Empty) := [.own .look, .own .call, .own (.read read)]
    let attends := Listen.attend (fun _ net => net) (.empty .up) {} 0 ⟨0, []⟩ "0.0s"
      (s (.v4 .localhost 26001)) happenings
    (∃ report, Fire.grammar.settings [Argument.ofBytes [0xff]] = .error report ∧
      report.IsUsageError) ∧
    (∃ report, Listen.grammar.settings [Argument.ofBytes [45, 45, 104, 101, 108, 112]] =
      .error report ∧ report.IsAnswer) ∧
    (∃ report, (Listen.run (.empty .up) {} 0 ⟨0, []⟩ 3 "0.0s" (s (.v4 ⟨8, 8, 8, 8⟩ 53))).1 =
      .done report ∧ report.IsFailure "packet_sink") ∧
    ∃ report, attends.1 = .done report ∧ report.IsFailure "packet_sink" := by
  intro s read happenings attends
  obtain ⟨hways, _, _, hruns⟩ := arguments_go_one_way [[0xff]]
  obtain ⟨_, hhelp, _⟩ := arguments_go_one_way [[45, 45, 104, 101, 108, 112]]
  refine ⟨?_, ?_, ?_, ?_⟩
  · have hread : Fire.grammar.settings [Argument.ofBytes [0xff]] =
        .error ⟨2, "", UsageError.undecodable.lines Fire.grammar⟩ := by decide +kernel
    rcases hways.1 with ⟨report, hreport, hrefused, _⟩ | ⟨report, hreport, hanswer, _⟩ | ⟨s, hs, _⟩
    · exact ⟨report, hreport, hrefused⟩
    · obtain rfl := Except.error.inj (hread.symm.trans hreport)
      cases hanswer.exitCode
    · cases hread.symm.trans hs
  · have hread : Listen.grammar.settings [Argument.ofBytes [45, 45, 104, 101, 108, 112]] =
        .error ⟨0, Listen.grammar.helpText, []⟩ := by decide +kernel
    rcases hhelp.1 with ⟨report, hreport, hrefused, _⟩ | ⟨report, hreport, hanswer, _⟩ | ⟨s, hs, _⟩
    · obtain rfl := Except.error.inj (hread.symm.trans hreport)
      cases hrefused.exitCode
    · exact ⟨report, hreport, hanswer⟩
    · cases hread.symm.trans hs
  · let s := s (.v4 ⟨8, 8, 8, 8⟩ 53)
    let report := Listen.failure s [.loggingStarted s.level] (.resource .addressNotAvailable)
    have hdone : (Listen.run (.empty .up) {} 0 ⟨0, []⟩ 3 "0.0s" s).1 = .done report := rfl
    obtain ⟨htimeline, _⟩ := hruns (.empty .up) {} 0 ⟨0, []⟩ "0.0s" s report
    rcases htimeline 3 (by decide) hdone with hsuccess | hfailed
    · cases hsuccess
    · exact ⟨report, hdone, hfailed⟩
  · let s := s (.v4 .localhost 26001)
    let report := Listen.failure s (Listen.openingEvents s s.bind) (.io (.os 12))
    have hdone : attends.1 = .done report := by decide +kernel
    obtain ⟨_, hinterleaved⟩ := hruns (.empty .up) {} 0 ⟨0, []⟩ "0.0s" s report
    rcases hinterleaved Empty _ happenings (by decide) (by decide) hdone with hsuccess | hfailed
    · cases hsuccess
    · exact ⟨report, hdone, hfailed⟩

end UdpBench
