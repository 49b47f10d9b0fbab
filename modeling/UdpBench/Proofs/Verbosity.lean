import UdpBench.Proofs.Firing
import UdpBench.Proofs.Reporting
import UdpBench.Proofs.Substitution

namespace UdpBench

/-! The lines of a log are told apart from others, and by their levels, by how they begin. -/

/-- The level of a line, if it is one of the log. -/
def lineLevel? (line : String) : Option Level :=
  [Level.trace, .debug, .info, .warn, .error].find? fun l => Fire.begins (l.name ++ " ") line

/-- A log kept at a level has no line that is less severe. Lines that are not of the log stay. -/
def Level.keeps (kept : Level) (line : String) : Bool := (lineLevel? line).all kept.shows

def isStartLine (line : String) : Bool := Fire.begins "INFO console logging initialized" line

/-- The line that tells the level of a log. Only a log that shows information has it. -/
def startLines (level : Level) : List String :=
  if level ∈ [Level.trace, .debug, .info] then
    ["INFO console logging initialized with level: " ++ level.name]
  else []

def isStart : Event → Bool
  | .loggingStarted _ => true
  | _ => false

theorem lineLevel?_line (ev : Event) : lineLevel? ev.line = some ev.level := by
  have hline : ev.line = ev.level.name ++ " " ++ ev.message := rfl
  cases hl : ev.level <;>
    simp [lineLevel?, Fire.begins, hline, hl, Level.name, List.isPrefixOf]

theorem isStartLine_line (ev : Event) : isStartLine ev.line = isStart ev := by
  unfold Event.line Event.message
  cases ev <;>
    simp [isStartLine, Fire.begins, Event.level, Level.name, isStart, List.isPrefixOf]

theorem Level.shows_trans {k l m : Level} (h : m.shows l = true) (h' : l.shows k = true) :
    m.shows k = true := by
  simp only [shows, decide_eq_true_eq] at h h' ⊢
  exact Nat.le_trans h h'

/-- A log is what a more verbose one keeps. -/
theorem filter_logLines_keeps {l m : Level} (h : m.shows l = true) (events : List Event) :
    (logLines m events).filter l.keeps = logLines l events := by
  have hkeeps : l.keeps ∘ Event.line = fun ev => l.shows ev.level := by
    funext ev
    simp [Level.keeps, lineLevel?_line]
  have hboth (ev : Event) : (l.shows ev.level && m.shows ev.level) = l.shows ev.level := by
    cases hl : l.shows ev.level with
    | true => exact Level.shows_trans h hl
    | false => rfl
  simp only [logLines, List.filter_map, hkeeps, List.filter_filter, hboth]

theorem logLines_start (level : Level) (events : List Event) :
    logLines level (.loggingStarted level :: events) =
      startLines level ++ logLines level events := by
  cases level <;> rfl

/-- Two runs of a program have the same effect and differ in how much of the log they show. But for
the line that tells the level, the less verbose error stream is what is left of the other when
lines of the log are deleted that are less severe. -/
structure SameButLog (l m : Level) (quiet verbose : Report) : Prop where
  exitCode : quiet.exitCode = verbose.exitCode
  output : quiet.output = verbose.output
  errors : ∃ lines kept, verbose.errors = startLines m ++ lines ∧
    quiet.errors = startLines l ++ kept ∧ kept = lines.filter l.keeps ∧ kept.Sublist lines ∧
    ∀ line ∈ lines, isStartLine line = false

/-- A line that is not of the log. -/
structure IsUnlogged (line : String) : Prop where
  level : lineLevel? line = none
  start : isStartLine line = false

theorem isUnlogged_packettest (message : String) : IsUnlogged ("packettest: " ++ message) := by
  constructor <;> simp [lineLevel?, isStartLine, Fire.begins, Level.name, List.isPrefixOf]

theorem isUnlogged_packetSink (message : String) : IsUnlogged ("packet_sink: " ++ message) := by
  constructor <;> simp [lineLevel?, isStartLine, Fire.begins, Level.name, List.isPrefixOf]

/-- The same is logged at both levels, with the same words at the end. -/
theorem sameButLog_of_logged {l m : Level} (h : m.shows l = true) {events : List Event}
    (hstart : ∀ ev ∈ events, isStart ev = false) {plain : List String}
    (hplain : ∀ line ∈ plain, IsUnlogged line) (exitCode : Nat) (output : String) :
    SameButLog l m ⟨exitCode, output, logLines l (.loggingStarted l :: events) ++ plain⟩
      ⟨exitCode, output, logLines m (.loggingStarted m :: events) ++ plain⟩ := by
  have hkept : (logLines m events ++ plain).filter l.keeps = logLines l events ++ plain := by
    rw [List.filter_append, filter_logLines_keeps h, List.filter_eq_self.mpr]
    intro line hline
    simp [Level.keeps, (hplain line hline).level]
  refine ⟨rfl, rfl, logLines m events ++ plain, logLines l events ++ plain, ?_, ?_, hkept.symm, ?_,
    ?_⟩
  · rw [logLines_start, List.append_assoc]
  · rw [logLines_start, List.append_assoc]
  · rw [← hkept]
    exact List.filter_sublist
  · intro line hline
    rcases List.mem_append.mp hline with hline | hline
    · obtain ⟨ev, hev, rfl⟩ := List.mem_map.mp hline
      rw [isStartLine_line]
      exact hstart ev (List.mem_filter.mp hev).1
    · exact (hplain line hline).start

theorem sameButLog_of_success {l m : Level} (h : m.shows l = true) {events : List Event}
    (hstart : ∀ ev ∈ events, isStart ev = false) (exitCode : Nat) (output : String) :
    SameButLog l m ⟨exitCode, output, logLines l (.loggingStarted l :: events)⟩
      ⟨exitCode, output, logLines m (.loggingStarted m :: events)⟩ := by
  have hnone : ∀ line ∈ ([] : List String), IsUnlogged line := by simp
  simpa only [List.append_nil] using sameButLog_of_logged h hstart hnone exitCode output

/-- A failure is logged, and told once more apart from the log. -/
theorem sameButLog_of_failure {l m : Level} (h : m.shows l = true) {events : List Event}
    (hstart : ∀ ev ∈ events, isStart ev = false) {failed : Event} (hfailed : isStart failed = false)
    {line : String} (hline : IsUnlogged line) (exitCode : Nat) (output : String) :
    SameButLog l m
      ⟨exitCode, output, logLines l (.loggingStarted l :: (events ++ [failed])) ++ [line]⟩
      ⟨exitCode, output, logLines m (.loggingStarted m :: (events ++ [failed])) ++ [line]⟩ := by
  refine sameButLog_of_logged h ?_ ?_ exitCode output
  · intro ev hev
    rcases List.mem_append.mp hev with hev | hev
    · exact hstart ev hev
    · rw [List.mem_singleton.mp hev]
      exact hfailed
  · intro other hother
    rw [List.mem_singleton.mp hother]
    exact hline

namespace Sender

theorem send_not_isStart (net : Network) (target : Address) (text : String) (choice : Port) :
    ∀ ev ∈ (send net target text choice).events, isStart ev = false := by
  have ha := attempt net target text choice
  generalize send net target text choice = o at ha
  cases ha <;> simp [isStart]

theorem sendAll_not_isStart (target : Address) (choices : Nat → Port) (net : Network)
    (texts : List String) :
    ∀ ev ∈ (sendAll target choices net texts).events, isStart ev = false := by
  induction texts generalizing choices net with
  | nil => simp [sendAll]
  | cons text texts ih =>
    have hfirst := send_not_isStart net target text (choices 0)
    unfold sendAll
    cases hr : (send net target text (choices 0)).result with
    | error e =>
      simp only [hr]
      exact hfirst
    | ok n =>
      simp only [hr]
      intro ev hev
      rcases List.mem_append.mp hev with hev | hev
      · exact hfirst ev hev
      · exact ih _ _ ev hev

end Sender

namespace Fire

/-- What is sent does not depend on the level. -/
theorem run_sameButLog {s : Settings} {w : String} (h : (Level.parse w).shows s.level = true)
    (net : Network) (choices : Nat → Port) :
    (run net choices s).2 = (run net choices { s with logLevel := w }).2 ∧
      SameButLog s.level (.parse w) (run net choices s).1
        (run net choices { s with logLevel := w }).1 := by
  refine ⟨rfl, ?_⟩
  have hstart := Sender.sendAll_not_isStart Sender.defaultTarget choices net s.texts
  have hsame : Settings.texts { s with logLevel := w } = s.texts := rfl
  have hlevel : Settings.level { s with logLevel := w } = .parse w := rfl
  simp only [run, hsame, hlevel]
  generalize Sender.sendAll Sender.defaultTarget choices net s.texts = outcome at hstart
  cases outcome.result with
  | ok n => exact sameButLog_of_success h hstart 0 ""
  | error e => exact sameButLog_of_failure h hstart rfl (isUnlogged_packettest _) 1 ""

theorem swaps_logLevel (v w : String) :
    grammar.Swaps (fun s => { s with logLevel := w })
      (.logLevel fun v s => { s with logLevel := v }) v w := by
  refine ⟨List.mem_cons_self, ⟨_, _, _, rfl, fun s => ⟨_, rfl, rfl⟩⟩, ?_, ?_⟩
  · intro other hother hne
    simp only [grammar, List.mem_cons, List.not_mem_nil, or_false] at hother
    rcases hother with rfl | rfl | rfl
    · exact absurd rfl hne
    · trivial
    · trivial
  · intro operands hoperands v s
    obtain rfl := Option.some.inj hoperands
    rfl

end Fire

namespace Listen

theorem swaps_logLevel (v w : String) :
    grammar.Swaps (fun s => { s with logLevel := w })
      (.logLevel fun v s => { s with logLevel := v }) v w := by
  refine ⟨by simp [grammar], ⟨_, _, _, rfl, fun s => ⟨_, rfl, rfl⟩⟩, ?_, by simp [grammar]⟩
  intro other hother hne
  simp only [grammar, List.mem_cons, List.not_mem_nil, or_false] at hother
  rcases hother with rfl | rfl | rfl | rfl | rfl | rfl | rfl
  · refine Action.respects_read ?_ _ _ _
    exact fun _ _ => rfl
  · exact fun _ => rfl
  · refine Action.respects_read ?_ _ _ _
    exact fun _ _ => rfl
  · refine Action.respects_read ?_ _ _ _
    exact fun _ _ => rfl
  · exact absurd rfl hne
  · trivial
  · trivial

/-- What is seen of a program that still listens, or that is done, at two levels. -/
inductive SameEnding (l m : Level) : Ending → Ending → Prop
  | listening : SameEnding l m .listening .listening
  | done {quiet verbose : Report} (same : SameButLog l m quiet verbose) :
    SameEnding l m (.done quiet) (.done verbose)

/-! Nothing that a listener does depends on the level. -/

section Congruence

variable (s : Settings) (w : String) (own : Address)

theorem turn_logLevel (r : Running) : r.turn { s with logLevel := w } own = r.turn s own := rfl

theorem turns_logLevel (n : Nat) (r : Running) :
    r.turns { s with logLevel := w } own n = r.turns s own n := by
  induction n generalizing r with
  | zero => rfl
  | succ n ih => simp only [Running.turns, turn_logLevel, ih]

theorem after_logLevel {ε : Type} (others : ε → Network → Network)
    (happenings : List (Happening ε)) (x : Session) :
    x.after others { s with logLevel := w } own happenings = x.after others s own happenings := by
  induction happenings generalizing x with
  | nil => rfl
  | cons a rest ih =>
    have hnext : x.next others { s with logLevel := w } own a = x.next others s own a := rfl
    simp only [Session.after, hnext, ih]

end Congruence

namespace Session

variable {s : Settings} {own : Address} {x y : Session}

theorem Advance.not_isStart {m : Move} (ha : Advance s own x m y)
    (h : ∀ ev ∈ x.log, isStart ev = false) : ∀ ev ∈ y.log, isStart ev = false := by
  cases ha with
  | refused | enough | goesOn | called | overflowed | unread | passed => exact h
  | idle seconds => simpa [or_imp, forall_and, isStart] using h
  | received => simpa [or_imp, forall_and, isStart] using h
  | @took d =>
    have htakes := x.running.take_takes s own d
    unfold take
    generalize x.running.take s own d = taken at htakes
    obtain ⟨r, events⟩ := taken
    cases htakes <;> simpa [or_imp, forall_and, isStart] using h

theorem after_not_isStart {ε : Type} (others : ε → Network → Network)
    (h : ∀ ev ∈ x.log, isStart ev = false) (happenings : List (Happening ε)) :
    ∀ ev ∈ (x.after others s own happenings).log, isStart ev = false := by
  induction happenings generalizing x with
  | nil => exact h
  | cons a rest ih =>
    refine ih ?_
    cases a with
    | own m => exact (step_advance s own x m).not_isStart h
    | others e => exact h

end Session

/-- What the system answers makes no difference between two levels: it tells the sink's own address,
or both ask for that, or neither. -/
def Setup.AlikeAt (setup : Setup) (l m : Level) : Prop :=
  setup.located = .ok () ∨ l.shows .info = m.shows .info

section Levels

variable {s : Settings} {w : String} (h : (Level.parse w).shows s.level = true)

include h

theorem failure_sameButLog {events : List Event} (hstart : ∀ ev ∈ events, isStart ev = false)
    (e : Error) :
    SameButLog s.level (.parse w) (failure s (.loggingStarted s.level :: events) e)
      (failure { s with logLevel := w } (.loggingStarted (.parse w) :: events) e) :=
  sameButLog_of_failure h hstart rfl (isUnlogged_packetSink _) 1 ""

theorem seen_sameEnding (own : Address) (uptime : String) (last : Turn) {events : List Event}
    (hstart : ∀ ev ∈ events, isStart ev = false) :
    (seen own uptime s last events).2 = (seen own uptime { s with logLevel := w } last events).2 ∧
      SameEnding s.level (.parse w) (seen own uptime s last events).1
        (seen own uptime { s with logLevel := w } last events).1 := by
  have hopening : ∀ ev ∈ .bound s.bind :: .listening own :: events, isStart ev = false := by
    simpa [isStart] using hstart
  have hlogged := sameButLog_of_success h hopening
  cases last with
  | next r => exact ⟨rfl, .listening⟩
  | stopped r => exact ⟨rfl, .done (hlogged 0 _)⟩
  | failed e r => exact ⟨rfl, .done (failure_sameButLog h hopening e)⟩
  | overflowed r => exact ⟨rfl, .done (hlogged panicCode "")⟩

/-- At one level the sink can be opened if it can be at the other. -/
theorem openSink_levels {setup : Setup} (hsetup : setup.AlikeAt s.level (.parse w)) (net : Network)
    (choice : Port) :
    (∃ sink, openSink net setup choice s = .ok sink ∧
      openSink net setup choice { s with logLevel := w } = .ok sink) ∨
    ∃ quiet verbose left, openSink net setup choice s = .error (quiet, left) ∧
      openSink net setup choice { s with logLevel := w } = .error (verbose, left) ∧
      SameButLog s.level (.parse w) quiet verbose := by
  rcases Sink.bind_cases net setup.poller s.bind choice with ⟨cause, hb⟩ | ⟨own, opened, _, hb⟩
  · have hnone : ∀ ev ∈ ([] : List Event), isStart ev = false := by simp
    exact .inr ⟨_, _, _, openSink_of_unbound hb, openSink_of_unbound hb,
      failure_sameButLog h hnone (.resource cause)⟩
  · cases hlocated : setup.located with
    | ok _ =>
      exact .inl ⟨_, openSink_of_told hb fun _ => hlocated, openSink_of_told hb fun _ => hlocated⟩
    | error cause =>
      have halike : s.level.shows .info = (Level.parse w).shows .info :=
        hsetup.resolve_left (by simp [hlocated])
      by_cases hasked : s.level.shows .info = true
      · have hbound : ∀ ev ∈ [Event.bound s.bind], isStart ev = false := by simp [isStart]
        exact .inr ⟨_, _, _, openSink_of_untold hb hasked hlocated,
          openSink_of_untold hb (halike ▸ hasked) hlocated, failure_sameButLog h hbound (.io cause)⟩
      · exact .inl ⟨_, openSink_of_told hb fun hl => absurd hl hasked,
          openSink_of_told hb fun hl => absurd (halike.trans hl) hasked⟩

/-- What is done and taken does not depend on the level. -/
theorem attend_sameEnding {ε : Type} (others : ε → Network → Network) (net : Network)
    {setup : Setup} (hsetup : setup.AlikeAt s.level (.parse w)) (choice : Port) (t : Timeline)
    (uptime : String) (happenings : List (Happening ε)) :
    (attend others net setup choice t uptime s happenings).2 =
        (attend others net setup choice t uptime { s with logLevel := w } happenings).2 ∧
      SameEnding s.level (.parse w) (attend others net setup choice t uptime s happenings).1
        (attend others net setup choice t uptime { s with logLevel := w } happenings).1 := by
  unfold attend
  rcases openSink_levels h hsetup net choice with
    ⟨sink, hs, hw⟩ | ⟨quiet, verbose, left, hs, hw, hsame⟩
  · rw [hs, hw]
    simp only [after_logLevel]
    apply seen_sameEnding h
    exact Session.after_not_isStart others (by simp [Session.start]) happenings
  · rw [hs, hw]
    exact ⟨rfl, .done hsame⟩

theorem run_sameEnding (net : Network) {setup : Setup} (hsetup : setup.AlikeAt s.level (.parse w))
    (choice : Port) (t : Timeline) (n : Nat) (uptime : String) :
    (run net setup choice t n uptime s).2 =
        (run net setup choice t n uptime { s with logLevel := w }).2 ∧
      SameEnding s.level (.parse w) (run net setup choice t n uptime s).1
        (run net setup choice t n uptime { s with logLevel := w }).1 := by
  unfold run
  rcases openSink_levels h hsetup net choice with
    ⟨⟨own, opened⟩, hs, hw⟩ | ⟨quiet, verbose, left, hs, hw, hsame⟩
  · rw [hs, hw]
    simp only [listen, turns_logLevel]
    apply seen_sameEnding h
    have hown : own ∈ opened.addresses := by simp [(openSink_eq_ok hs).addresses]
    obtain ⟨y, ⟨happenings, rfl⟩, _, hlog⟩ :=
      Session.becomes_turns (s := s) (r := .start opened t) [] [] n hown
    rw [← List.nil_append (Running.turns ..).2, ← hlog]
    exact Session.after_not_isStart Session.anyhow (by simp) happenings
  · rw [hs, hw]
    exact ⟨rfl, .done hsame⟩

end Levels

end Listen

/-- Arguments with the level somewhere among them. -/
def withLevel (front back : List Argument) (spelling : Spelling) (level : String) :
    List Argument := front ++ (spelling.texts "log-level" level).map .ofText ++ back

/-- With either value the arguments are refused alike, or give the same settings but for the
level. -/
theorem Grammar.settings_withLevel {σ : Type} {g : Grammar σ} {put : String → σ → σ}
    (hs : ∀ v w, g.Swaps (put w) (.logLevel put) v w)
    (hname : g.byLong "log-level" = some (.logLevel put)) {v w : String} {front : List Argument}
    (back : List Argument) {spelling : Spelling} (hfront : .ofText "--" ∉ front)
    (hv : spelling.takes v = true) (hw : spelling.takes w = true) :
    (∃ report, g.settings (withLevel front back spelling v) = .error report ∧
      g.settings (withLevel front back spelling w) = .error report) ∨
    ∃ s, g.settings (withLevel front back spelling v) = .ok (put v s) ∧
      g.settings (withLevel front back spelling w) = .ok (put w s) :=
  settings_cases hs "log-level" hname (by decide) (by decide) hv hw hfront back

/-- With two values for the level the programs do and leave the same, and the less verbose one only
takes lines away from the log. This is true however a listener is interleaved with what others do,
and wherever among the arguments the values are given. The sink has to tell its own address, unless
both levels ask for it or neither does. -/
theorem log_level_only_filters {v w : String}
    (hverbose : (Level.parse w).shows (.parse v) = true) :
    let l := Level.parse v
    let m := Level.parse w
    (∀ (s : Fire.Settings) net choices,
      let quiet := Fire.run net choices { s with logLevel := v }
      let verbose := Fire.run net choices { s with logLevel := w }
      quiet.2 = verbose.2 ∧ SameButLog l m quiet.1 verbose.1) ∧
    (∀ s : Listen.Settings,
      let lower := { s with logLevel := v }
      let higher := { s with logLevel := w }
      (∀ own n (r : Listen.Running), r.turns lower own n = r.turns higher own n) ∧
      (∀ net (setup : Listen.Setup) choice t n uptime, setup.AlikeAt l m →
        let quiet := Listen.run net setup choice t n uptime lower
        let verbose := Listen.run net setup choice t n uptime higher
        quiet.2 = verbose.2 ∧ Listen.SameEnding l m quiet.1 verbose.1) ∧
      ∀ (ε : Type) (others : ε → Network → Network) happenings,
        (∀ own (x : Listen.Session),
          x.after others lower own happenings = x.after others higher own happenings) ∧
        ∀ net (setup : Listen.Setup) choice t uptime, setup.AlikeAt l m →
          let quiet := Listen.attend others net setup choice t uptime lower happenings
          let verbose := Listen.attend others net setup choice t uptime higher happenings
          quiet.2 = verbose.2 ∧ Listen.SameEnding l m quiet.1 verbose.1) ∧
    ∀ front back (spelling : Spelling), .ofText "--" ∉ front →
      spelling.takes v = true → spelling.takes w = true →
      let lower := withLevel front back spelling v
      let higher := withLevel front back spelling w
      (∀ net choices,
        let quiet := Fire.command net choices lower
        let verbose := Fire.command net choices higher
        quiet.2 = verbose.2 ∧
          ((∃ report, Fire.grammar.settings lower = .error report ∧ quiet.1 = report ∧
            verbose.1 = report) ∨ SameButLog l m quiet.1 verbose.1)) ∧
      ∀ net (setup : Listen.Setup) choice t n uptime, setup.AlikeAt l m →
        let quiet := Listen.command net setup choice t n uptime lower
        let verbose := Listen.command net setup choice t n uptime higher
        quiet.2 = verbose.2 ∧
          ((∃ report, Listen.grammar.settings lower = .error report ∧ quiet.1 = .done report ∧
            verbose.1 = .done report) ∨ Listen.SameEnding l m quiet.1 verbose.1) := by
  intro l m
  have hfires (s : Fire.Settings) (net : Network) (choices : Nat → Port) :=
    Fire.run_sameButLog (s := { s with logLevel := v }) hverbose net choices
  have hlistens (s : Listen.Settings) (net : Network) (setup : Listen.Setup) (choice : Port)
      (t : Timeline) (n : Nat) (uptime : String) (hsetup : setup.AlikeAt l m) :=
    Listen.run_sameEnding (s := { s with logLevel := v }) hverbose net hsetup choice t n uptime
  refine ⟨hfires, ?_, ?_⟩
  · intro s lower higher
    refine ⟨fun own n r => (Listen.turns_logLevel lower w own n r).symm, hlistens s, ?_⟩
    intro ε others happenings
    refine ⟨fun own x => (Listen.after_logLevel lower w own others happenings x).symm, ?_⟩
    intro net setup choice t uptime hsetup
    exact Listen.attend_sameEnding (s := lower) hverbose others net hsetup choice t uptime
      happenings
  · intro front back spelling hfront hv hw lower higher
    refine ⟨?_, ?_⟩
    · intro net choices quiet verbose
      simp only [quiet, verbose, lower, higher, Fire.command]
      rcases Grammar.settings_withLevel Fire.swaps_logLevel rfl back hfront hv hw with
        ⟨report, hlower, hhigher⟩ | ⟨s, hlower, hhigher⟩
      · rw [hlower, hhigher]
        exact ⟨rfl, .inl ⟨report, rfl, rfl, rfl⟩⟩
      · rw [hlower, hhigher]
        exact ⟨(hfires s net choices).1, .inr (hfires s net choices).2⟩
    · intro net setup choice t n uptime hsetup quiet verbose
      simp only [quiet, verbose, lower, higher, Listen.command]
      rcases Grammar.settings_withLevel Listen.swaps_logLevel rfl back hfront hv hw with
        ⟨report, hlower, hhigher⟩ | ⟨s, hlower, hhigher⟩
      · rw [hlower, hhigher]
        exact ⟨rfl, .inl ⟨report, rfl, rfl, rfl⟩⟩
      · rw [hlower, hhigher]
        obtain ⟨hnet, hsame⟩ := hlistens s net setup choice t n uptime hsetup
        exact ⟨hnet, .inr hsame⟩

/-- A name that is none means information. The second text cannot be sent. A listener that cannot be
told its own address fails at both levels. -/
theorem log_level_only_filters_failing :
    let lower := ["hi", "--log-level", "loud", "é"].map Argument.ofText
    let higher := ["hi", "--log-level", "Trace", "é"].map Argument.ofText
    let quiet := Fire.command (.empty .up) (fun _ => 40000) lower
    let verbose := Fire.command (.empty .up) (fun _ => 40000) higher
    let untold : Listen.Setup := { located := .error (.os 105) }
    let listens (level : String) := Listen.command (.empty .up) untold 0 ⟨.ofSeconds 1, []⟩ 1 "0.0s"
      (["--log-level", level].map Argument.ofText)
    (quiet.2 = verbose.2 ∧ SameButLog .info .trace quiet.1 verbose.1 ∧
      quiet.1.errors = ["INFO console logging initialized with level: INFO",
        "INFO sent 2 byte datagram to 127.0.0.1:26001",
        "ERROR send failed: payload is not ASCII: 'é' at index 0",
        "packettest: payload is not ASCII: 'é' at index 0"]) ∧
    (listens "loud").2 = (listens "Trace").2 ∧
      Listen.SameEnding .info .trace (listens "loud").1 (listens "Trace").1 := by
  intro lower higher quiet verbose untold listens
  have hl : Level.parse "loud" = .info := by decide +kernel
  have hm : Level.parse "Trace" = .trace := by decide +kernel
  have hverbose : (Level.parse "Trace").shows (.parse "loud") = true := by
    rw [hl, hm]
    rfl
  obtain ⟨_, _, hgiven⟩ := log_level_only_filters hverbose
  rw [hl, hm] at hgiven
  refine ⟨?_, ?_⟩
  · have hread : Fire.grammar.settings lower = .ok ⟨["hi", "é"], "loud"⟩ := by decide +kernel
    obtain ⟨hfires, _⟩ := hgiven [.ofText "hi"] [.ofText "é"] .apart (by decide) (by decide)
      (by decide)
    obtain ⟨hnet, hsame⟩ := hfires (.empty .up) fun _ => 40000
    refine ⟨hnet, ?_, by decide +kernel⟩
    rcases hsame with ⟨report, hrefused, _⟩ | hsame
    · cases hread.symm.trans hrefused
    · exact hsame
  · have hread : Listen.grammar.settings (withLevel [] [] .apart "loud") =
        .ok ⟨.v4 .localhost 26001, false, none, none, "loud"⟩ := by decide +kernel
    obtain ⟨_, hlistens⟩ := hgiven [] [] .apart (by simp) (by decide) (by decide)
    obtain ⟨hnet, hsame⟩ := hlistens (.empty .up) untold 0 ⟨.ofSeconds 1, []⟩ 1 "0.0s" (.inr rfl)
    refine ⟨hnet, ?_⟩
    rcases hsame with ⟨report, hrefused, _⟩ | hsame
    · cases hread.symm.trans hrefused
    · exact hsame

/-- A log that shows information asks for the sink's own address. Where this cannot be told the
program fails, and with a less verbose log it runs. A value that is no text at all is refused, and a
name that means no level is not. -/
theorem log_level_can_decide :
    let untold : Listen.Setup := { located := .error (.os 105) }
    let listens (level : String) := Listen.command (.empty .up) untold 0 ⟨.ofSeconds 1, []⟩ 1 "0.0s"
      (["-n0", "--log-level", level].map Argument.ofText)
    let fires (level : Argument) := (Fire.command (.empty .up) (fun _ => 40000)
      [.ofText "--log-level", level, .ofText "é"]).1
    ((listens "warn").1 = .done ⟨0, "\nSink stats (uptime: 0.0s)\n   Datagrams:   0\n" ++
        "   Empty:       0\n   Bytes:       0\n", []⟩ ∧
      (listens "info").1 = .done ⟨1, "", ["INFO console logging initialized with level: INFO",
        "ERROR sink error: IO error: No buffer space available (os error 105)",
        "packet_sink: IO error: No buffer space available (os error 105)"]⟩ ∧
      ¬Listen.SameEnding .warn .info (listens "warn").1 (listens "info").1) ∧
    (fires (.ofText "loud")).exitCode = 1 ∧ (fires (.ofBytes [0xff])).exitCode = 2 ∧
      ∀ l m, ¬SameButLog l m (fires (.ofText "loud")) (fires (.ofBytes [0xff])) := by
  intro untold listens fires
  have hwarn : (listens "warn").1 = .done ⟨0, "\nSink stats (uptime: 0.0s)\n   Datagrams:   0\n" ++
      "   Empty:       0\n   Bytes:       0\n", []⟩ := by decide +kernel
  have hinfo : (listens "info").1 = .done ⟨1, "", [
      "INFO console logging initialized with level: INFO",
      "ERROR sink error: IO error: No buffer space available (os error 105)",
      "packet_sink: IO error: No buffer space available (os error 105)"]⟩ := by decide +kernel
  have hloud : (fires (.ofText "loud")).exitCode = 1 := by decide +kernel
  have hbytes : (fires (.ofBytes [0xff])).exitCode = 2 := by decide +kernel
  refine ⟨⟨hwarn, hinfo, ?_⟩, hloud, hbytes, ?_⟩
  · intro hsame
    rw [hwarn, hinfo] at hsame
    cases hsame with
    | done same => cases same.exitCode
  · intro l m hsame
    cases hloud.symm.trans (hsame.exitCode.trans hbytes)

end UdpBench
