import Mathlib.Data.List.TakeWhile
import UdpBench.Fire
import UdpBench.Proofs.Operations

namespace UdpBench.Fire

/-- The length of the longest datagram that goes to an IPv4 target. -/
def maxLength : Nat := 65507

def isGood (text : String) : Bool :=
  text.toList.all isAscii && (utf8 text.toList).length ≤ maxLength

/-- One byte for each character. -/
def asciiBytes (text : String) : Bytes := text.toList.map fun c => c.toNat.toUInt8

/-- Why a text is not fired. One with characters outside ASCII is not even measured. -/
inductive Fault (text : String) : Error → Prop
  | encoding (front : List Char) (c : Char) (back : List Char)
    (split : text.toList = front ++ c :: back) (ascii : ∀ d ∈ front, isAscii d = true)
    (other : isAscii c = false) : Fault text (.encoding front.length c)
  | tooLong (ascii : ∀ c ∈ text.toList, isAscii c = true)
    (long : maxLength < (utf8 text.toList).length) :
    Fault text (.transport Sender.defaultTarget .messageTooLong)

theorem isGood_iff {text : String} : isGood text = true ↔
    (∀ c ∈ text.toList, isAscii c = true) ∧ (utf8 text.toList).length ≤ maxLength := by
  simp [isGood]

/-- A good text has no fault. -/
theorem Fault.not_good {text : String} {e : Error} (h : Fault text e) : isGood text = false := by
  by_contra hg
  obtain ⟨hall, hlen⟩ := isGood_iff.mp (by simpa using hg)
  cases h with
  | encoding front c back split _ other =>
    have hc := hall c (by simp [split])
    rw [other] at hc
    cases hc
  | tooLong _ long => exact absurd hlen (Nat.not_le_of_lt long)

/-- What is logged of a text that was fired. -/
def sentEvent (text : String) : Event := .sent (utf8 text.toList).length Sender.defaultTarget

def isSent : Event → Bool
  | .sent .. => true
  | _ => false

/-- What is logged while some texts are fired: each of them in turn, and sockets between. -/
structure Told (events : List Event) (texts : List String) : Prop where
  sent : events.filter isSent = texts.map sentEvent
  others : ∀ ev ∈ events, isSent ev = true ∨ ∃ source, ev = .associated source Sender.defaultTarget

theorem Told.append {events events' : List Event} {texts texts' : List String}
    (h : Told events texts) (h' : Told events' texts') :
    Told (events ++ events') (texts ++ texts') := by
  refine ⟨by rw [List.filter_append, List.map_append, h.sent, h'.sent], ?_⟩
  intro ev hev
  rcases List.mem_append.mp hev with hev | hev
  · exact h.others ev hev
  · exact h'.others ev hev

variable {net : Network} {choice : Port} {text : String}

/-- A socket of any interface is opened at a free port. -/
theorem bind_of_free (hfree : net.isFree (.v4 .unspecified choice) = true) :
    ∃ opened, net.bind Sender.defaultTarget.unspecifiedLike choice =
      .ok (.v4 .unspecified choice, opened) := by
  have hadmits : net.loopback.admits Sender.defaultTarget.unspecifiedLike = .ok () := by
    simp [Loopback.admits, Sender.defaultTarget, Address.unspecifiedLike, Address.ip]
  refine ⟨_, Network.bind_eq_ok_iff.mpr ⟨hadmits, rfl, ?_, rfl⟩⟩
  simpa [Network.isFree, List.all_eq_true] using hfree

/-- The way to the target is always there. -/
theorem connect_defaultTarget {opened : Network} (hup : opened.loopback = .up) :
    opened.connect (.v4 .unspecified choice) Sender.defaultTarget =
      .ok ⟨.v4 .localhost choice, Sender.defaultTarget⟩ := by
  simp only [Network.connect, hup]
  rfl

/-- Only what is too long is refused. -/
theorem send_eq_error {opened : Network} {source : Address} {bytes : Bytes} {cause : IoError}
    (h : opened.send (.v4 .unspecified choice) ⟨source, Sender.defaultTarget⟩ bytes =
      .error cause) : maxLength < bytes.length ∧ cause = .messageTooLong := by
  change opened.transmit ⟨source, Sender.defaultTarget⟩ bytes = .error cause at h
  unfold Network.transmit at h
  split at h
  · rename_i hlong
    exact ⟨hlong, (Except.error.inj h).symm⟩
  · cases h

/-- A text is fired if it is good. Otherwise its fault is told. -/
theorem send_cases (hup : net.loopback = .up)
    (hfree : net.isFree (.v4 .unspecified choice) = true) (text : String) :
    (isGood text = true ∧
      (Sender.send net Sender.defaultTarget text choice).result = .ok (utf8 text.toList).length ∧
      Told (Sender.send net Sender.defaultTarget text choice).events [text]) ∨
    ∃ e, Fault text e ∧ (Sender.send net Sender.defaultTarget text choice).result = .error e ∧
      Told (Sender.send net Sender.defaultTarget text choice).events [] := by
  obtain ⟨opened, hbind⟩ := bind_of_free hfree
  have hopened : opened.loopback = .up :=
    (Network.bind_eq_ok_iff.mp hbind).2.2.loopback.trans hup
  have hconnect : opened.connect (.v4 .unspecified choice) Sender.defaultTarget = _ :=
    connect_defaultTarget hopened
  have ha := Sender.attempt net Sender.defaultTarget text choice
  generalize Sender.send net Sender.defaultTarget text choice = o at ha ⊢
  cases ha with
  | unencodable unencoded =>
    obtain ⟨front, c, back, hsplit, rfl, hc, hfront⟩ := Payload.encode_eq_error_iff.mp unencoded
    exact .inr ⟨_, .encoding front c back hsplit hfront hc, rfl, rfl, by simp⟩
  | unopened encoded unbound =>
    rw [hbind] at unbound
    cases unbound
  | unconnected encoded bound refused =>
    obtain ⟨rfl, rfl⟩ := Prod.mk.inj (Except.ok.inj (hbind.symm.trans bound))
    rw [hconnect] at refused
    cases refused
  | unsent encoded bound connected refused =>
    obtain ⟨rfl, rfl⟩ := Prod.mk.inj (Except.ok.inj (hbind.symm.trans bound))
    obtain rfl := Except.ok.inj (hconnect.symm.trans connected)
    obtain ⟨hascii, hbytes⟩ := Payload.encode_eq_ok_iff.mp encoded
    obtain ⟨hlong, rfl⟩ := send_eq_error refused
    rw [hbytes] at hlong
    exact .inr ⟨_, .tooLong hascii hlong, rfl, rfl, by simp⟩
  | sent encoded bound connected accepted =>
    obtain ⟨rfl, rfl⟩ := Prod.mk.inj (Except.ok.inj (hbind.symm.trans bound))
    obtain rfl := Except.ok.inj (hconnect.symm.trans connected)
    obtain ⟨hascii, hbytes⟩ := Payload.encode_eq_ok_iff.mp encoded
    have hlen := (Network.send_eq_ok accepted).2.1
    rw [hbytes] at hlen
    refine .inl ⟨isGood_iff.mpr ⟨hascii, hlen⟩, by rw [Payload.length, hbytes], ?_, ?_⟩
    · simp [isSent, sentEvent, Payload.length, hbytes]
    · simp [isSent]

variable {choices : Nat → Port} {texts : List String}

/-- There is a port for each socket that is going to be opened. -/
def HasPorts (net : Network) (choices : Nat → Port) : Prop :=
  ∀ k, net.isFree (.v4 .unspecified (choices k)) = true

/-- Nothing but its own faults keeps a text from being fired. -/
structure Ready (net : Network) (choices : Nat → Port) : Prop where
  sound : net.Sound
  up : net.loopback = .up
  ports : HasPorts net choices

theorem Ready.carries {after : Network} {es : List Emission} (h : Ready net choices)
    (hc : net.Carries es after) : Ready after choices := by
  refine ⟨h.sound.carries hc, hc.loopback.trans h.up, ?_⟩
  intro k
  simpa only [Network.isFree, hc.addresses] using h.ports k

/-- With a text fired the next ones can be. -/
theorem Ready.next (h : Ready net choices) {n : Nat}
    (hn : (Sender.send net Sender.defaultTarget text (choices 0)).result = .ok n) :
    Ready (Sender.send net Sender.defaultTarget text (choices 0)).net fun k => choices (k + 1) := by
  obtain ⟨_, hc⟩ := (Sender.attempt ..).succeeded h.sound hn
  have hafter := h.carries hc
  exact ⟨hafter.sound, hafter.up, fun k => hafter.ports (k + 1)⟩

/-- The good texts in front of the first one that is not are fired, and told. -/
theorem Ready.fires (h : Ready net choices) (texts : List String) :
    Sender.accepted Sender.defaultTarget choices net texts = texts.takeWhile isGood ∧
      Told (Sender.sendAll Sender.defaultTarget choices net texts).events
        (texts.takeWhile isGood) := by
  induction texts generalizing net choices with
  | nil => exact ⟨rfl, rfl, by simp [Sender.sendAll]⟩
  | cons text texts ih =>
    rcases send_cases h.up (h.ports 0) text with
      ⟨hgood, hresult, htold⟩ | ⟨e, hfault, hresult, htold⟩
    · obtain ⟨haccepted, hrest⟩ := ih (h.next hresult)
      simp only [Sender.accepted, Sender.sendAll, hresult, List.takeWhile_cons, hgood, ↓reduceIte,
        haccepted]
      exact ⟨trivial, htold.append hrest⟩
    · simp only [Sender.accepted, Sender.sendAll, hresult, List.takeWhile_cons, hfault.not_good,
        Bool.false_eq_true, ↓reduceIte]
      exact ⟨trivial, htold⟩

/-- All texts are good, or the first one that is not decides how the series ends. -/
theorem Ready.result (h : Ready net choices) (texts : List String) :
    (texts.all isGood = true ∧
      (Sender.sendAll Sender.defaultTarget choices net texts).result = .ok texts.length) ∨
    ∃ bad rest e, texts = texts.takeWhile isGood ++ bad :: rest ∧ Fault bad e ∧
      (Sender.sendAll Sender.defaultTarget choices net texts).result = .error e := by
  obtain ⟨hacc, _⟩ := h.fires texts
  cases hr : (Sender.sendAll Sender.defaultTarget choices net texts).result with
  | ok n =>
    obtain ⟨rfl, hall⟩ := Sender.sendAll_eq_ok hr
    refine .inl ⟨?_, rfl⟩
    rw [List.all_eq_true]
    exact List.takeWhile_eq_self_iff.mp (hacc.symm.trans hall)
  | error e =>
    obtain ⟨done, bad, rest, htexts, hdone, _, _, hbad⟩ := Sender.sendAll_eq_error hr
    have hafter := h.carries (Sender.sendAll_carries Sender.defaultTarget choices h.sound done)
    refine .inr ⟨bad, rest, e, hacc ▸ hdone ▸ htexts, ?_, rfl⟩
    rcases send_cases hafter.up (hafter.ports done.length) bad with
      ⟨_, hresult, _⟩ | ⟨e', hfault, hresult, _⟩
    · rw [hbad] at hresult
      cases hresult
    · obtain rfl := Except.error.inj (hbad.symm.trans hresult)
      exact hfault

/-! The lines on the error stream are told apart by how they begin. -/

def begins (front line : String) : Bool := front.toList.isPrefixOf line.toList

def isSentLine (line : String) : Bool := begins "INFO sent " line

/-- A line that reports a failure, from the log or from the program itself. -/
def isFailureLine (line : String) : Bool := begins "ERROR " line || begins "packettest: " line

/-- The line for a text that was fired. -/
def sentLine (text : String) : String :=
  "INFO sent " ++ decimalText (utf8 text.toList).length ++ " byte datagram to 127.0.0.1:26001"

theorem line_sentEvent (text : String) : (sentEvent text).line = sentLine text := by
  have htarget : Sender.defaultTarget.text = "127.0.0.1:26001" := by decide +kernel
  have hline : (sentEvent text).line = "INFO" ++ " " ++ ("sent " ++
      decimalText (utf8 text.toList).length ++ " byte datagram to " ++ Sender.defaultTarget.text) :=
    rfl
  rw [hline, htarget]
  simp [sentLine, ← String.toList_inj]

/-- The log reports failures at one level only. -/
theorem isFailureLine_line (ev : Event) : isFailureLine ev.line = (ev.level == .error) := by
  have hline : ev.line = ev.level.name ++ " " ++ ev.message := rfl
  cases hl : ev.level <;>
    simp [isFailureLine, begins, hline, hl, Level.name, List.isPrefixOf]

/-- What is logged besides failures. -/
inductive Ordinary : Event → Prop
  | loggingStarted (level : Level) : Ordinary (.loggingStarted level)
  | associated (source target : Address) : Ordinary (.associated source target)
  | sent (n : Nat) (target : Address) : Ordinary (.sent n target)

theorem Ordinary.isSentLine {ev : Event} (h : Ordinary ev) : isSentLine ev.line = isSent ev := by
  cases h with
  | loggingStarted level =>
    have hline : (Event.loggingStarted level).line =
        "INFO" ++ " " ++ ("console logging initialized with level: " ++ level.name) := rfl
    simp [Fire.isSentLine, begins, hline, isSent, List.isPrefixOf]
  | associated source target =>
    have hline : (Event.associated source target).line =
        "DEBUG" ++ " " ++ ("socket " ++ source.text ++ " associated with " ++ target.text) := rfl
    simp [Fire.isSentLine, begins, hline, isSent, List.isPrefixOf]
  | sent n target =>
    have hline : (Event.sent n target).line = "INFO" ++ " " ++
        ("sent " ++ decimalText n ++ " byte datagram to " ++ target.text) := rfl
    simp [Fire.isSentLine, begins, hline, isSent]

theorem Ordinary.not_failure {ev : Event} (h : Ordinary ev) : isFailureLine ev.line = false := by
  rw [isFailureLine_line]
  cases h <;> rfl

theorem Told.ordinary {events : List Event} (h : Told events texts) {ev : Event}
    (hev : ev ∈ events) : Ordinary ev := by
  rcases h.others ev hev with hsent | ⟨source, rfl⟩
  · cases ev with
    | sent n target => exact .sent n target
    | _ => cases hsent
  · exact .associated source _

/-- Where the log shows datagrams, its lines of that kind are those of the texts that were fired. -/
theorem Told.sentLines {events : List Event} {level : Level} (h : Told events texts)
    (hl : level.shows .info = true) :
    (logLines level (.loggingStarted level :: events)).filter isSentLine = texts.map sentLine := by
  have hline : ∀ ev ∈ (Event.loggingStarted level :: events).filter (fun ev => level.shows ev.level),
      (isSentLine ∘ Event.line) ev = isSent ev := by
    intro ev hev
    rcases List.mem_cons.mp (List.mem_filter.mp hev).1 with rfl | hev
    · exact (Ordinary.loggingStarted level).isSentLine
    · exact (h.ordinary hev).isSentLine
  have hshown : ∀ ev ∈ events, (isSent ev && level.shows ev.level) = isSent ev := by
    intro ev _
    cases ev with
    | sent n target => exact hl
    | _ => rfl
  have hstart : (isSent (.loggingStarted level) && level.shows (Event.loggingStarted level).level) =
      false := rfl
  rw [logLines, List.filter_map, List.filter_congr hline, List.filter_filter, List.filter_cons,
    hstart, List.filter_congr hshown, h.sent]
  simp only [Bool.false_eq_true, ↓reduceIte, List.map_map]
  apply List.map_congr_left
  intro text _
  exact line_sentEvent text

theorem Told.no_failureLine {events : List Event} {level : Level} (h : Told events texts)
    {line : String} (hline : line ∈ logLines level (.loggingStarted level :: events)) :
    isFailureLine line = false := by
  obtain ⟨ev, hev, rfl⟩ := List.mem_map.mp hline
  rcases List.mem_cons.mp (List.mem_filter.mp hev).1 with rfl | hev
  · exact (Ordinary.loggingStarted level).not_failure
  · exact (h.ordinary hev).not_failure

/-- At every level the log shows failures. -/
theorem logLines_sendFailed (level : Level) (events : List Event) (e : Error) :
    logLines level (events ++ [.sendFailed e]) =
      logLines level events ++ ["ERROR send failed: " ++ e.message] := by
  have hshows : level.shows (Event.sendFailed e).level = true := by cases level <;> rfl
  have hline : (Event.sendFailed e).line = "ERROR" ++ " " ++ ("send failed: " ++ e.message) := rfl
  rw [logLines, List.filter_append, List.map_append, logLines]
  simp [hshows, hline, ← String.toList_inj]

/-- Neither line about a failure tells of a datagram. -/
theorem not_isSentLine (message : String) :
    isSentLine ("ERROR send failed: " ++ message) = false ∧
      isSentLine ("packettest: " ++ message) = false := by
  simp [isSentLine, begins, List.isPrefixOf]

/-- What is to be seen of the program on the error stream: the texts that it fired, and the failure
of the first one that has a fault. -/
structure Shows (level : Level) (texts : List String) (errors : List String) : Prop where
  sent : level.shows .info = true → errors.filter isSentLine = (texts.takeWhile isGood).map sentLine
  success : texts.all isGood = true → ∀ line ∈ errors, isFailureLine line = false
  failure : texts.all isGood = false → ∃ bad rest e before,
    texts = texts.takeWhile isGood ++ bad :: rest ∧ Fault bad e ∧
      errors = before ++ ["ERROR send failed: " ++ e.message, "packettest: " ++ e.message] ∧
      ∀ line ∈ before, isFailureLine line = false

/-- The program fires the good texts in front of the first bad one, and tells so. -/
theorem Ready.run_shows (h : Ready net choices) (s : Settings) :
    net.Carries (Sender.emissions Sender.defaultTarget choices (s.texts.takeWhile isGood))
        (run net choices s).2 ∧
      (run net choices s).1.exitCode = (if s.texts.all isGood then 0 else 1) ∧
      Shows s.level s.texts (run net choices s).1.errors := by
  have hcarries := Sender.sendAll_carries Sender.defaultTarget choices h.sound s.texts
  obtain ⟨haccepted, htold⟩ := h.fires s.texts
  rw [haccepted] at hcarries
  rcases h.result s.texts with ⟨hall, hr⟩ | ⟨bad, rest, e, htexts, hfault, hr⟩
  · simp only [run, hr, hall, ↓reduceIte]
    refine ⟨hcarries, trivial, htold.sentLines, ?_, ?_⟩
    · intro _ line hline
      exact htold.no_failureLine hline
    · intro hbad
      rw [hall] at hbad
      cases hbad
  · have hbad : s.texts.all isGood = false := by
      rw [htexts, List.all_append, List.all_cons, hfault.not_good, Bool.false_and, Bool.and_false]
    simp only [run, hr, hbad, logLines_sendFailed]
    refine ⟨hcarries, rfl, ?_, ?_, ?_⟩
    · intro hl
      obtain ⟨hlog, hplain⟩ := not_isSentLine e.message
      simp [List.filter_append, htold.sentLines hl, hlog, hplain]
    · intro hall
      rw [hbad] at hall
      cases hall
    · intro _
      refine ⟨bad, rest, e, _, htexts, hfault, List.append_assoc .., ?_⟩
      intro line hline
      exact htold.no_failureLine hline

/-- The bytes that a socket at the target is shown of what is fired. -/
theorem shownAt_emission {listener : Address}
    (hreceives : listener.receives Sender.defaultTarget = true) (text : String) :
    (Sender.emission Sender.defaultTarget choice text).shownAt listener =
      some ⟨listener.shownTo (.v4 .localhost choice), utf8 text.toList⟩ := by
  have hsender : Network.assigned Sender.defaultTarget.unspecifiedLike choice =
      .v4 .unspecified choice := rfl
  refine Emission.shownAt_eq_some_iff.mpr ⟨⟨.v4 .localhost choice, Sender.defaultTarget⟩, ?_, ?_, rfl⟩
  · rw [Sender.emission, hsender]
    rfl
  · exact hreceives

theorem bytes_shown {listener : Address}
    (hreceives : listener.receives Sender.defaultTarget = true)
    (hgood : ∀ text ∈ texts, isGood text = true) :
    ((Sender.emissions Sender.defaultTarget choices texts).filterMap
      (Emission.shownAt listener)).map Datagram.bytes = texts.map asciiBytes := by
  induction texts generalizing choices with
  | nil => rfl
  | cons text texts ih =>
    have hascii := (isGood_iff.mp (hgood text List.mem_cons_self)).1
    have hrest : ∀ t ∈ texts, isGood t = true := fun t ht => hgood t (List.mem_cons_of_mem _ ht)
    rw [Sender.emissions_cons, List.filterMap_cons_some (shownAt_emission hreceives text),
      List.map_cons, List.map_cons, ih hrest, asciiBytes, utf8_ascii hascii]

/-- Fired at a listener, the texts that are given, or the built-in ones where none are, arrive up to
the first one that is not good. The exit code, the log and the final words agree on it. -/
theorem command_fires {arguments : List Argument} {s : Settings} {listener : Address}
    (hs : net.Sound) (hup : net.loopback = .up) (hlistener : listener ∈ net.addresses)
    (hreceives : listener.receives Sender.defaultTarget = true) (hp : HasPorts net choices)
    (hsettings : grammar.settings arguments = .ok s) :
    let report := (command net choices arguments).1
    let after := (command net choices arguments).2
    let texts := if s.payloads = [] then Sender.defaultPayloads else s.payloads
    let good := texts.takeWhile isGood
    (after.queueOf listener).map Datagram.bytes =
        (net.queueOf listener).map Datagram.bytes ++ good.map asciiBytes ∧
      report.exitCode = (if texts.all isGood then 0 else 1) ∧
      (Level.parse s.logLevel ∈ [Level.trace, .debug, .info] →
        report.errors.filter isSentLine = good.map sentLine) ∧
      (texts.all isGood = true → ∀ line ∈ report.errors, isFailureLine line = false) ∧
      (texts.all isGood = false → ∃ bad rest e before,
        texts = good ++ bad :: rest ∧ Fault bad e ∧
          report.errors =
            before ++ ["ERROR send failed: " ++ e.message, "packettest: " ++ e.message] ∧
          ∀ line ∈ before, isFailureLine line = false) := by
  intro report after texts good
  obtain ⟨hcarries, hcode, hshows⟩ := Ready.run_shows ⟨hs, hup, hp⟩ s
  have htexts : s.texts = texts := by simp only [Settings.texts, texts, List.isEmpty_iff]
  have hrun : command net choices arguments = run net choices s := by
    simp only [command, hsettings]
  rw [htexts] at hcarries hcode hshows
  simp only [report, after, hrun]
  refine ⟨?_, hcode, ?_, hshows.success, hshows.failure⟩
  · have hgood : ∀ text ∈ good, isGood text = true := fun text => List.mem_takeWhile_imp
    rw [hcarries.queueOf listener hlistener, Network.shown_of_up hup, List.map_append,
      bytes_shown hreceives hgood]
  · intro hlevel
    exact hshows.sent ((Level.shows_info_iff _).mpr hlevel)

/-- Of four texts the second is empty and the third one bad. Where none is given the built-in pair is
fired. -/
theorem command_fires_until_bad :
    let listener : Address := .v4 .localhost 26001
    let net : Network := ⟨.up, [⟨listener, []⟩]⟩
    let fired (arguments : List String) :=
      command net (fun _ => 40000) (arguments.map Argument.ofText)
    let given := fired ["--log-level", "Debug", "hi", "", "é", "ho"]
    let bare := fired []
    ((given.2.queueOf listener).map Datagram.bytes = [[104, 105], []] ∧ given.1.exitCode = 1 ∧
      ∃ bad rest e before, ["hi", "", "é", "ho"] = ["hi", ""] ++ bad :: rest ∧ Fault bad e ∧
        given.1.errors =
          before ++ ["ERROR send failed: " ++ e.message, "packettest: " ++ e.message] ∧
        ∀ line ∈ before, isFailureLine line = false) ∧
    (bare.2.queueOf listener).map Datagram.bytes = ["", "do not go gently into the good night. " ++
        "Rage, rage against the dying of the light"].map asciiBytes ∧
      bare.1.exitCode = 0 ∧
      bare.1.errors.filter isSentLine = ["INFO sent 0 byte datagram to 127.0.0.1:26001",
        "INFO sent 79 byte datagram to 127.0.0.1:26001"] ∧
      ∀ line ∈ bare.1.errors, isFailureLine line = false := by
  intro listener net fired given bare
  have hs : net.Sound := ⟨List.pairwise_singleton .., by decide⟩
  have hp : HasPorts net fun _ => 40000 := fun _ => rfl
  refine ⟨?_, ?_⟩
  · have hsettings : grammar.settings
        (["--log-level", "Debug", "hi", "", "é", "ho"].map Argument.ofText) =
          .ok ⟨["hi", "", "é", "ho"], "Debug"⟩ := by decide +kernel
    obtain ⟨hqueue, hcode, _, _, hfailure⟩ :=
      command_fires hs rfl List.mem_cons_self (by decide) hp hsettings
    exact ⟨hqueue, hcode, hfailure (by decide +kernel)⟩
  · have hsettings : grammar.settings ([].map Argument.ofText) = .ok ⟨[], "info"⟩ := rfl
    have hgood : Sender.defaultPayloads.all isGood = true := by decide +kernel
    obtain ⟨hqueue, hcode, hsent, hsuccess, _⟩ :=
      command_fires hs rfl List.mem_cons_self (by decide) hp hsettings
    simp only [↓reduceIte] at hqueue hcode hsent hsuccess
    refine ⟨hqueue.trans ?_, hcode.trans (if_pos hgood), (hsent ?_).trans ?_, hsuccess hgood⟩
    · decide +kernel
    · decide +kernel
    · decide +kernel

end UdpBench.Fire
