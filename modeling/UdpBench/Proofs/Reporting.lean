import UdpBench.Proofs.Tally

namespace UdpBench.Listen

/-! The lines about datagrams are told apart from others by how they begin. -/

def isDatagramLine (line : String) : Bool := "INFO [".toList.isPrefixOf line.toList

/-- The line about the datagram that was taken as the one of this number. -/
def datagramLine (number : Nat) (d : Datagram) : String :=
  "INFO [" ++ decimalText number ++ "] " ++ decimalText d.length ++ " bytes from " ++ d.source.text
    ++ ": \"" ++ d.preview 96 ++ "\""

theorem line_datagram (number : Nat) (d : Datagram) :
    (Event.datagram number d).line = datagramLine number d := by
  have hline : (Event.datagram number d).line = "INFO" ++ " " ++ ("[" ++ decimalText number ++ "] "
      ++ decimalText d.length ++ " bytes from " ++ d.source.text ++ ": \"" ++ d.preview 96
      ++ "\"") := rfl
  rw [hline]
  simp [datagramLine, ← String.toList_inj]

/-- Of what is logged as information only datagrams begin with a bracket. -/
theorem isDatagramLine_line (ev : Event) : isDatagramLine ev.line = isDatagram ev := by
  unfold Event.line Event.message
  cases ev <;> simp [isDatagramLine, Event.level, Level.name, isDatagram, List.isPrefixOf]

theorem map_line_datagramEvents (took : List Datagram) :
    (datagramEvents took).map Event.line =
      took.mapIdx fun k d => datagramLine (k + 1).toUInt64.toNat d := by
  apply List.ext_getElem (by simp [datagramEvents])
  intro k _ _
  simp [datagramEvents, line_datagram]

/-- Where the log shows them, it has a line for each datagram, in order. -/
theorem filter_logLines {level : Level} (hl : level.shows .info = true) {events : List Event}
    {took : List Datagram} (hlogged : events.filter isDatagram = datagramEvents took) :
    (logLines level events).filter isDatagramLine =
      took.mapIdx fun k d => datagramLine (k + 1).toUInt64.toNat d := by
  have hlines : isDatagramLine ∘ Event.line = isDatagram := funext isDatagramLine_line
  have hshown : ∀ ev ∈ events, (isDatagram ev && level.shows ev.level) = isDatagram ev := by
    intro ev _
    cases ev with
    | datagram => exact hl
    | _ => rfl
  rw [logLines, List.filter_map, hlines, List.filter_filter, List.filter_congr hshown, hlogged,
    map_line_datagramEvents]

/-- The error stream tells of some datagrams behind the address that was listened at. -/
def Tells (own : Address) (took : List Datagram) (errors : List String) : Prop :=
  ∃ front rest, errors = front ++ ("INFO listening on " ++ own.text) :: rest ∧
    (∀ line ∈ front, isDatagramLine line = false) ∧
    rest.filter isDatagramLine = took.mapIdx fun k d => datagramLine (k + 1) d

theorem Tells.append {own : Address} {took : List Datagram} {errors more : List String}
    (h : Tells own took errors) (hmore : ∀ line ∈ more, isDatagramLine line = false) :
    Tells own took (errors ++ more) := by
  obtain ⟨front, rest, rfl, hfront, hrest⟩ := h
  refine ⟨front, rest ++ more, by simp, hfront, ?_⟩
  rw [List.filter_append, hrest, List.filter_eq_nil_iff.mpr (by simpa using hmore), List.append_nil]

/-- What is logged before the first look at the stop conditions. -/
def openingEvents (s : Settings) (own : Address) : List Event :=
  [.loggingStarted s.level, .bound s.bind, .listening own]

/-- The figures without the number of echoes. -/
def figures (uptime : String) (datagrams empty bytes : UInt64) : String :=
  String.join (["", "Sink stats (uptime: " ++ uptime ++ ")",
    "   Datagrams:   " ++ decimalText datagrams.toNat,
    "   Empty:       " ++ decimalText empty.toNat,
    "   Bytes:       " ++ decimalText bytes.toNat].map (· ++ "\n"))

/-- The number of echoes, if there were any. -/
def echoedText (k : Nat) : String :=
  if k = 0 then "" else "   Echoed:      " ++ decimalText k ++ "\n"

theorem join_lines_silent {stats : Stats} (h : stats.echoed = 0) (uptime : String) :
    String.join ((stats.lines uptime).map (· ++ "\n")) =
      figures uptime stats.datagrams stats.empty stats.bytes := by
  simp only [Stats.lines, h, ↓reduceIte, List.append_nil, figures]

theorem join_lines_echoed (stats : Stats) (uptime : String) :
    String.join ((stats.lines uptime).map (· ++ "\n")) =
      figures uptime stats.datagrams stats.empty stats.bytes ++ echoedText stats.echoed.toNat := by
  by_cases h : stats.echoed = 0
  · rw [join_lines_silent h, h]
    exact String.append_empty.symm
  · have hpos : stats.echoed.toNat ≠ 0 := by simpa [← UInt64.toNat_inj] using h
    simp only [Stats.lines, h, ↓reduceIte, List.map_append, figures, echoedText, hpos]
    simp [String.append_assoc]

end UdpBench.Listen
