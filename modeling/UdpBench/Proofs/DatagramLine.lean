import UdpBench.Proofs.Plain
import UdpBench.Proofs.Preview
import UdpBench.Proofs.Reporting

namespace UdpBench

namespace Listen

/-- What a line tells of a datagram. -/
structure Entry where
  number : Nat
  length : Nat
  source : String
  shown : Bytes
  deriving DecidableEq

namespace Entry

def of (number : Nat) (d : Datagram) : Entry :=
  ⟨number, d.length, d.source.text, d.bytes.take 96⟩

/-- The characters up to the first blank, and those behind it. -/
def word (cs : List Char) : List Char × List Char :=
  (cs.takeWhile (· != ' '), (cs.dropWhile (· != ' ')).tail)

/-- Reads a line back: its second word is the number in brackets, the third the length, the sixth
the source with a colon, and then comes what is shown of the bytes. -/
def read (line : List Char) : Entry :=
  let (_, cs) := word line
  let (number, cs) := word cs
  let (length, cs) := word cs
  let (_, cs) := word cs
  let (_, cs) := word cs
  let (source, cs) := word cs
  let length := Nat.ofDigitChars 10 length 0
  ⟨Nat.ofDigitChars 10 (number.drop 1).dropLast 0, length, String.ofList source.dropLast,
    readBytes (min 96 length) (cs.drop 1)⟩

theorem word_append {w : List Char} (h : ' ' ∉ w) (rest : List Char) :
    word (w ++ ' ' :: rest) = (w, rest) := by
  have hw : ∀ c ∈ w, (c != ' ') = true := by
    intro c hc
    have hne : c ≠ ' ' := fun he => h (he ▸ hc)
    simpa using hne
  simp [word, List.takeWhile_append_of_pos hw, List.dropWhile_append_of_pos hw]

theorem blank_not_mem {w : List Char} (h : w.all isPlain = true) : ' ' ∉ w :=
  fun hc => (ne_of_isPlain (List.all_eq_true.mp h _ hc)).1 rfl

/-- A line up to what it shows of the bytes. -/
def front (number : Nat) (d : Datagram) : List Char :=
  "INFO".toList ++ ' ' :: ('[' :: decimal number ++ [']'] ++ ' ' :: (decimal d.length ++ ' ' ::
    ("bytes".toList ++ ' ' :: ("from".toList ++ ' ' :: (d.source.chars ++ [':'] ++ [' '])))))

theorem toList_datagramLine (number : Nat) (d : Datagram) : (datagramLine number d).toList =
    front number d ++ '\x22' :: ((d.preview 96).toList ++ ['\x22']) := by
  simp [datagramLine, decimalText, Address.text, front]

theorem read_datagramLine (number : Nat) (d : Datagram) :
    read (datagramLine number d).toList = of number d := by
  have hnumber : ' ' ∉ '[' :: decimal number ++ [']'] := by
    simpa using blank_not_mem (all_decimal number)
  have hlength : ' ' ∉ decimal d.length := blank_not_mem (all_decimal d.length)
  have hsource : ' ' ∉ d.source.chars ++ [':'] := by
    simpa using blank_not_mem d.source.all_chars
  have hline : (datagramLine number d).toList = "INFO".toList ++ ' ' :: ('[' :: decimal number ++
      [']'] ++ ' ' :: (decimal d.length ++ ' ' :: ("bytes".toList ++ ' ' :: ("from".toList ++ ' ' ::
        (d.source.chars ++ [':'] ++ ' ' :: '\x22' :: ((d.preview 96).toList ++ ['\x22'])))))) := by
    simp [toList_datagramLine, front]
  have hdecimal (n : Nat) : Nat.ofDigitChars 10 (decimal n) 0 = n := Nat.ofDigitChars_ten_toDigits
  have hshown := d.readBytes_preview 96 ['\x22']
  rw [hline]
  simp only [read, word_append (show ' ' ∉ "INFO".toList by decide), word_append hnumber,
    word_append hlength, word_append (show ' ' ∉ "bytes".toList by decide),
    word_append (show ' ' ∉ "from".toList by decide), word_append hsource]
  simp [of, hdecimal, hshown, Address.text]

end Entry

/-- A line tells of a datagram its number, its length, its source and its first bytes, and nothing
else. -/
theorem datagramLine_eq_iff {number number' : Nat} {d d' : Datagram} :
    datagramLine number d = datagramLine number' d' ↔ number = number' ∧ d.length = d'.length ∧
      d.source.text = d'.source.text ∧ d.bytes.take 96 = d'.bytes.take 96 := by
  constructor
  · intro heq
    have hentry : Entry.of number d = Entry.of number' d' := by
      rw [← Entry.read_datagramLine, ← Entry.read_datagramLine, heq]
    simpa only [Entry.of, Entry.mk.injEq] using hentry
  · rintro ⟨rfl, hlength, hsource, hshown⟩
    have hpreview := (Datagram.preview_eq_iff 96).mpr ⟨hshown, by rw [hlength]⟩
    rw [datagramLine, datagramLine, hlength, hsource, hpreview]

theorem isPrintable_datagramLine (number : Nat) (d : Datagram) :
    (datagramLine number d).toList.all isPrintable = true := by
  have hplain {cs : List Char} (h : cs.all isPlain = true) : cs.all isPrintable = true :=
    List.all_eq_true.mpr fun c hc => isPrintable_of_isPlain (List.all_eq_true.mp h c hc)
  have hnumber := hplain (all_decimal number)
  have hlength := hplain (all_decimal d.length)
  have hsource := hplain d.source.all_chars
  have hshown : (d.preview 96).toList.all isPrintable = true :=
    List.all_eq_true.mpr fun c hc => d.isPrintable_preview 96 hc
  have hwords : ("INFO".toList ++ "bytes".toList ++ "from".toList ++
      [' ', '[', ']', ':', '\x22']).all isPrintable = true := by decide
  simp only [List.all_append, List.all_cons, Bool.and_eq_true] at hwords
  simp only [Entry.toList_datagramLine, Entry.front, List.all_append, List.all_cons, hwords, hnumber,
    hlength, hsource, hshown, Bool.and_self]

/-- The first quote of a line opens what is shown of the bytes. -/
theorem quote_not_mem_front (number : Nat) (d : Datagram) : '\x22' ∉ Entry.front number d := by
  have hall {cs : List Char} (h : cs.all isPlain = true) : '\x22' ∉ cs :=
    fun hc => (ne_of_isPlain (List.all_eq_true.mp h _ hc)).2 rfl
  simp [Entry.front, hall (all_decimal _), hall (Address.all_chars _)]

/-- Lists whose items are written down with their positions. -/
theorem mapIdx_eq_mapIdx_iff_map {α β γ : Type} {f : Nat → α → β} {g : α → γ}
    (h : ∀ k a b, f k a = f k b ↔ g a = g b) {l l' : List α} :
    l.mapIdx f = l'.mapIdx f ↔ l.map g = l'.map g := by
  rw [List.ext_getElem?_iff, List.ext_getElem?_iff]
  refine forall_congr' fun k => ?_
  rw [List.getElem?_mapIdx, List.getElem?_mapIdx, List.getElem?_map, List.getElem?_map]
  cases l[k]? <;> cases l'[k]? <;> simp [h]

/-- The lines of a log that are about datagrams. -/
def Session.datagramLines (x : Session) (s : Settings) (own : Address) : List String :=
  (logLines s.level (openingEvents s own ++ x.log)).filter isDatagramLine

theorem Session.Tally.datagramLines_eq {s : Settings} {x : Session} (h : Tally s x)
    (hl : s.level.shows .info = true) (own : Address) : x.datagramLines s own =
      x.took.mapIdx fun k d => datagramLine (k + 1).toUInt64.toNat d := by
  apply filter_logLines hl
  rw [List.filter_append, h.logged]
  rfl

/-- What is to be read about a datagram in the log. -/
def shown (d : Datagram) : Nat × String × Bytes := (d.length, d.source.text, d.bytes.take 96)

/-- Whatever bytes it is sent, a log has one line for each datagram that was taken, made of printable
characters, which ends with the first quote that closes what is shown of the bytes. The line can be
read back, and so the lines of two logs are the same only for datagrams of which the same is shown. -/
theorem datagram_lines_read_back {ε ε' : Type} (others : ε → Network → Network)
    (others' : ε' → Network → Network) {s s' : Settings} (hl : s.level.shows .info = true)
    (hl' : s'.level.shows .info = true) (own own' : Address) (net net' : Network)
    (t t' : Timeline) (happenings : List (Happening ε)) (happenings' : List (Happening ε')) :
    let x := (Session.start (.start net t)).after others s own happenings
    let y := (Session.start (.start net' t')).after others' s' own' happenings'
    x.datagramLines s own = (x.took.mapIdx fun k d => datagramLine (k + 1).toUInt64.toNat d) ∧
    (∀ number d, (datagramLine number d).toList.all isPrintable = true ∧
      (∃ front, (datagramLine number d).toList =
          front ++ '\x22' :: ((d.preview 96).toList ++ ['\x22']) ∧ '\x22' ∉ front) ∧
      untilQuote false ((d.preview 96).toList ++ ['\x22']) = some ((d.preview 96).toList, []) ∧
      Entry.read (datagramLine number d).toList =
        ⟨number, d.length, d.source.text, d.bytes.take 96⟩) ∧
    (∀ number number' d d', datagramLine number d = datagramLine number' d' ↔
      number = number' ∧ d.length = d'.length ∧ d.source.text = d'.source.text ∧
        d.bytes.take 96 = d'.bytes.take 96) ∧
    (x.datagramLines s own = y.datagramLines s' own' ↔ x.took.map shown = y.took.map shown) := by
  intro x y
  have hx : x.datagramLines s own = _ :=
    ((Session.Tally.start s net t).after happenings).datagramLines_eq hl own
  have hy : y.datagramLines s' own' = _ :=
    ((Session.Tally.start s' net' t').after happenings').datagramLines_eq hl' own'
  refine ⟨hx, ?_, fun _ _ _ _ => datagramLine_eq_iff, ?_⟩
  · intro number d
    refine ⟨isPrintable_datagramLine number d, ⟨Entry.front number d, ?_, ?_⟩,
      d.untilQuote_preview 96 [], Entry.read_datagramLine number d⟩
    · exact Entry.toList_datagramLine number d
    · exact quote_not_mem_front number d
  · rw [hx, hy]
    apply mapIdx_eq_mapIdx_iff_map
    intro k d d'
    simp only [datagramLine_eq_iff, shown, Prod.mk.injEq, true_and]

/-- A quote and a line feed, and the text that they are shown as, leave different logs. -/
theorem datagram_lines_read_back_forged :
    let own : Address := .v4 .localhost 26001
    let peer : Address := .v4 .localhost 5000
    let s : Settings := ⟨own, false, none, none, "info"⟩
    let others (bytes : Bytes) (net : Network) : Network := net.deliver ⟨peer, own⟩ bytes
    let takes (bytes : Bytes) : List (Happening Bytes) := [.others bytes, .own .look, .own .call,
      .own (.read { clock := 0, wake := .readable }), .own .take]
    let log (bytes : Bytes) : List String :=
      ((Session.start (.start ⟨.up, [⟨own, []⟩]⟩ ⟨0, []⟩)).after others s own
        (takes bytes)).datagramLines s own
    log [0x22, 0x0a] ≠ log [0x5c, 0x22, 0x5c, 0x6e] := by
  intro own peer s others takes log heq
  have hl : s.level.shows .info = true := by decide +kernel
  obtain ⟨_, _, _, hiff⟩ := datagram_lines_read_back others others hl hl own own ⟨.up, [⟨own, []⟩]⟩
    ⟨.up, [⟨own, []⟩]⟩ ⟨0, []⟩ ⟨0, []⟩ (takes [0x22, 0x0a]) (takes [0x5c, 0x22, 0x5c, 0x6e])
  have hshown := hiff.mp heq
  revert hshown
  decide +kernel

end Listen

end UdpBench
