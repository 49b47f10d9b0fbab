import UdpBench.Log
import UdpBench.Proofs.AddressForms
import UdpBench.Proofs.Choices

namespace UdpBench

/-- The address that a message names. -/
def Error.target? : Error → Option Address
  | .transport target _ | .shortSend target .. => some target
  | .encoding .. | .decoding .. | .resource _ | .io _ => none

/-- The addresses that a line of the log names. -/
def Event.addresses : Event → List Address
  | .associated source target => [source, target]
  | .sent _ target => [target]
  | .bound own | .listening own => [own]
  | .received _ source => [source]
  | .datagram _ d => [d.source]
  | .echoFailed e | .sendFailed e | .sinkFailed e => e.target?.toList
  | .loggingStarted _ | .idle _ => []

namespace Address

/-- The address stands in a line. -/
def ShownIn (a : Address) (line : String) : Prop := ∃ front back, line = front ++ a.text ++ back

section Shown

variable {a : Address} {line : String}

theorem shownIn_text (a : Address) : a.ShownIn a.text :=
  ⟨"", "", by rw [String.empty_append, String.append_empty]⟩

theorem ShownIn.behind (h : a.ShownIn line) (front : String) : a.ShownIn (front ++ line) := by
  obtain ⟨front', back, rfl⟩ := h
  exact ⟨front ++ front', back, by simp only [String.append_assoc]⟩

theorem ShownIn.before (h : a.ShownIn line) (back : String) : a.ShownIn (line ++ back) := by
  obtain ⟨front, back', rfl⟩ := h
  exact ⟨front, back' ++ back, by simp only [String.append_assoc]⟩

theorem shownIn_error {e : Error} (h : e.target? = some a) : a.ShownIn e.message := by
  cases e with
  | transport target cause =>
    obtain rfl := Option.some.inj h
    exact ((target.shownIn_text.behind _).before _).before _
  | shortSend target sent expected =>
    obtain rfl := Option.some.inj h
    exact (((((target.shownIn_text.behind _).before _).before _).before _).before _).before _
  | encoding | decoding | resource | io => cases h

theorem shownIn_line {e : Event} (h : a ∈ e.addresses) : a.ShownIn e.line := by
  have hmessage : a.ShownIn e.message := by
    cases e with
    | associated source target =>
      rcases List.mem_pair.mp h with rfl | rfl
      · exact ((shownIn_text a).behind _ |>.before _).before _
      · exact (shownIn_text a).behind _
    | sent | bound | received | listening =>
      obtain rfl := List.mem_singleton.mp h
      exact (shownIn_text a).behind _
    | datagram number d =>
      obtain rfl := List.mem_singleton.mp h
      exact ((d.source.shownIn_text.behind _).before _ |>.before _).before _
    | echoFailed e | sendFailed e | sinkFailed e =>
      exact (shownIn_error (Option.mem_toList.mp h)).behind _
    | loggingStarted | idle => cases h
  exact hmessage.behind _

end Shown

theorem parse?_eq_some_iff {s : String} {a : Address} : parse? s = some a ↔ a.Form s.toList :=
  ofChars?_eq_some_iff

theorem parse?_text (a : Address) : parse? a.text = some a := by
  rw [parse?_eq_some_iff, text, String.toList_ofList]
  exact a.form_chars

theorem readAddress_text (a : Address) : readAddress a.text = .ok a := by
  unfold readAddress
  rw [parse?_text]

theorem text_injective {a b : Address} (h : a.text = b.text) : a = b := by
  have hread := a.parse?_text
  rw [h, parse?_text] at hread
  exact (Option.some.inj hread).symm

/-- How the address that a text stands for is printed. -/
def normal? (s : String) : Option String := (parse? s).map text

theorem normal?_of_normal? {s t : String} (h : normal? s = some t) : normal? t = some t := by
  obtain ⟨a, -, rfl⟩ := Option.map_eq_some_iff.mp h
  rw [normal?, parse?_text]
  rfl

/-- An address begins with a digit or a bracket. -/
theorem isValueText_text (a : Address) : Listen.isValueText a.text = true := by
  rw [Listen.isValueText, text, String.toList_ofList]
  cases a with
  | v4 ip port =>
    have hdigits := (isNumeral_decimal ip.a.toNat).digits
    obtain ⟨c, cs, hcs⟩ := List.exists_cons_of_ne_nil (isNumeral_decimal ip.a.toNat).ne_nil
    have hc : isDigitOf 10 c = true := hdigits c (by simp [hcs])
    have hdash : c ≠ '-' := by
      rintro rfl
      cases hc
    have hsign : c ≠ '=' := by
      rintro rfl
      cases hc
    simp [chars, Ipv4.chars, hcs, hdash, hsign]
  | v6 => rfl

end Address

namespace Listen

theorem valid_bind (a : Address) : (Choice.bind a.text).Valid := by
  refine ⟨⟨a, a.readAddress_text⟩, fun text htext => ?_⟩
  rw [← Option.some.inj htext]
  exact a.isValueText_text

theorem Word.valid_of_bind {a : Address} {word : Word} (h : .bind a.text ∈ word.choices) :
    word.Valid := by
  cases word with
  | long c spelling =>
    obtain rfl := List.mem_singleton.mp h
    exact valid_bind a
  | short echoes c spelling =>
    rcases List.mem_append.mp h with hecho | hlast
    · cases List.eq_of_mem_replicate hecho
    · obtain rfl := List.mem_singleton.mp hlast
      exact ⟨valid_bind a, rfl⟩

/-- An address can be given in the way in which it is printed. -/
theorem settings_bind {a : Address} {front back : List Word} {word : Word}
    (hothers : ∀ w ∈ front ++ back, w.Valid) (hword : .bind a.text ∈ word.choices)
    (hn : ((given (front ++ word :: back)).map Choice.name).Nodup) :
    ∃ s, grammar.settings (arguments (front ++ word :: back)) = .ok s ∧ s.bind = a := by
  have hwords : ∀ w ∈ front ++ word :: back, w.Valid := by
    intro w hw
    rcases List.mem_append.mp hw with hfront | hback
    · exact hothers w (List.mem_append_left _ hfront)
    · rcases List.mem_cons.mp hback with rfl | hback
      · exact Word.valid_of_bind hword
      · exact hothers w (List.mem_append_right _ hback)
  obtain ⟨s, hs, hreflects⟩ := settings_once hwords hn
  have hgiven : .bind a.text ∈ given (front ++ word :: back) :=
    List.mem_flatMap.mpr ⟨word, by simp, hword⟩
  have hread := hreflects.bind.named a.text hgiven
  rw [a.readAddress_text] at hread
  exact ⟨s, hs, (Except.ok.inj hread).symm⟩

end Listen

/-- An address is printed as a text that stands for it and for no other: in the lines of the log,
in messages, and wherever an address can be given. Of all the forms in which it is read this is the
one that printing leads to. -/
theorem Address.printed_is_read (a : Address) :
    parse? a.text = some a ∧
    (∀ front word back, (∀ w ∈ front ++ back, Listen.Word.Valid w) →
      .bind a.text ∈ word.choices →
      ((Listen.given (front ++ word :: back)).map Listen.Choice.name).Nodup →
      ∃ s, Listen.grammar.settings (Listen.arguments (front ++ word :: back)) = .ok s ∧
        s.bind = a) ∧
    (∀ e : Event, a ∈ e.addresses → a.ShownIn e.line) ∧
    (∀ e : Error, e.target? = some a → a.ShownIn e.message) ∧
    (∀ b : Address, b.text = a.text → b = a) ∧
    (∀ s, parse? s = some a ↔ a.Form s.toList) ∧
    (∀ s, parse? s = some a → normal? s = some a.text) ∧
    ∀ s t, normal? s = some t → normal? t = some t := by
  refine ⟨a.parse?_text, fun _ _ _ => Listen.settings_bind, fun _ => shownIn_line,
    fun _ => shownIn_error, fun _ => text_injective, fun _ => parse?_eq_some_iff, ?_,
    fun _ _ => normal?_of_normal?⟩
  intro s hs
  rw [normal?, hs]
  rfl

/-- An address that maps an IPv4 one, in a form far from the one it is printed in. -/
example : Address.normal? "[0000:0:00::0:FFFF:127.0.0.1%00]:0080" =
    some "[::ffff:127.0.0.1]:80" := by decide +kernel

/-- Of two equally long runs of zeros the first is left out, and one zero alone never is. -/
example : Address.normal? "[1:0:0:2:0:0:0A:3%7]:0" = some "[1::2:0:0:a:3%7]:0" ∧
    Address.normal? "[::1:2:3:4:5:6:7]:1" = some "[0:1:2:3:4:5:6:7]:1" := by decide +kernel

end UdpBench
