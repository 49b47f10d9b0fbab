import UdpBench.Fire
import UdpBench.Proofs.Arguments

namespace UdpBench.Fire

/-- The level as it is given among the arguments, if it is. -/
def levelTexts : Option (Spelling × String) → List String
  | some (spelling, value) => spelling.texts "log-level" value
  | none => []

/-- The texts behind the end of the options, if there is one. -/
def endTexts : Option (List String) → List String
  | some texts => "--" :: texts
  | none => []

def levelOption : Opt Settings := .logLevel fun v s => { s with logLevel := v }

theorem byLong_logLevel : grammar.byLong "log-level" = some levelOption := rfl

/-- Operands are gathered in order. -/
theorem foldl_operands (texts : List String) (s : Settings) :
    texts.foldl (fun s text => { s with payloads := s.payloads ++ [text] }) s =
      { s with payloads := s.payloads ++ texts } := by
  induction texts generalizing s with
  | nil => simp
  | cons text texts ih => simp [ih]

section Reading

variable {p : Parser Settings} {s : Settings} {named : List String}

/-- Texts are payloads, in order and as they are. -/
theorem reads_texts {only : Bool} (h : Parser.Reads grammar only s named p) {texts : List String}
    (hplain : only = true ∨ ∀ text ∈ texts, isPlainText text = true) :
    ∃ q, p.steps (texts.map .ofText) = .ok q ∧
      Parser.Reads grammar only { s with payloads := s.payloads ++ texts } named q := by
  rw [← foldl_operands]
  exact h.texts rfl hplain

/-- The level is set where it is given, and the payloads are left alone. -/
theorem reads_level (h : Parser.Reads grammar false s [] p) {level : Option (Spelling × String)}
    (htakes : ∀ given ∈ level, given.1.takes given.2 = true) :
    ∃ named q, p.steps ((levelTexts level).map .ofText) = .ok q ∧
      Parser.Reads grammar false { s with logLevel := (level.map Prod.snd).getD s.logLevel }
        named q := by
  cases level with
  | none => exact ⟨[], p, rfl, h⟩
  | some given =>
    obtain ⟨spelling, value⟩ := given
    have haccepted : (fun v (s : Settings) => Except.ok { s with logLevel := v }) value s =
        (.ok { s with logLevel := value } : Except String Settings) := rfl
    obtain ⟨q, hq, hreads⟩ := h.spelled byLong_logLevel rfl (by simp) haccepted (by decide)
      (by decide) (htakes _ rfl)
    exact ⟨_, q, hq, hreads⟩

/-- Behind the end of the options every text is a payload. -/
theorem reads_end (h : Parser.Reads grammar false s named p) (behind : Option (List String)) :
    ∃ only q, p.steps ((endTexts behind).map .ofText) = .ok q ∧
      Parser.Reads grammar only { s with payloads := s.payloads ++ behind.getD [] } named q := by
  cases behind with
  | none =>
    refine ⟨false, p, rfl, ?_⟩
    simpa using h
  | some texts =>
    have hall : true = true ∨ ∀ text ∈ texts, isPlainText text = true := .inl rfl
    obtain ⟨q, hq, hreads⟩ := reads_texts h.dashes hall
    refine ⟨true, q, ?_, hreads⟩
    simp only [endTexts, List.map_cons, Parser.steps, List.foldlM_cons,
      Parser.step_dashes h.onlyOperands, Bind.bind, Except.bind]
    exact hq

end Reading

/-- The payloads are the texts that are no options, in order and as they are, wherever among them
the level is given and however it is spelled. They are what is sent, and only where there are none
the default ones are. -/
theorem command_sends_texts {texts : List String}
    (hplain : ∀ text ∈ texts, isPlainText text = true) {level : Option (Spelling × String)}
    (htakes : ∀ given ∈ level, given.1.takes given.2 = true) (k : Nat)
    (behind : Option (List String)) (net : Network) (choices : Nat → Port) :
    let arguments := (texts.take k ++ levelTexts level ++ texts.drop k ++ endTexts behind).map
      Argument.ofText
    let payloads := texts ++ behind.getD []
    let sent := if payloads = [] then Sender.defaultPayloads else payloads
    grammar.settings arguments = .ok ⟨payloads, (level.map Prod.snd).getD "info"⟩ ∧
      command net choices arguments =
        run net choices ⟨payloads, (level.map Prod.snd).getD "info"⟩ ∧
      (command net choices arguments).2 =
        (Sender.sendAll Sender.defaultTarget choices net sent).net := by
  intro arguments payloads sent
  have hstart : Parser.Reads grammar false ⟨[], "info"⟩ [] (.start grammar) :=
    .rests (.start grammar)
  have htake : ∀ text ∈ texts.take k, isPlainText text = true := fun text htext =>
    hplain text (List.mem_of_mem_take htext)
  have hdrop : ∀ text ∈ texts.drop k, isPlainText text = true := fun text htext =>
    hplain text (List.mem_of_mem_drop htext)
  obtain ⟨p, hp, hfront⟩ := reads_texts hstart (.inr htake)
  obtain ⟨named, p', hp', hlevel⟩ := reads_level hfront htakes
  obtain ⟨p'', hp'', hback⟩ := reads_texts hlevel (.inr hdrop)
  obtain ⟨only, q, hq, hend⟩ := reads_end hback behind
  have hsteps : (Parser.start grammar).steps arguments = .ok q := by
    simp only [arguments, List.map_append, Parser.steps_append, hp, hp', hp'', Bind.bind,
      Except.bind]
    exact hq
  have hpayloads : [] ++ texts.take k ++ texts.drop k ++ behind.getD [] = payloads := by
    rw [List.nil_append, List.take_append_drop]
  rw [hpayloads] at hend
  have hsettings : grammar.settings arguments =
      .ok ⟨payloads, (level.map Prod.snd).getD "info"⟩ := by
    rw [Grammar.settings, hend.request hsteps]
  have hcommand : command net choices arguments =
      run net choices ⟨payloads, (level.map Prod.snd).getD "info"⟩ := by
    rw [command, hsettings]
  refine ⟨hsettings, hcommand, ?_⟩
  have hsent : Settings.texts ⟨payloads, (level.map Prod.snd).getD "info"⟩ = sent := by
    simp only [Settings.texts, sent, List.isEmpty_iff]
  rw [hcommand, run, hsent]

/-- One text is empty and one a dash. What looks like options stands behind their end. -/
theorem command_sends_texts_mixed :
    let arguments := ["", "--log-level", "Warn", "a b", "-", "--", "-h", "--log-level", "",
      "--"].map Argument.ofText
    grammar.settings arguments =
      .ok ⟨["", "a b", "-", "-h", "--log-level", "", "--"], "Warn"⟩ := by
  have hplain : ∀ text ∈ ["", "a b", "-"], isPlainText text = true := by decide
  have htakes : ∀ given ∈ some (Spelling.apart, "Warn"), given.1.takes given.2 = true := by
    intro given hgiven
    obtain rfl := Option.some.inj hgiven
    decide
  exact (command_sends_texts hplain htakes 1 (some ["-h", "--log-level", "", "--"])
    (.empty .up) fun _ => 40000).1

end UdpBench.Fire
