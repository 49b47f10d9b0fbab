import UdpBench.Proofs.Exits
import UdpBench.Proofs.Spellings

namespace UdpBench.Listen

/-- A text that looks neither like an option nor like a value behind an equals sign. -/
def isValueText (text : String) : Bool :=
  match text.toList with
  | [] => false
  | c :: _ => c != '-' && c != '='

/-- An option that is given, with the text of its value. -/
inductive Choice
  | bind (text : String)
  | echo
  | count (text : String)
  | idleTimeout (text : String)
  | logLevel (text : String)
  deriving DecidableEq

namespace Choice

def name : Choice → String
  | bind _ => "bind"
  | echo => "echo"
  | count _ => "count"
  | idleTimeout _ => "idle-timeout"
  | logLevel _ => "log-level"

def letter? : Choice → Option Char
  | bind _ => some 'b'
  | echo => some 'e'
  | count _ => some 'n'
  | idleTimeout _ | logLevel _ => none

def value? : Choice → Option String
  | echo => none
  | bind text | count text | idleTimeout text | logLevel text => some text

/-- The text stands for a value of the option. -/
def IsAccepted : Choice → Prop
  | bind text => ∃ a, readAddress text = .ok a
  | count text | idleTimeout text => ∃ n, readUnsigned64 text = .ok n
  | echo | logLevel _ => True

structure Valid (c : Choice) : Prop where
  accepted : c.IsAccepted
  isValueText : ∀ text ∈ c.value?, isValueText text = true

/-- What it asks of the grammar. -/
def use (c : Choice) : Use Settings := ⟨(grammar.byLong c.name).getD .help, c.value?⟩

end Choice

/-- Options as they are written. -/
inductive Word
  | long (c : Choice) (spelling : Spelling)
  /-- Behind one dash, with any number of `-e` merged in front. -/
  | short (echoes : Nat) (c : Choice) (spelling : ShortSpelling)

namespace Word

def choices : Word → List Choice
  | long c _ => [c]
  | short echoes c _ => List.replicate echoes .echo ++ [c]

def texts : Word → List String
  | long c spelling => spelling.textsOf c.name c.value?
  | short echoes c spelling =>
    spelling.textsOf (String.ofList (List.replicate echoes 'e' ++ c.letter?.toList)) c.value?

def Valid : Word → Prop
  | long c _ => c.Valid
  | short _ c _ => c.Valid ∧ c.letter?.isSome = true

end Word

/-- What is given by some words, in order. -/
def given (words : List Word) : List Choice := words.flatMap Word.choices

def arguments (words : List Word) : List Argument :=
  words.flatMap fun w => w.texts.map Argument.ofText

/-- What becomes of an option that takes a value: the value that it is given, or its default where it
is not named. -/
structure Chosen {α : Type} (choices : List Choice) (option : String → Choice)
    (read : String → Except String α) (preset value : α) : Prop where
  named : ∀ text, option text ∈ choices → read text = .ok value
  unnamed : (∀ text, option text ∉ choices) → value = preset

/-- The settings are those that were chosen, and the defaults for what was not. -/
structure Settings.Reflects (s : Settings) (choices : List Choice) : Prop where
  bind : Chosen choices .bind readAddress Sender.defaultTarget s.bind
  echo : s.echo = true ↔ .echo ∈ choices
  count : Chosen choices .count (fun text => (readUnsigned64 text).map some) none s.count
  idleTimeout :
    Chosen choices .idleTimeout (fun text => (readUnsigned64 text).map some) none s.idleTimeout
  logLevel : Chosen choices .logLevel .ok "info" s.logLevel

namespace Chosen

variable {α : Type} {choices choices' : List Choice} {option : String → Choice}
  {read : String → Except String α} {preset value other : α}

theorem nil : Chosen [] option read preset preset := ⟨by simp, fun _ => rfl⟩

theorem this (hinj : ∀ text text', option text = option text' → text = text')
    (hfirst : ∀ text, option text ∉ choices) {text : String} (hread : read text = .ok value) :
    Chosen (option text :: choices) option read preset value := by
  refine ⟨?_, ?_⟩
  · intro text' htext'
    rcases List.mem_cons.mp htext' with he | hold
    · rw [hinj text' text he, hread]
    · exact absurd hold (hfirst text')
  · intro hnone
    exact absurd List.mem_cons_self (hnone text)

/-- Another option leaves the value alone. -/
theorem cons (h : Chosen choices option read preset value) {c : Choice}
    (hc : ∀ text, option text ≠ c) : Chosen (c :: choices) option read preset value := by
  refine ⟨?_, ?_⟩
  · intro text htext
    exact h.named text ((List.mem_cons.mp htext).resolve_left (hc text))
  · intro hnone
    exact h.unnamed fun text htext => hnone text (List.mem_cons_of_mem _ htext)

/-- The order does not matter. -/
theorem congr (h : Chosen choices option read preset value)
    (hmem : ∀ c, c ∈ choices' ↔ c ∈ choices) : Chosen choices' option read preset value := by
  refine ⟨fun text htext => h.named text ((hmem _).mp htext), ?_⟩
  intro hnone
  exact h.unnamed fun text htext => hnone text ((hmem _).mpr htext)

theorem unique (h : Chosen choices option read preset value)
    (h' : Chosen choices option read preset other) : value = other := by
  by_cases hnamed : ∃ text, option text ∈ choices
  · obtain ⟨text, htext⟩ := hnamed
    exact Except.ok.inj ((h.named text htext).symm.trans (h'.named text htext))
  · rw [not_exists] at hnamed
    rw [h.unnamed hnamed, h'.unnamed hnamed]

end Chosen

namespace Settings.Reflects

variable {s s' : Settings} {choices choices' : List Choice}

theorem initial : grammar.initial.Reflects [] := ⟨.nil, by simp [grammar], .nil, .nil, .nil⟩

theorem congr (h : s.Reflects choices) (hmem : ∀ c, c ∈ choices' ↔ c ∈ choices) :
    s.Reflects choices' :=
  ⟨h.bind.congr hmem, h.echo.trans (hmem _).symm, h.count.congr hmem, h.idleTimeout.congr hmem,
    h.logLevel.congr hmem⟩

theorem unique (h : s.Reflects choices) (h' : s'.Reflects choices) : s = s' := by
  obtain ⟨bind, echo, count, idleTimeout, logLevel⟩ := s
  obtain ⟨bind', echo', count', idleTimeout', logLevel'⟩ := s'
  obtain rfl : bind = bind' := h.bind.unique h'.bind
  obtain rfl : count = count' := h.count.unique h'.count
  obtain rfl : idleTimeout = idleTimeout' := h.idleTimeout.unique h'.idleTimeout
  obtain rfl : logLevel = logLevel' := h.logLevel.unique h'.logLevel
  obtain rfl : echo = echo' := Bool.eq_iff_iff.mpr (h.echo.trans h'.echo.symm)
  rfl

end Settings.Reflects

namespace Choice

theorem byLong_name (c : Choice) : grammar.byLong c.name = some c.use.opt := by cases c <;> rfl

theorem byShort_letter {c : Choice} {letter : Char} (h : c.letter? = some letter) :
    grammar.byShort letter = some c.use.opt ∧ letter ≠ '-' := by
  cases c with
  | bind | echo | count =>
    obtain rfl := Option.some.inj h
    exact ⟨rfl, by decide⟩
  | idleTimeout | logLevel => cases h

theorem long_use (c : Choice) : c.use.opt.long = c.name := by cases c <;> rfl

theorem value_use (c : Choice) : c.use.value = c.value? := rfl

theorem isComplete_use (c : Choice) : c.use.isComplete = true := by cases c <;> rfl

/-- A plain text can stand wherever a value can. -/
theorem takes_of_isValueText {text : String} (h : Listen.isValueText text = true) :
    (∀ spelling : Spelling, spelling.takes text = true) ∧
      ∀ spelling : ShortSpelling, spelling.takes text = true := by
  obtain ⟨c, cs, hcs⟩ : ∃ c cs, text.toList = c :: cs := by
    cases hcs : text.toList with
    | nil => simp [Listen.isValueText, hcs] at h
    | cons c cs => exact ⟨c, cs, rfl⟩
  simp only [Listen.isValueText, hcs, Bool.and_eq_true, bne_iff_ne, ne_eq] at h
  have hplain : isPlainText text = true := by simp [isPlainText, hcs, h.1]
  have hne : text ≠ "" := by
    rintro rfl
    cases hcs
  refine ⟨?_, ?_⟩
  · intro spelling
    cases spelling with
    | apart => exact hplain
    | attached => rfl
  · intro spelling
    cases spelling with
    | apart => exact hplain
    | glued => simp [ShortSpelling.takes, hne, hcs, h.2]
    | attached => rfl

end Choice

/-- However options are written, they stand for what is given by them. -/
theorem Word.means {w : Word} (h : w.Valid) :
    Parser.Means grammar (w.texts.map .ofText) (w.choices.map Choice.use) := by
  cases w with
  | long c spelling =>
    have hvalid : c.Valid := h
    have hname : c.name ≠ "" ∧ '=' ∉ c.name.toList := by cases c <;> simp [Choice.name]
    exact .long hname.1 hname.2 c.byLong_name c.isComplete_use fun text htext =>
      (Choice.takes_of_isValueText (hvalid.isValueText text htext)).1 spelling
  | short echoes c spelling =>
    obtain ⟨hvalid, hletter⟩ : c.Valid ∧ c.letter?.isSome = true := h
    obtain ⟨letter, hletter⟩ := Option.isSome_iff_exists.mp hletter
    obtain ⟨hshort, hdash⟩ := Choice.byShort_letter hletter
    have hecho : grammar.AreSwitches (List.replicate echoes 'e') := by
      intro d hd
      obtain rfl := List.eq_of_mem_replicate hd
      exact ⟨by decide, _, rfl, rfl⟩
    have hmeans := Parser.Means.short hecho hdash hshort c.isComplete_use fun text htext =>
      (Choice.takes_of_isValueText (hvalid.isValueText text htext)).2 spelling
    have huses : (List.replicate echoes 'e').filterMap grammar.byShort =
        List.replicate echoes Choice.echo.use.opt :=
      List.filterMap_replicate_of_some rfl
    have hswitch : Use.switch Choice.echo.use.opt = Choice.echo.use := rfl
    rw [huses, List.map_replicate, hswitch] at hmeans
    simpa only [Word.texts, Word.choices, hletter, Option.toList_some, List.map_append,
      List.map_replicate, List.map_cons, List.map_nil, Choice.value_use] using hmeans

/-- The arguments ask for what using the choices in order comes to. -/
theorem means_arguments {words : List Word} (h : ∀ w ∈ words, w.Valid) :
    Parser.Means grammar (arguments words) ((given words).map Choice.use) := by
  rw [given, List.map_flatMap]
  exact .flatMap fun w hw => Word.means (h w hw)

section Using

variable {p : Parser Settings} {s : Settings} {done choices : List Choice} {c : Choice}

theorem not_mem_of_name (h : c.name ∉ done.map Choice.name) {other : Choice}
    (hname : other.name = c.name) : other ∉ done :=
  fun hmem => h (hname ▸ List.mem_map_of_mem hmem)

/-- What is chosen for the first time goes into the settings, and nothing else does. -/
theorem use_first (h : Parser.Rests grammar false s (done.map Choice.name) p)
    (hs : s.Reflects done) (hc : c.Valid) (hfirst : c.name ∉ done.map Choice.name) :
    ∃ s' q, p.use c.use = .ok q ∧
      Parser.Rests grammar false s' ((c :: done).map Choice.name) q ∧ s'.Reflects (c :: done) := by
  -- An option is told from the others by its name, and has its own part of the settings.
  cases c with
  | bind text =>
    obtain ⟨a, ha⟩ := hc.accepted
    obtain ⟨q, hq, hrests⟩ :=
      h.setValue (o := (Choice.bind text).use.opt) rfl hfirst (congrArg (Except.map _) ha)
    exact ⟨_, q, hq, hrests,
      .this (fun _ _ => Choice.bind.inj) (fun _ => not_mem_of_name hfirst rfl) ha,
      by simpa using hs.echo, hs.count.cons (by simp), hs.idleTimeout.cons (by simp),
      hs.logLevel.cons (by simp)⟩
  | echo =>
    obtain ⟨q, hq, hrests⟩ := h.switch (o := Choice.echo.use.opt) rfl hfirst
    exact ⟨_, q, hq, hrests, hs.bind.cons (by simp), by simp, hs.count.cons (by simp),
      hs.idleTimeout.cons (by simp), hs.logLevel.cons (by simp)⟩
  | count text =>
    obtain ⟨n, hn⟩ := hc.accepted
    obtain ⟨q, hq, hrests⟩ :=
      h.setValue (o := (Choice.count text).use.opt) rfl hfirst (congrArg (Except.map _) hn)
    exact ⟨_, q, hq, hrests, hs.bind.cons (by simp), by simpa using hs.echo,
      .this (fun _ _ => Choice.count.inj) (fun _ => not_mem_of_name hfirst rfl)
        (congrArg (Except.map some) hn),
      hs.idleTimeout.cons (by simp), hs.logLevel.cons (by simp)⟩
  | idleTimeout text =>
    obtain ⟨n, hn⟩ := hc.accepted
    obtain ⟨q, hq, hrests⟩ :=
      h.setValue (o := (Choice.idleTimeout text).use.opt) rfl hfirst (congrArg (Except.map _) hn)
    exact ⟨_, q, hq, hrests, hs.bind.cons (by simp), by simpa using hs.echo,
      hs.count.cons (by simp),
      .this (fun _ _ => Choice.idleTimeout.inj) (fun _ => not_mem_of_name hfirst rfl)
        (congrArg (Except.map some) hn),
      hs.logLevel.cons (by simp)⟩
  | logLevel text =>
    obtain ⟨q, hq, hrests⟩ := h.setValue (o := (Choice.logLevel text).use.opt) rfl hfirst rfl
    exact ⟨_, q, hq, hrests, hs.bind.cons (by simp), by simpa using hs.echo,
      hs.count.cons (by simp), hs.idleTimeout.cons (by simp),
      .this (fun _ _ => Choice.logLevel.inj) (fun _ => not_mem_of_name hfirst rfl) rfl⟩

/-- Options that are all named once are all taken. -/
theorem use_once (h : Parser.Rests grammar false s (done.map Choice.name) p)
    (hs : s.Reflects done) (hv : ∀ c ∈ choices, c.Valid)
    (hn : ((choices.reverse ++ done).map Choice.name).Nodup) :
    ∃ s' q, (choices.map Choice.use).foldlM Parser.use p = .ok q ∧
      q.settings = s' ∧ s'.Reflects (choices.reverse ++ done) := by
  induction choices generalizing p s done with
  | nil => exact ⟨s, p, rfl, h.settings, hs⟩
  | cons c choices ih =>
    rw [List.forall_mem_cons] at hv
    rw [List.reverse_cons, List.append_assoc, List.singleton_append] at hn ⊢
    have hdone : ((c :: done).map Choice.name).Nodup := by
      rw [List.map_append] at hn
      exact (List.nodup_append.mp hn).2.1
    obtain ⟨s', q, hq, hrests, hs'⟩ := use_first h hs hv.1 (List.nodup_cons.mp hdone).1
    obtain ⟨s'', q', hq', hsettings, hs''⟩ := ih hrests hs' hv.2 hn
    refine ⟨s'', q', ?_, hsettings, hs''⟩
    rw [List.map_cons, List.foldlM_cons, hq]
    exact hq'

/-- Otherwise the first one that is named again is refused. -/
theorem use_again (h : Parser.Rests grammar false s (done.map Choice.name) p)
    (hs : s.Reflects done) (hv : ∀ c ∈ choices, c.Valid) (hdone : (done.map Choice.name).Nodup)
    (hn : ¬((choices.reverse ++ done).map Choice.name).Nodup) :
    ∃ c ∈ choices, (choices.map Choice.use).foldlM Parser.use p =
      Parser.refuse (.repeated c.use.opt.shown) := by
  induction choices generalizing p s done with
  | nil => exact absurd hdone hn
  | cons c choices ih =>
    rw [List.forall_mem_cons] at hv
    rw [List.reverse_cons, List.append_assoc, List.singleton_append] at hn
    rw [List.map_cons, List.foldlM_cons]
    by_cases hagain : c.name ∈ done.map Choice.name
    · refine ⟨c, List.mem_cons_self, ?_⟩
      rw [h.repeated c.isComplete_use (c.long_use ▸ hagain)]
      rfl
    · obtain ⟨s', q, hq, hrests, hs'⟩ := use_first h hs hv.1 hagain
      obtain ⟨d, hd, hrefused⟩ := ih hrests hs' hv.2 (List.nodup_cons.mpr ⟨hagain, hdone⟩) hn
      refine ⟨d, List.mem_cons_of_mem _ hd, ?_⟩
      rw [hq]
      exact hrefused

end Using

/-! What becomes of whole command lines. -/

theorem valid_of_given {words : List Word} (hwords : ∀ w ∈ words, w.Valid) :
    ∀ c ∈ given words, c.Valid := by
  intro c hc
  obtain ⟨w, hw, hcw⟩ := List.mem_flatMap.mp hc
  have hvalid := hwords w hw
  cases w with
  | long c' spelling =>
    obtain rfl := List.mem_singleton.mp hcw
    exact hvalid
  | short echoes c' spelling =>
    rcases List.mem_append.mp hcw with hecho | hlast
    · obtain rfl := List.eq_of_mem_replicate hecho
      exact ⟨trivial, by simp [Choice.value?]⟩
    · obtain rfl := List.mem_singleton.mp hlast
      exact hvalid.1

theorem nodup_names_reverse (choices : List Choice) :
    ((choices.reverse ++ []).map Choice.name).Nodup ↔ (choices.map Choice.name).Nodup := by
  rw [List.append_nil]
  exact ((List.reverse_perm choices).map _).nodup_iff

theorem settings_once {words : List Word} (hwords : ∀ w ∈ words, w.Valid)
    (hn : ((given words).map Choice.name).Nodup) :
    ∃ s : Settings, grammar.settings (arguments words) = .ok s ∧ s.Reflects (given words) := by
  have hstart : Parser.Rests grammar false grammar.initial (([] : List Choice).map Choice.name)
      (.start grammar) := .start grammar
  obtain ⟨s, q, hq, rfl, hs⟩ := use_once hstart .initial (valid_of_given hwords)
    ((nodup_names_reverse _).mpr hn)
  refine ⟨q.settings, ?_, hs.congr (by simp)⟩
  rw [Grammar.settings, (means_arguments hwords).request, hq]

theorem settings_again {words : List Word} (hwords : ∀ w ∈ words, w.Valid)
    (hn : ¬((given words).map Choice.name).Nodup) :
    ∃ report, grammar.settings (arguments words) = .error report ∧ report.IsUsageError := by
  have hstart : Parser.Rests grammar false grammar.initial (([] : List Choice).map Choice.name)
      (.start grammar) := .start grammar
  obtain ⟨c, _, hrefused⟩ := use_again hstart .initial (valid_of_given hwords) .nil
    ((nodup_names_reverse _).not.mpr hn)
  refine ⟨_, ?_, UsageError.isUsageError grammar (.repeated c.use.opt.shown)⟩
  rw [Grammar.settings, (means_arguments hwords).request, hrefused]
  rfl

/-- Options may be given in any order and spelled in any way: the settings are the same, and so is
the run. An option that is given twice is a usage error, and nothing is opened. -/
theorem options_commute {words : List Word} (hwords : ∀ w ∈ words, w.Valid) :
    (((given words).map Choice.name).Nodup → ∃ s : Settings, s.Reflects (given words) ∧
      ∀ others, (∀ w ∈ others, w.Valid) → (given others).Perm (given words) →
        grammar.settings (arguments others) = .ok s ∧
        ∀ net setup choice timeline n uptime,
          command net setup choice timeline n uptime (arguments others) =
            run net setup choice timeline n uptime s) ∧
    (¬((given words).map Choice.name).Nodup →
      ∃ report, grammar.settings (arguments words) = .error report ∧ report.IsUsageError ∧
        ∀ net setup choice timeline n uptime,
          command net setup choice timeline n uptime (arguments words) = (.done report, net)) := by
  refine ⟨?_, ?_⟩
  · intro hn
    obtain ⟨s, _, hs⟩ := settings_once hwords hn
    refine ⟨s, hs, ?_⟩
    intro others hothers hperm
    have hn' : ((given others).map Choice.name).Nodup := (hperm.map _).nodup_iff.mpr hn
    obtain ⟨s', hsettings, hs'⟩ := settings_once hothers hn'
    obtain rfl : s' = s := hs'.unique (hs.congr fun _ => hperm.mem_iff)
    refine ⟨hsettings, ?_⟩
    intro net setup choice timeline n uptime
    rw [command, hsettings]
  · intro hn
    obtain ⟨report, hreport, herror⟩ := settings_again hwords hn
    refine ⟨report, hreport, herror, ?_⟩
    intro net setup choice timeline n uptime
    rw [command, hreport]

/-- The same choices in two ways, then one of them once more. -/
theorem options_commute_merged :
    let words : List Word := [.short 1 (.count "5") .glued, .long (.logLevel "warn") .apart,
      .short 0 (.bind "[::1]:7") .attached]
    let others : List Word := [.long (.bind "[::1]:7") .apart, .long .echo .apart,
      .long (.logLevel "warn") .attached, .short 0 (.count "5") .apart]
    arguments words = ["-en5", "--log-level", "warn", "-b=[::1]:7"].map Argument.ofText ∧
    arguments others =
      ["--bind", "[::1]:7", "--echo", "--log-level=warn", "-n", "5"].map Argument.ofText ∧
    grammar.settings (arguments others) = grammar.settings (arguments words) ∧
    ∃ report, grammar.settings (arguments (.short 0 .echo .apart :: words)) = .error report ∧
      report.exitCode = 2 := by
  intro words others
  have hcount : (Choice.count "5").Valid := ⟨⟨5, by decide⟩, by simp [Choice.value?, isValueText]⟩
  have hbind : (Choice.bind "[::1]:7").Valid :=
    ⟨⟨.v6 _ 7 0, rfl⟩, by simp [Choice.value?, isValueText]⟩
  have hlevel : (Choice.logLevel "warn").Valid :=
    ⟨trivial, by simp [Choice.value?, isValueText]⟩
  have hecho : Choice.echo.Valid := ⟨trivial, by simp [Choice.value?]⟩
  have hwords : ∀ w ∈ words, w.Valid := by simp [words, Word.Valid, Choice.letter?, *]
  have hothers : ∀ w ∈ others, w.Valid := by simp [others, Word.Valid, Choice.letter?, *]
  have htwice : ∀ w ∈ Word.short 0 .echo .apart :: words, w.Valid := by
    simp [words, Word.Valid, Choice.letter?, *]
  obtain ⟨s, _, hall⟩ := (options_commute hwords).1 (by decide)
  obtain ⟨report, hreport, herror, _⟩ := (options_commute htwice).2 (by decide)
  refine ⟨by decide, by decide, ?_, report, hreport, herror.exitCode⟩
  rw [(hall others hothers (by decide)).1, (hall words hwords (by decide)).1]

end UdpBench.Listen
