import Mathlib.Data.List.TakeWhile
import UdpBench.CommandLine.Parser

namespace UdpBench

/-- A text that names no option wherever it stands: one that does not begin with a dash, or a dash
alone. -/
def isPlainText (text : String) : Bool := text == "-" || text.toList.head? != some '-'

/-- How the value of an option is given behind its long name. -/
inductive Spelling
  /-- As the next argument. -/
  | apart
  /-- Behind an equals sign. -/
  | attached
  deriving DecidableEq

namespace Spelling

def texts (name value : String) : Spelling → List String
  | apart => ["--" ++ name, value]
  | attached => ["--" ++ name ++ "=" ++ value]

/-- What looks like an option is a value only where it is attached. -/
def takes (value : String) : Spelling → Bool
  | apart => isPlainText value
  | attached => true

end Spelling

namespace Argument

@[simp] theorem shown_ofText (text : String) : (ofText text).shown = text := by
  have hchars : Piece.toChar ∘ Piece.char = id := rfl
  rw [shown, ofText, List.map_map, hchars, List.map_id, String.ofList_toList]

@[simp] theorem text?_ofText (text : String) : (ofText text).text? = some text := by
  have hchars (cs : List Char) : (cs.map Piece.char).mapM Piece.toChar? = some cs := by
    induction cs with
    | nil => rfl
    | cons c cs ih => simp [List.mapM_cons, ih, Piece.toChar?]
  simp [text?, ofText, hchars]

theorem ofText_append (s t : String) : ofText (s ++ t) = ofText s ++ ofText t := by
  simp [ofText]

theorem ne_sign_of_mem {name : String} (h : '=' ∉ name.toList) :
    ∀ piece ∈ ofText name, (piece != Piece.char '=') = true := by
  intro piece hpiece
  obtain ⟨c, hc, rfl⟩ := List.mem_map.mp hpiece
  have hne : c ≠ '=' := fun he => h (he ▸ hc)
  simpa using hne

theorem splitEquals_name {name : String} (h : '=' ∉ name.toList) :
    splitEquals (ofText name) = (ofText name, none) := by
  have hdrop : (ofText name).dropWhile (· != .char '=') = [] :=
    List.dropWhile_eq_nil_iff.mpr (ne_sign_of_mem h)
  simp only [splitEquals, hdrop]

/-- A name ends with the first equals sign, whatever the value is. -/
theorem splitEquals_attached {name : String} (h : '=' ∉ name.toList) (value : String) :
    splitEquals (ofText (name ++ "=" ++ value)) = (ofText name, some (ofText value)) := by
  have hsign : ofText (name ++ "=" ++ value) = ofText name ++ .char '=' :: ofText value := by
    rw [ofText_append, ofText_append, List.append_assoc]
    rfl
  have hdrop : (ofText name ++ .char '=' :: ofText value).dropWhile (· != .char '=') =
      .char '=' :: ofText value := by
    rw [List.dropWhile_append_of_pos (ne_sign_of_mem h)]
    simp
  have htake : (ofText name ++ .char '=' :: ofText value).takeWhile (· != .char '=') =
      ofText name := by
    rw [List.takeWhile_append_of_pos (ne_sign_of_mem h)]
    simp
  simp only [splitEquals, hsign, hdrop, htake]

end Argument

namespace Parser

variable {σ : Type} {p : Parser σ}

@[simp] theorem decode_ofText (text : String) : decode (.ofText text) = .ok text := by
  simp [decode]

theorem step_plain (h : p.onlyOperands = false) {text : String} (ht : isPlainText text = true) :
    p.step (.ofText text) = p.plain (.ofText text) := by
  unfold step Argument.ofText
  rw [if_neg (by simp [h])]
  rw [isPlainText, Bool.or_eq_true, beq_iff_eq] at ht
  rcases ht with rfl | ht
  · rfl
  · cases hcs : text.toList with
    | nil => rfl
    | cons c cs =>
      have hne : c ≠ '-' := by simpa [hcs] using ht
      simp [hne]

theorem step_operand (h : p.onlyOperands = true) (a : Argument) : p.step a = p.operand a := by
  unfold step
  rw [if_pos h]

/-- Two dashes that stand alone end the options. -/
theorem step_dashes (h : p.onlyOperands = false) :
    p.step (.ofText "--") = .ok { p with onlyOperands := true } := by
  unfold step
  rw [if_neg (by simp [h])]
  rfl

theorem step_long (h : p.onlyOperands = false) {name : String} (hne : name ≠ "") :
    p.step (.ofText ("--" ++ name)) =
      p.long (Argument.splitEquals (.ofText name)).1 (Argument.splitEquals (.ofText name)).2 := by
  have htext : Argument.ofText ("--" ++ name) = .char '-' :: .char '-' :: Argument.ofText name := by
    rw [Argument.ofText_append]
    rfl
  unfold step
  rw [if_neg (by simp [h]), htext]
  cases hname : Argument.ofText name with
  | nil => exact absurd hname (by simpa [Argument.ofText] using hne)
  | cons piece rest => rfl

theorem byLong_eq_some {g : Grammar σ} {name : String} {o : Opt σ} (h : g.byLong name = some o) :
    o ∈ g.options ∧ o.long = name :=
  ⟨List.mem_of_find?_eq_some h, by simpa using List.find?_some h⟩

theorem mem_mentions_mention {p : Parser σ} {m m' : Mention} :
    m' ∈ (p.mention m).mentions ↔ m' ∈ p.mentions ∨ m' = m := by
  simp only [mention]
  split
  · rename_i hm
    constructor
    · exact .inl
    · rintro (h | rfl)
      · exact h
      · exact hm
  · simp

theorem settle_of_nothing (h : p.pending = .nothing) : p.settle = .ok p := by
  obtain ⟨grammar, settings, mentions, pending, onlyOperands⟩ := p
  obtain rfl : pending = .nothing := h
  rfl

/-! Only settings and mentions change when something settles. -/

theorem setValue_frame {p q : Parser σ} {o : Opt σ} {value : Argument}
    (h : p.setValue o value = .ok q) :
    ∃ s mentions, q = { p with settings := s, mentions := mentions } := by
  unfold setValue checkFirst at h
  split at h
  · cases h
  · cases hdecode : decode value with
    | error e =>
      rw [hdecode] at h
      cases h
    | ok text =>
      simp only [hdecode, Bind.bind, Except.bind] at h
      split at h
      · split at h
        · cases h
          exact ⟨_, _, rfl⟩
        · cases h
      · cases h
        exact ⟨_, _, rfl⟩

theorem addOperands_frame {p q : Parser σ} {values : List Argument}
    (h : p.addOperands values = .ok q) :
    ∃ s mentions, q = { p with settings := s, mentions := mentions } := by
  unfold addOperands at h
  cases hdecode : values.mapM decode with
  | error e =>
    rw [hdecode] at h
    cases h
  | ok texts =>
    simp only [hdecode, Bind.bind, Except.bind] at h
    split at h
    · cases h
      exact ⟨_, _, rfl⟩
    · cases h
      exact ⟨_, _, rfl⟩

theorem settle_frame {p q : Parser σ} (h : p.settle = .ok q) :
    ∃ s mentions, q = { p with settings := s, mentions := mentions, pending := .nothing } := by
  unfold settle at h
  cases hp : p.pending with
  | nothing =>
    rw [hp] at h
    cases h
    exact ⟨_, _, rfl⟩
  | awaiting o =>
    rw [hp] at h
    cases h
  | given o value =>
    rw [hp] at h
    exact setValue_frame h
  | operands values =>
    rw [hp] at h
    exact addOperands_frame h

/-- What was pending has settled. -/
theorem settle_pending {p q : Parser σ} (h : p.settle = .ok q) : q.pending = .nothing := by
  obtain ⟨s, mentions, rfl⟩ := settle_frame h
  rfl

/-- A parser for which nothing is pending, with the settings so far and the options named so far. -/
structure Rests (g : Grammar σ) (only : Bool) (s : σ) (named : List String) (p : Parser σ) :
    Prop where
  grammar : p.grammar = g
  onlyOperands : p.onlyOperands = only
  pending : p.pending = .nothing
  settings : p.settings = s
  mentions : ∀ long, .option long ∈ p.mentions ↔ long ∈ named

namespace Rests

variable {g : Grammar σ} {only : Bool} {s : σ} {named : List String}

theorem start (g : Grammar σ) : Rests g false g.initial [] (.start g) :=
  ⟨rfl, rfl, rfl, rfl, by simp [Parser.start]⟩

theorem settle (h : Rests g only s named p) : p.settle = .ok p := settle_of_nothing h.pending

theorem checkFirst (h : Rests g only s named p) {o : Opt σ} (hfirst : o.long ∉ named) :
    p.checkFirst o = .ok () := by
  rw [Parser.checkFirst, if_neg]
  rwa [h.mentions]

/-- An option that is named for the first time sets its value. -/
theorem setValue (h : Rests g only s named p) {o : Opt σ} {placeholder : String}
    {preset : Option String} {set : String → σ → Except String σ}
    (haction : o.action = .takeValue placeholder preset set) (hfirst : o.long ∉ named)
    {text : String} {s' : σ} (hset : set text s = .ok s') :
    ∃ q, p.setValue o (.ofText text) = .ok q ∧ Rests g only s' (o.long :: named) q := by
  refine ⟨{ p with settings := s' }.mention (.option o.long), ?_, h.grammar, h.onlyOperands,
    h.pending, rfl, ?_⟩
  · simp only [Parser.setValue, h.checkFirst hfirst, decode_ofText, haction, h.settings, hset,
      Bind.bind, Except.bind]
    rfl
  · intro long
    rw [mem_mentions_mention, h.mentions, List.mem_cons, Mention.option.injEq]
    exact or_comm

theorem addOperands (h : Rests g only s named p) {operands : Operands σ}
    (hoperands : g.operands = some operands) (texts : List String) :
    ∃ q, p.addOperands (texts.map .ofText) = .ok q ∧
      Rests g only (texts.foldl (fun s text => operands.add text s) s) named q := by
  have hdecode : (texts.map Argument.ofText).mapM decode = .ok texts := by
    induction texts with
    | nil => rfl
    | cons text texts ih =>
      rw [List.map_cons, List.mapM_cons, decode_ofText, ih]
      rfl
  refine ⟨{ p with settings := texts.foldl (fun s v => operands.add v s) p.settings }.mention
    .operands, ?_, h.grammar, h.onlyOperands, h.pending, ?_, ?_⟩
  · simp only [Parser.addOperands, hdecode, h.grammar, hoperands, Bind.bind, Except.bind]
    rfl
  · exact congrArg (texts.foldl fun s v => operands.add v s) h.settings
  · intro long
    rw [mem_mentions_mention, h.mentions]
    simp

end Rests

/-- How far arguments have been read: values may be pending, but nothing is awaited. The settings
and the named options are those behind the pending values. -/
inductive Reads (g : Grammar σ) (only : Bool) : σ → List String → Parser σ → Prop
  | rests {s : σ} {named : List String} {p : Parser σ} (rests : Rests g only s named p) :
    Reads g only s named p
  | given {s s' : σ} {named : List String} {p : Parser σ} {o : Opt σ} {text placeholder : String}
    {preset : Option String} {set : String → σ → Except String σ}
    (rests : Rests g only s named p)
    (action : o.action = .takeValue placeholder preset set) (first : o.long ∉ named)
    (accepted : set text s = .ok s') :
    Reads g only s' (o.long :: named) { p with pending := .given o (.ofText text) }
  | operands {s : σ} {named : List String} {p : Parser σ} {operands : Operands σ}
    (rests : Rests g only s named p) (allowed : g.operands = some operands) (texts : List String) :
    Reads g only (texts.foldl (fun s text => operands.add text s) s) named
      { p with pending := .operands (texts.map .ofText) }

namespace Reads

variable {g : Grammar σ} {only : Bool} {s : σ} {named : List String}

/-- What is pending settles. -/
theorem settle (h : Reads g only s named p) :
    ∃ q, p.settle = .ok q ∧ Rests g only s named q := by
  cases h with
  | rests rests => exact ⟨p, rests.settle, rests⟩
  | @given s s' named p o text placeholder preset set rests action first accepted =>
    obtain ⟨q, hq, hrests⟩ := rests.setValue action first accepted
    have hp : { p with pending := .nothing } = p := by rw [← rests.pending]
    refine ⟨q, ?_, hrests⟩
    simpa only [Parser.settle, hp] using hq
  | @operands s named p operands rests allowed texts =>
    obtain ⟨q, hq, hrests⟩ := rests.addOperands allowed texts
    have hp : { p with pending := .nothing } = p := by rw [← rests.pending]
    refine ⟨q, ?_, hrests⟩
    simpa only [Parser.settle, hp] using hq

theorem grammar (h : Reads g only s named p) : p.grammar = g := by
  cases h with
  | rests rests => exact rests.grammar
  | given rests => exact rests.grammar
  | operands rests => exact rests.grammar

theorem onlyOperands (h : Reads g only s named p) : p.onlyOperands = only := by
  cases h with
  | rests rests => exact rests.onlyOperands
  | given rests => exact rests.onlyOperands
  | operands rests => exact rests.onlyOperands

/-- A text is one more operand. -/
theorem operand (h : Reads g only s named p) {operands : Operands σ}
    (hoperands : g.operands = some operands) (text : String) :
    ∃ q, p.operand (.ofText text) = .ok q ∧ Reads g only (operands.add text s) named q := by
  have hfirst {q : Parser σ} (hq : p.settle = .ok q) (hrests : Rests g only s named q)
      (hother : ∀ values, p.pending ≠ .operands values) :
      ∃ q, p.operand (.ofText text) = .ok q ∧ Reads g only (operands.add text s) named q := by
    refine ⟨{ q with pending := .operands [.ofText text] }, ?_,
      .operands hrests hoperands [text]⟩
    simp only [Parser.operand, h.grammar, hoperands, hq, Bind.bind, Except.bind]
    rfl
  obtain ⟨q, hq, hrests⟩ := h.settle
  cases h with
  | rests rests => exact hfirst hq hrests (by simp [rests.pending])
  | given => exact hfirst hq hrests (by simp)
  | @operands s named p _ rests allowed texts =>
    obtain rfl := Option.some.inj (hoperands.symm.trans allowed)
    refine ⟨{ p with pending := .operands ((texts ++ [text]).map .ofText) }, ?_, ?_⟩
    · simp only [Parser.operand, rests.grammar, hoperands, List.map_append]
      rfl
    · have hmore := Reads.operands rests allowed (texts ++ [text])
      rwa [List.foldl_append] at hmore

theorem plain (h : Reads g only s named p) {operands : Operands σ}
    (hoperands : g.operands = some operands) (text : String) :
    ∃ q, p.plain (.ofText text) = .ok q ∧ Reads g only (operands.add text s) named q := by
  have hplain : p.plain (.ofText text) = p.operand (.ofText text) := by
    cases h with
    | rests rests => simp only [Parser.plain, rests.pending]
    | given | operands => rfl
  rw [hplain]
  exact h.operand hoperands text

section Named

variable {name placeholder : String} {o : Opt σ} {preset : Option String}
  {set : String → σ → Except String σ} {text : String} {s' : σ}

/-- An option with its value behind an equals sign is read at once. -/
theorem attached (h : Reads g only s named p) (hname : g.byLong name = some o)
    (haction : o.action = .takeValue placeholder preset set) (hfirst : name ∉ named)
    (hset : set text s = .ok s') :
    ∃ q, p.long (.ofText name) (some (.ofText text)) = .ok q ∧
      Reads g only s' (name :: named) q := by
  obtain ⟨q, hq, hrests⟩ := h.settle
  obtain ⟨_, rfl⟩ := byLong_eq_some hname
  obtain ⟨q', hq', hrests'⟩ := hrests.setValue haction hfirst hset
  refine ⟨q', ?_, .rests hrests'⟩
  simp only [Parser.long, h.grammar, Argument.shown_ofText, hname, haction, hq, hq', Bind.bind,
    Except.bind]

/-- The value may be the next argument. -/
theorem apart (h : Reads g only s named p) (hname : g.byLong name = some o)
    (haction : o.action = .takeValue placeholder preset set) (hfirst : name ∉ named)
    (hset : set text s = .ok s') :
    ∃ q q', p.long (.ofText name) none = .ok q ∧ q.onlyOperands = only ∧
      q.plain (.ofText text) = .ok q' ∧ Reads g only s' (name :: named) q' := by
  obtain ⟨q, hq, hrests⟩ := h.settle
  obtain ⟨_, rfl⟩ := byLong_eq_some hname
  refine ⟨{ q with pending := .awaiting o }, { q with pending := .given o (.ofText text) }, ?_,
    hrests.onlyOperands, rfl, .given hrests haction hfirst hset⟩
  simp only [Parser.long, h.grammar, Argument.shown_ofText, hname, act, haction, hq, Bind.bind,
    Except.bind]
  rfl

/-- In either way the value takes effect with the option. -/
theorem spelled (h : Reads g false s named p) (hname : g.byLong name = some o)
    (haction : o.action = .takeValue placeholder preset set) (hfirst : name ∉ named)
    (hset : set text s = .ok s') (hne : name ≠ "") (hsign : '=' ∉ name.toList)
    {spelling : Spelling} (htakes : spelling.takes text = true) :
    ∃ q, p.steps ((spelling.texts name text).map .ofText) = .ok q ∧
      Reads g false s' (name :: named) q := by
  cases spelling with
  | apart =>
    obtain ⟨q, q', hq, honly, hq', hreads⟩ := h.apart hname haction hfirst hset
    refine ⟨q', ?_, hreads⟩
    simp only [Spelling.texts, steps, List.map_cons, List.map_nil, List.foldlM_cons,
      List.foldlM_nil, step_long h.onlyOperands hne, Argument.splitEquals_name hsign, hq,
      step_plain honly htakes, hq', Bind.bind, Except.bind]
    rfl
  | attached =>
    obtain ⟨q, hq, hreads⟩ := h.attached hname haction hfirst hset
    refine ⟨q, ?_, hreads⟩
    have hlong : p.step (.ofText ("--" ++ name ++ "=" ++ text)) = .ok q := by
      have hsplit : "--" ++ name ++ "=" ++ text = "--" ++ (name ++ "=" ++ text) := by
        simp only [String.append_assoc]
      rw [hsplit, step_long h.onlyOperands (by simp), Argument.splitEquals_attached hsign, hq]
    simp only [Spelling.texts, steps, List.map_cons, List.map_nil, List.foldlM_cons,
      List.foldlM_nil, hlong, Bind.bind, Except.bind]
    rfl

end Named

/-- Behind the end of the options nothing is read in another way. -/
theorem dashes (h : Reads g false s named p) :
    Reads g true s named { p with onlyOperands := true } := by
  cases h with
  | rests rests =>
    exact .rests ⟨rests.grammar, rfl, rests.pending, rests.settings, rests.mentions⟩
  | @given s s' named p o text placeholder preset set rests action first accepted =>
    exact .given (p := { p with onlyOperands := true })
      ⟨rests.grammar, rfl, rests.pending, rests.settings, rests.mentions⟩ action first accepted
  | @operands s named p operands rests allowed texts =>
    exact .operands (p := { p with onlyOperands := true })
      ⟨rests.grammar, rfl, rests.pending, rests.settings, rests.mentions⟩ allowed texts

/-- Texts are operands in order. Where options are read too, they must not look like one. -/
theorem texts (h : Reads g only s named p) {operands : Operands σ}
    (hoperands : g.operands = some operands) {texts : List String}
    (hplain : only = true ∨ ∀ text ∈ texts, isPlainText text = true) :
    ∃ q, p.steps (texts.map .ofText) = .ok q ∧
      Reads g only (texts.foldl (fun s text => operands.add text s) s) named q := by
  induction texts generalizing p s with
  | nil => exact ⟨p, rfl, h⟩
  | cons text texts ih =>
    have hstep : ∃ q, p.step (.ofText text) = .ok q ∧
        Reads g only (operands.add text s) named q := by
      cases only with
      | true =>
        rw [step_operand h.onlyOperands]
        exact h.operand hoperands text
      | false =>
        have hfirst := hplain.resolve_left Bool.false_ne_true text List.mem_cons_self
        rw [step_plain h.onlyOperands hfirst]
        exact h.plain hoperands text
    obtain ⟨q, hq, hreads⟩ := hstep
    obtain ⟨q', hq', hreads'⟩ :=
      ih hreads (hplain.imp_right fun hplain t ht => hplain t (List.mem_cons_of_mem _ ht))
    refine ⟨q', ?_, hreads'⟩
    simp only [steps, List.map_cons, List.foldlM_cons, hq, Bind.bind, Except.bind]
    exact hq'

end Reads

theorem steps_append (p : Parser σ) (front back : List Argument) :
    p.steps (front ++ back) = p.steps front >>= fun q => q.steps back := List.foldlM_append ..

/-- Arguments that can be read to their end ask for a run. -/
theorem Reads.request {g : Grammar σ} {only : Bool} {s : σ} {named : List String}
    {arguments : List Argument} (h : (start g).steps arguments = .ok p)
    (hreads : Reads g only s named p) : g.request arguments = .run s := by
  obtain ⟨q, hq, hrests⟩ := hreads.settle
  simp only [Grammar.request, h, hq, hrests.settings, Bind.bind, Except.bind]

end Parser

end UdpBench
