import UdpBench.CommandLine.Report
import UdpBench.Proofs.Arguments

namespace UdpBench

/-- Two attempts fail alike, or both succeed with results that are related. -/
inductive Agree {ε α β : Type} (R : α → β → Prop) : Except ε α → Except ε β → Prop
  | error (e : ε) : Agree R (.error e) (.error e)
  | ok {a : α} {b : β} (related : R a b) : Agree R (.ok a) (.ok b)

namespace Agree

variable {ε α β γ δ : Type} {R S : α → β → Prop} {T : γ → δ → Prop} {x : Except ε α}
  {y : Except ε β}

theorem bind {k : α → Except ε γ} {l : β → Except ε δ} (h : Agree R x y)
    (hk : ∀ a b, R a b → Agree T (k a) (l b)) : Agree T (x >>= k) (y >>= l) := by
  cases h with
  | error e => exact .error e
  | ok related => exact hk _ _ related

theorem imp (h : Agree R x y) (hi : ∀ a b, R a b → S a b) : Agree S x y := by
  cases h with
  | error e => exact .error e
  | ok related => exact .ok (hi _ _ related)

end Agree

variable {σ : Type}

/-- An action has the same effect before and after a change of the settings. -/
def Action.Respects (f : σ → σ) : Action σ → Prop
  | .takeValue _ _ set => ∀ v s, set v (f s) = (set v s).map f
  | .switch set => ∀ s, set (f s) = f (set s)
  | .help | .version => True

/-- A change of the settings that puts one value of an option in the place of another, and that
nothing else is affected by. -/
structure Grammar.Swaps (g : Grammar σ) (f : σ → σ) (o : Opt σ) (v w : String) : Prop where
  mem : o ∈ g.options
  action : ∃ placeholder preset set, o.action = .takeValue placeholder preset set ∧
    ∀ s, ∃ s', set v s = .ok s' ∧ set w s = .ok (f s')
  others : ∀ other ∈ g.options, other.long ≠ o.long → other.action.Respects f
  operands : ∀ operands ∈ g.operands, ∀ v s, operands.add v (f s) = f (operands.add v s)

/-- The option whose value is pending or awaited. -/
def Pending.option? : Pending σ → Option (Opt σ)
  | .awaiting o | .given o _ => some o
  | .nothing | .operands _ => none

theorem Action.respects_id (action : Action σ) : action.Respects id := by
  cases action with
  | takeValue placeholder preset set =>
    intro v s
    exact (congrFun Except.map_id (set v s)).symm
  | switch | help | version => simp [Respects]

/-- A value that is read without regard to the settings goes into a part of its own. -/
theorem Action.respects_read {α : Type} {f : σ → σ} {put : α → σ → σ}
    (h : ∀ a s, put a (f s) = f (put a s)) (placeholder : String) (preset : Option String)
    (read : String → Except String α) :
    (Action.takeValue placeholder preset fun v s => (read v).map fun a => put a s).Respects f := by
  intro v s
  cases hread : read v with
  | error why => simp only [hread, Except.map]
  | ok a => simp only [hread, Except.map, h]

namespace Parser

/-- Two parsers at the same place, whose settings differ by a change. An option that does not
respect it has been named already, so it cannot be named again. -/
structure Parallel (g : Grammar σ) (f : σ → σ) (only : Bool) (p q : Parser σ) : Prop where
  eq : q = { p with settings := f p.settings }
  grammar : p.grammar = g
  onlyOperands : p.onlyOperands = only
  pending : ∀ o, p.pending.option? = some o → o ∈ g.options
  respects : ∀ o ∈ g.options, o.action.Respects f ∨ .option o.long ∈ p.mentions
  operands : ∀ operands ∈ g.operands, ∀ v s, operands.add v (f s) = f (operands.add v s)

namespace Parallel

variable {g : Grammar σ} {f : σ → σ} {only : Bool} {p q : Parser σ}

/-- More is named, and other settings are changed alike. -/
theorem mention (h : Parallel g f only p q) (s : σ) (m : Mention) :
    Parallel g f only ({ p with settings := s }.mention m)
      ({ q with settings := f s }.mention m) := by
  obtain rfl := h.eq
  refine ⟨rfl, h.grammar, h.onlyOperands, h.pending, ?_, h.operands⟩
  intro o ho
  exact (h.respects o ho).imp_right fun hm => mem_mentions_mention.mpr (.inl hm)

/-- Something else is pending. -/
theorem await (h : Parallel g f only p q) (pending : Pending σ)
    (hpending : ∀ o, pending.option? = some o → o ∈ g.options) :
    Parallel g f only { p with pending } { q with pending } := by
  obtain rfl := h.eq
  exact ⟨rfl, h.grammar, h.onlyOperands, hpending, h.respects, h.operands⟩

theorem setValue (h : Parallel g f only p q) {o : Opt σ} (ho : o ∈ g.options) (value : Argument) :
    Agree (Parallel g f only) (p.setValue o value) (q.setValue o value) := by
  obtain rfl := h.eq
  unfold Parser.setValue checkFirst
  by_cases hm : .option o.long ∈ p.mentions
  · simp only [hm, ↓reduceIte]
    exact .error _
  · have hrespects := (h.respects o ho).resolve_right hm
    simp only [hm, ↓reduceIte]
    cases decode value with
    | error e => exact .error e
    | ok text =>
      cases haction : o.action with
      | takeValue placeholder preset set =>
        rw [haction] at hrespects
        simp only [Bind.bind, Except.bind, hrespects text p.settings]
        cases set text p.settings with
        | error why => exact .error _
        | ok s => exact .ok (h.mention s _)
      | switch | help | version => exact .ok h

theorem addOperands (h : Parallel g f only p q) (values : List Argument) :
    Agree (Parallel g f only) (p.addOperands values) (q.addOperands values) := by
  obtain rfl := h.eq
  unfold Parser.addOperands
  cases values.mapM decode with
  | error e => exact .error e
  | ok texts =>
    cases hoperands : p.grammar.operands with
    | none => exact .ok h
    | some operands =>
      have hcommutes (s : σ) : texts.foldl (fun s v => operands.add v s) (f s) =
          f (texts.foldl (fun s v => operands.add v s) s) := by
        induction texts generalizing s with
        | nil => rfl
        | cons text texts ih =>
          rw [List.foldl_cons, List.foldl_cons,
            h.operands operands (h.grammar ▸ hoperands) text s, ih]
      simp only [Bind.bind, Except.bind, hcommutes]
      exact .ok (h.mention _ _)

theorem settle (h : Parallel g f only p q) :
    Agree (Parallel g f only) p.settle q.settle := by
  have hrests : Parallel g f only { p with pending := .nothing } { q with pending := .nothing } :=
    h.await .nothing (by simp [Pending.option?])
  have hpending := h.pending
  have heq : q.pending = p.pending := by rw [h.eq]
  unfold Parser.settle
  rw [heq]
  cases hp : p.pending with
  | nothing => exact .ok hrests
  | awaiting o => exact .error _
  | given o value => exact hrests.setValue (hpending o (by rw [hp]; rfl)) value
  | operands values => exact hrests.addOperands values

/-- From here on two parsers go side by side that have read another value. -/
theorem swap (h : Parallel g id only p p) {o : Opt σ} {v w : String} (hs : g.Swaps f o v w) :
    Agree (Parallel g f only) (p.setValue o (.ofText v)) (p.setValue o (.ofText w)) := by
  unfold Parser.setValue checkFirst
  by_cases hm : .option o.long ∈ p.mentions
  · simp only [hm, ↓reduceIte]
    exact .error _
  · obtain ⟨placeholder, preset, set, haction, hset⟩ := hs.action
    obtain ⟨s, hv, hw⟩ := hset p.settings
    simp only [hm, ↓reduceIte, decode_ofText, haction, Bind.bind, Except.bind, hv, hw]
    refine .ok ⟨rfl, h.grammar, h.onlyOperands, h.pending, ?_, hs.operands⟩
    intro other hother
    rw [mem_mentions_mention]
    by_cases hlong : other.long = o.long
    · exact .inr (.inr (by rw [hlong]))
    · exact .inl (hs.others other hother hlong)

end Parallel

/-- Two parsers of which one has another value for one option: the values are pending, or they have
settled. -/
inductive Alike (g : Grammar σ) (f : σ → σ) (o : Opt σ) (v w : String) (only : Bool) :
    Parser σ → Parser σ → Prop
  | parallel {p q : Parser σ} (h : Parallel g f only p q) : Alike g f o v w only p q
  | given {p : Parser σ} (rests : Parallel g id only p p) (pending : p.pending = .nothing)
    (swaps : g.Swaps f o v w) :
    Alike g f o v w only { p with pending := .given o (.ofText v) }
      { p with pending := .given o (.ofText w) }

namespace Alike

variable {g : Grammar σ} {f : σ → σ} {o : Opt σ} {v w : String} {only : Bool} {p q : Parser σ}

theorem settle (h : Alike g f o v w only p q) : Agree (Parallel g f only) p.settle q.settle := by
  cases h with
  | parallel h => exact h.settle
  | @given p rests pending swaps =>
    have hp : { p with pending := .nothing } = p := by rw [← pending]
    simpa only [Parser.settle, hp] using rests.swap swaps

theorem grammar (h : Alike g f o v w only p q) : p.grammar = g ∧ q.grammar = g := by
  cases h with
  | parallel h => exact ⟨h.grammar, by rw [h.eq]; exact h.grammar⟩
  | given rests => exact ⟨rests.grammar, rests.grammar⟩

theorem onlyOperands (h : Alike g f o v w only p q) :
    p.onlyOperands = only ∧ q.onlyOperands = only := by
  cases h with
  | parallel h => exact ⟨h.onlyOperands, by rw [h.eq]; exact h.onlyOperands⟩
  | given rests => exact ⟨rests.onlyOperands, rests.onlyOperands⟩

theorem mentions (h : Alike g f o v w only p q) : q.mentions = p.mentions := by
  cases h with
  | parallel h => rw [h.eq]
  | given => rfl

theorem couldBeOperand (h : Alike g f o v w only p q) : q.couldBeOperand = p.couldBeOperand := by
  simp only [Parser.couldBeOperand, h.grammar.1, h.grammar.2, h.onlyOperands.1, h.onlyOperands.2]

/-- What is said of an unknown option tells nothing of values. -/
theorem unknownLong (h : Alike g f o v w only p q) (name : String) :
    q.unknownLong name = p.unknownLong name := by
  have hattempted : q.attempted = p.attempted := by
    cases h with
    | parallel h =>
      rw [h.eq]
      rfl
    | given => rfl
  simp only [Parser.unknownLong, hattempted, h.couldBeOperand, h.grammar.1, h.grammar.2]

theorem act (h : Alike g f o v w only p q) {other : Opt σ} (hother : other ∈ g.options) :
    Agree (Parallel g f only) (p.act other) (q.act other) := by
  refine h.settle.bind ?_
  intro p q h
  obtain rfl := h.eq
  cases haction : other.action with
  | takeValue placeholder preset set =>
    refine .ok (h.await _ ?_)
    intro o ho
    obtain rfl := Option.some.inj ho
    exact hother
  | help | version => exact .error _
  | switch set =>
    unfold checkFirst
    by_cases hm : .option other.long ∈ p.mentions
    · simp only [hm, ↓reduceIte]
      exact .error _
    · have hrespects := (h.respects other hother).resolve_right hm
      rw [haction] at hrespects
      simp only [hm, ↓reduceIte, hrespects p.settings]
      exact .ok (h.mention _ _)

theorem long (h : Alike g f o v w only p q) (name : Argument) (value : Option Argument) :
    Agree (Parallel g f only) (p.long name value) (q.long name value) := by
  unfold Parser.long
  rw [h.grammar.1, h.grammar.2]
  cases hname : g.byLong name.shown with
  | none =>
    simp only [h.unknownLong]
    exact .error _
  | some other =>
    have hother := (byLong_eq_some hname).1
    cases value with
    | none => exact h.act hother
    | some value =>
      cases haction : other.action with
      | takeValue placeholder preset set =>
        simp only [haction]
        exact h.settle.bind fun p q h => h.setValue hother value
      | switch | help | version =>
        simp only [haction, h.mentions]
        exact .error _

theorem cluster (h : Alike g f o v w only p q) (a : Argument) :
    Agree (Alike g f o v w only) (p.cluster a) (q.cluster a) := by
  induction a generalizing p q with
  | nil => exact .ok h
  | cons piece rest ih =>
    cases piece with
    | undecodable =>
      simp only [Parser.cluster, h.couldBeOperand]
      exact .error _
    | char c =>
      simp only [Parser.cluster, h.grammar.1, h.grammar.2, h.couldBeOperand]
      cases hshort : g.byShort c with
      | none => exact .error _
      | some other =>
        have hother : other ∈ g.options := List.mem_of_find?_eq_some hshort
        cases haction : other.action with
        | takeValue placeholder preset set =>
          simp only [haction]
          split
          · exact (h.act hother).imp fun p q h => .parallel h
          · exact h.settle.bind fun p q h =>
              (h.setValue hother _).imp fun p q h => Alike.parallel h
        | switch | help | version =>
          simp only [haction]
          exact (h.act hother).bind fun p q h => ih (.parallel h)

theorem operand (h : Alike g f o v w only p q) (a : Argument) :
    Agree (Parallel g f only) (p.operand a) (q.operand a) := by
  have hfirst : Agree (Parallel g f only)
      (p.settle >>= fun p => .ok { p with pending := .operands [a] })
      (q.settle >>= fun q => .ok { q with pending := .operands [a] }) :=
    h.settle.bind fun p q h => .ok (h.await _ (by simp [Pending.option?]))
  have hgrammar : q.grammar.operands = p.grammar.operands := by rw [h.grammar.1, h.grammar.2]
  unfold Parser.operand
  rw [hgrammar]
  cases p.grammar.operands with
  | none => exact .error _
  | some operands =>
    cases h with
    | given => exact hfirst
    | parallel h =>
      have heq : q.pending = p.pending := by rw [h.eq]
      rw [heq]
      cases hp : p.pending with
      | operands values =>
        exact .ok (h.await (.operands (values ++ [a])) (by simp [Pending.option?]))
      | nothing | awaiting | given => exact hfirst

theorem plain (h : Alike g f o v w only p q) (a : Argument) :
    Agree (Parallel g f only) (p.plain a) (q.plain a) := by
  have hoperand := h.operand a
  unfold Parser.plain
  cases h with
  | given => exact hoperand
  | parallel h =>
    have heq : q.pending = p.pending := by rw [h.eq]
    rw [heq]
    cases hp : p.pending with
    | awaiting other =>
      refine .ok (h.await _ ?_)
      intro o ho
      obtain rfl := Option.some.inj ho
      exact h.pending other (by rw [hp]; rfl)
    | nothing | given | operands => exact hoperand

/-- Behind the end of the options nothing else changes. -/
theorem dashes (h : Alike g f o v w only p q) :
    Alike g f o v w true { p with onlyOperands := true } { q with onlyOperands := true } := by
  cases h with
  | parallel h =>
    obtain rfl := h.eq
    exact .parallel ⟨rfl, h.grammar, rfl, h.pending, h.respects, h.operands⟩
  | @given p rests pending swaps =>
    exact .given (p := { p with onlyOperands := true })
      ⟨rfl, rests.grammar, rfl, rests.pending, rests.respects, rests.operands⟩ pending swaps

/-- Only two dashes that stand alone change how the rest is read. -/
theorem step (h : Alike g f o v w only p q) (a : Argument) :
    ∃ only', Agree (Alike g f o v w only') (p.step a) (q.step a) ∧
      (a ≠ .ofText "--" → only' = only) := by
  cases only with
  | true =>
    refine ⟨true, ?_, fun _ => rfl⟩
    rw [step_operand h.onlyOperands.1, step_operand h.onlyOperands.2]
    exact (h.operand a).imp fun p q h => .parallel h
  | false =>
    by_cases ha : a = .ofText "--"
    · refine ⟨true, ?_, fun hne => absurd ha hne⟩
      rw [ha, step_dashes h.onlyOperands.1, step_dashes h.onlyOperands.2]
      exact .ok h.dashes
    · refine ⟨false, ?_, fun _ => rfl⟩
      unfold Parser.step
      rw [if_neg (by simp [h.onlyOperands.1]), if_neg (by simp [h.onlyOperands.2])]
      split
      · exact absurd rfl ha
      · exact (h.long _ _).imp fun p q h => .parallel h
      · exact (h.plain _).imp fun p q h => .parallel h
      · exact h.cluster _
      · exact (h.plain _).imp fun p q h => .parallel h

theorem steps (h : Alike g f o v w only p q) (arguments : List Argument) :
    ∃ only', Agree (Alike g f o v w only') (p.steps arguments) (q.steps arguments) ∧
      (.ofText "--" ∉ arguments → only' = only) := by
  induction arguments generalizing p q only with
  | nil => exact ⟨only, .ok h, fun _ => rfl⟩
  | cons a rest ih =>
    obtain ⟨only', hstep, honly⟩ := h.step a
    simp only [Parser.steps, List.foldlM_cons]
    generalize p.step a = p', q.step a = q' at hstep
    cases hstep with
    | error e => exact ⟨only', .error e, fun hno => honly fun ha => hno (by simp [ha])⟩
    | @ok p' q' related =>
      obtain ⟨only'', hrest, honly'⟩ := ih related
      refine ⟨only'', hrest, ?_⟩
      intro hno
      rw [List.mem_cons, not_or] at hno
      exact (honly' hno.2).trans (honly fun ha => hno.1 ha.symm)

/-- Two values of an option are read alike in either spelling. -/
theorem spelled (h : Alike g id o v w false p p) (hs : g.Swaps f o v w) {name : String}
    (hname : g.byLong name = some o) (hne : name ≠ "") (hsign : '=' ∉ name.toList)
    {spelling : Spelling} (hv : spelling.takes v = true) (hw : spelling.takes w = true) :
    Agree (Alike g f o v w false) (p.steps ((spelling.texts name v).map .ofText))
      (p.steps ((spelling.texts name w).map .ofText)) := by
  obtain ⟨placeholder, preset, set, haction, _⟩ := hs.action
  have hsettle := h.settle
  cases spelling with
  | apart =>
    have hlong : p.step (.ofText ("--" ++ name)) =
        p.settle >>= fun q => .ok { q with pending := .awaiting o } := by
      simp only [step_long h.onlyOperands.1 hne, Argument.splitEquals_name hsign, Parser.long,
        h.grammar.1, Argument.shown_ofText, hname, Parser.act, haction]
      rfl
    simp only [Spelling.texts, Parser.steps, List.map_cons, List.map_nil, List.foldlM_cons,
      List.foldlM_nil, hlong]
    cases hq : p.settle with
    | error e => exact .error e
    | ok q =>
      rw [hq] at hsettle
      cases hsettle with
      | ok rests =>
        have hplain {value : String} (hvalue : isPlainText value = true) :
            ({ q with pending := .awaiting o } : Parser σ).step (.ofText value) =
              .ok { q with pending := .given o (.ofText value) } :=
          step_plain (p := { q with pending := .awaiting o }) rests.onlyOperands hvalue
        simp only [Bind.bind, Except.bind, hplain hv, hplain hw]
        exact .ok (.given rests (settle_pending hq) hs)
  | attached =>
    have hlong (value : String) : p.step (.ofText ("--" ++ name ++ "=" ++ value)) =
        p.settle >>= fun q => q.setValue o (.ofText value) := by
      have hsplit : "--" ++ name ++ "=" ++ value = "--" ++ (name ++ "=" ++ value) := by
        simp only [String.append_assoc]
      rw [hsplit, step_long h.onlyOperands.1 (by simp), Argument.splitEquals_attached hsign]
      simp only [Parser.long, h.grammar.1, Argument.shown_ofText, hname, haction]
    simp only [Spelling.texts, Parser.steps, List.map_cons, List.map_nil, List.foldlM_cons,
      List.foldlM_nil, hlong]
    cases hq : p.settle with
    | error e => exact .error e
    | ok q =>
      rw [hq] at hsettle
      cases hsettle with
      | ok rests =>
        exact (rests.swap hs).bind fun p q h => .ok (.parallel h)

end Alike

end Parser

/-- Where one value of an option stands instead of another, wherever among the arguments that is,
they are refused alike, or the settings differ by no more than that value. -/
theorem Grammar.Swaps.settings {g : Grammar σ} {f : σ → σ} {o : Opt σ} {v w : String}
    (hs : g.Swaps f o v w) {name : String} (hname : g.byLong name = some o) (hne : name ≠ "")
    (hsign : '=' ∉ name.toList) {spelling : Spelling} (hv : spelling.takes v = true)
    (hw : spelling.takes w = true) {front : List Argument} (hfront : .ofText "--" ∉ front)
    (back : List Argument) :
    g.settings (front ++ (spelling.texts name w).map .ofText ++ back) =
      (g.settings (front ++ (spelling.texts name v).map .ofText ++ back)).map f := by
  have hstart : Parser.Alike g id o v w false (.start g) (.start g) :=
    .parallel ⟨rfl, rfl, rfl, by simp [Parser.start, Pending.option?],
      fun other _ => .inl (Action.respects_id other.action), fun _ _ _ _ => rfl⟩
  -- Up to the option both read the same, which is a change that changes nothing.
  obtain ⟨only, hsteps, honly⟩ := hstart.steps front
  obtain rfl : only = false := honly hfront
  have hread : ∃ only, Agree (Parser.Parallel g f only)
      ((Parser.start g).steps (front ++ (spelling.texts name v).map .ofText ++ back) >>=
        Parser.settle)
      ((Parser.start g).steps (front ++ (spelling.texts name w).map .ofText ++ back) >>=
        Parser.settle) := by
    simp only [Parser.steps_append]
    cases hp : (Parser.start g).steps front with
    | error e => exact ⟨false, .error e⟩
    | ok p =>
      rw [hp] at hsteps
      cases hsteps with
      | ok related =>
        have hspelled := related.spelled hs hname hne hsign hv hw
        simp only [Bind.bind, Except.bind]
        generalize p.steps ((spelling.texts name v).map .ofText) = p₁,
          p.steps ((spelling.texts name w).map .ofText) = p₂ at hspelled
        cases hspelled with
        | error e => exact ⟨false, .error e⟩
        | @ok p₁ p₂ related =>
          obtain ⟨only, hback, _⟩ := related.steps back
          exact ⟨only, hback.bind fun p q h => h.settle⟩
  obtain ⟨only, hread⟩ := hread
  unfold Grammar.settings Grammar.request
  generalize (Parser.start g).steps (front ++ (spelling.texts name v).map .ofText ++ back) >>=
      Parser.settle = p₁,
    (Parser.start g).steps (front ++ (spelling.texts name w).map .ofText ++ back) >>=
      Parser.settle = p₂ at hread
  cases hread with
  | error e => cases e <;> rfl
  | @ok p q related =>
    obtain rfl := related.eq
    rfl

/-- With either value the arguments are refused alike, or the settings are the same but for it. -/
theorem Grammar.settings_cases {g : Grammar σ} {f : String → σ → σ} {o : Opt σ}
    (hs : ∀ v w, g.Swaps (f w) o v w) (name : String) (hname : g.byLong name = some o)
    (hne : name ≠ "") (hsign : '=' ∉ name.toList) {spelling : Spelling} {v w : String}
    (hv : spelling.takes v = true) (hw : spelling.takes w = true) {front : List Argument}
    (hfront : .ofText "--" ∉ front) (back : List Argument) :
    (∃ report, g.settings (front ++ (spelling.texts name v).map .ofText ++ back) = .error report ∧
      g.settings (front ++ (spelling.texts name w).map .ofText ++ back) = .error report) ∨
    ∃ s, g.settings (front ++ (spelling.texts name v).map .ofText ++ back) = .ok (f v s) ∧
      g.settings (front ++ (spelling.texts name w).map .ofText ++ back) = .ok (f w s) := by
  have hsame := (hs v v).settings hname hne hsign hv hv hfront back
  have hother := (hs v w).settings hname hne hsign hv hw hfront back
  cases hread : g.settings (front ++ (spelling.texts name v).map .ofText ++ back) with
  | error report =>
    rw [hread] at hother
    exact .inl ⟨report, rfl, hother⟩
  | ok s =>
    rw [hread] at hsame hother
    exact .inr ⟨s, hsame, hother⟩

end UdpBench
