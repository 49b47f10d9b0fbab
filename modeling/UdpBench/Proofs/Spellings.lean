import UdpBench.Proofs.Arguments

namespace UdpBench

/-- An option with the value that it is given, or without one. -/
structure Use (σ : Type) where
  opt : Opt σ
  value : Option String

namespace Use

variable {σ : Type}

/-- Has a value where the option takes one, and only there. -/
def isComplete (u : Use σ) : Bool :=
  match u.opt.action, u.value with
  | .takeValue .., some _ | .switch _, none => true
  | _, _ => false

def switch (o : Opt σ) : Use σ := ⟨o, none⟩

theorem isComplete_cases {u : Use σ} (h : u.isComplete = true) :
    (u.value = none ∧ ∃ set, u.opt.action = .switch set) ∨
    ∃ value placeholder preset set,
      u.value = some value ∧ u.opt.action = .takeValue placeholder preset set := by
  obtain ⟨⟨long, short, about, action⟩, value⟩ := u
  cases action with
  | takeValue placeholder preset set =>
    cases value with
    | none => cases h
    | some value => exact .inr ⟨value, placeholder, preset, set, rfl, rfl⟩
  | switch set =>
    cases value with
    | none => exact .inl ⟨rfl, set, rfl⟩
    | some value => cases h
  | help | version => cases value <;> cases h

end Use

/-- Letters that name switches. -/
def Grammar.AreSwitches {σ : Type} (g : Grammar σ) (letters : List Char) : Prop :=
  ∀ c ∈ letters, c ≠ '-' ∧ ∃ o, g.byShort c = some o ∧ (Use.switch o).isComplete = true

/-- The texts that name an option by its long name, with a value if there is one. -/
def Spelling.textsOf (name : String) : Option String → Spelling → List String
  | some value, spelling => spelling.texts name value
  | none, _ => ["--" ++ name]

/-- How the value of an option is given behind its short name. -/
inductive ShortSpelling
  /-- As the next argument. -/
  | apart
  /-- Right behind the name. -/
  | glued
  /-- Behind an equals sign. -/
  | attached
  deriving DecidableEq

namespace ShortSpelling

/-- The texts that name options by their letters, with a value for the last one if there is one. -/
def textsOf (letters : String) : Option String → ShortSpelling → List String
  | none, _ => ["-" ++ letters]
  | some value, apart => ["-" ++ letters, value]
  | some value, glued => ["-" ++ letters ++ value]
  | some value, attached => ["-" ++ letters ++ "=" ++ value]

/-- A value right behind the name is there at all, and does not begin like one behind an equals
sign. -/
def takes (value : String) : ShortSpelling → Bool
  | apart => isPlainText value
  | glued => value != "" && value.toList.head? != some '='
  | attached => true

end ShortSpelling

namespace Argument

theorem ofText_letters (letters : List Char) (c : Char) (tail : String) :
    ofText ("-" ++ String.ofList (letters ++ [c]) ++ tail) =
      .char '-' :: (letters.map .char ++ .char c :: ofText tail) := by
  simp [ofText]

theorem afterEquals_sign (value : String) : afterEquals (ofText ("=" ++ value)) = ofText value := by
  rw [ofText_append]
  rfl

theorem afterEquals_ofText {value : String} (h : value.toList.head? ≠ some '=') :
    afterEquals (ofText value) = ofText value := by
  unfold ofText
  cases hvalue : value.toList with
  | nil => rfl
  | cons c cs =>
    have hne : c ≠ '=' := by simpa [hvalue] using h
    simp [afterEquals, hne]

end Argument

namespace Parser

variable {σ : Type} {g : Grammar σ} {p q : Parser σ}

/-- Takes an option with its value where nothing is pending. -/
def use (p : Parser σ) (u : Use σ) : Except Halt (Parser σ) :=
  match u.value with
  | some value => p.setValue u.opt (.ofText value)
  | none => p.act u.opt

/-- A parser of this grammar that has not come to the end of the options. -/
structure Open (g : Grammar σ) (p : Parser σ) : Prop where
  grammar : p.grammar = g
  onlyOperands : p.onlyOperands = false

structure Idle (g : Grammar σ) (p : Parser σ) : Prop extends Open g p where
  pending : p.pending = .nothing

theorem Open.settle (h : Open g p) (hq : p.settle = .ok q) : Idle g q := by
  obtain ⟨s, mentions, rfl⟩ := settle_frame hq
  exact ⟨⟨h.grammar, h.onlyOperands⟩, rfl⟩

theorem Idle.settle (h : Idle g p) : p.settle = .ok p := settle_of_nothing h.pending

theorem Idle.use (h : Idle g p) {u : Use σ} (hu : u.isComplete = true) (hq : p.use u = .ok q) :
    Idle g q := by
  unfold Parser.use at hq
  rcases Use.isComplete_cases hu with ⟨hvalue, set, haction⟩ | ⟨value, _, _, _, hvalue, _⟩
  · simp only [hvalue, act, h.settle, haction, Bind.bind, Except.bind] at hq
    split at hq
    · cases hq
    · cases hq
      exact ⟨⟨h.grammar, h.onlyOperands⟩, h.pending⟩
  · rw [hvalue] at hq
    obtain ⟨s, mentions, rfl⟩ := setValue_frame hq
    exact ⟨⟨h.grammar, h.onlyOperands⟩, h.pending⟩

/-- What comes of reading comes to `y` when it has settled, and more options can be read. -/
structure Settles (g : Grammar σ) (x y : Except Halt (Parser σ)) : Prop where
  eq : x >>= settle = y
  isOpen : ∀ q, x = .ok q → Open g q

namespace Settles

variable {x y : Except Halt (Parser σ)}

theorem of_idle (h : ∀ q, x = .ok q → Idle g q) : Settles g x x := by
  cases x with
  | error e => exact ⟨rfl, by simp⟩
  | ok q => exact ⟨(h q rfl).settle, fun q' hq => (h q' hq).toOpen⟩

theorem bind {f k : Parser σ → Except Halt (Parser σ)}
    (h : ∀ q, x = .ok q → Settles g (f q) (k q)) : Settles g (x >>= f) (x >>= k) := by
  cases x with
  | error e => exact ⟨rfl, by simp [Bind.bind, Except.bind]⟩
  | ok q => exact h q rfl

end Settles

theorem settle_settle (p : Parser σ) (k : Parser σ → Except Halt (Parser σ)) :
    (p.settle >>= fun q => q.settle >>= k) = p.settle >>= k := by
  cases hs : p.settle with
  | error e => rfl
  | ok q =>
    show q.settle >>= k = k q
    rw [settle_of_nothing (settle_pending hs)]
    rfl

namespace Settles

variable {u : Use σ}

theorem use (hp : Open g p) (hu : u.isComplete = true) :
    Settles g (p.settle >>= fun q => q.use u) (p.settle >>= fun q => q.use u) :=
  .bind fun _ hq => .of_idle fun _ hq' => (hp.settle hq).use hu hq'

/-- An option without a value acts on what was settled before. -/
theorem switch (hp : Open g p) (hu : u.isComplete = true) (hvalue : u.value = none) :
    Settles g (p.act u.opt) (p.settle >>= fun q => q.use u) := by
  have hact : p.act u.opt = p.settle >>= fun q => q.use u := by
    simp only [Parser.use, hvalue]
    exact (settle_settle p _).symm
  rw [hact]
  exact .use hp hu

/-- A value that stands apart is the next thing read. -/
theorem apart (hp : Open g p) {value placeholder : String} {preset : Option String}
    {set : String → σ → Except String σ} (hvalue : u.value = some value)
    (haction : u.opt.action = .takeValue placeholder preset set)
    (hplain : isPlainText value = true) :
    Settles g (p.act u.opt >>= fun q => q.steps [.ofText value])
      (p.settle >>= fun q => q.use u) := by
  have hact : p.act u.opt = p.settle >>= fun q => .ok { q with pending := .awaiting u.opt } := by
    simp only [act, haction]
    rfl
  rw [hact, bind_assoc]
  refine .bind fun q hq => ?_
  have hidle := hp.settle hq
  have hsteps : steps { q with pending := .awaiting u.opt } [.ofText value] =
      .ok { q with pending := .given u.opt (.ofText value) } := by
    simp only [steps, List.foldlM_cons, List.foldlM_nil,
      step_plain (p := { q with pending := .awaiting u.opt }) hidle.onlyOperands hplain]
    rfl
  refine ⟨?_, ?_⟩
  · have hq : { q with pending := .nothing } = q := by rw [← hidle.pending]
    simp only [Bind.bind, Except.bind, hsteps, Parser.settle, Parser.use, hvalue, hq]
  · intro q' hq'
    obtain rfl := Except.ok.inj (hsteps.symm.trans hq')
    exact ⟨hidle.grammar, hidle.onlyOperands⟩

end Settles

/-- Wherever among options these arguments stand, they stand for these uses, in order. -/
def Means (g : Grammar σ) (arguments : List Argument) (uses : List (Use σ)) : Prop :=
  ∀ p, Open g p → Settles g (p.steps arguments) (p.settle >>= fun q => uses.foldlM use q)

theorem steps_singleton (p : Parser σ) (a : Argument) : p.steps [a] = p.step a := by
  simp [steps]

namespace Means

variable {arguments others : List Argument} {uses uses' : List (Use σ)} {u : Use σ}

theorem nil (g : Grammar σ) : Means g [] [] := by
  intro p hp
  refine ⟨?_, ?_⟩
  · show p.settle = _
    cases p.settle <;> rfl
  · rintro q hq
    cases hq
    exact hp

theorem append (h : Means g arguments uses) (h' : Means g others uses') :
    Means g (arguments ++ others) (uses ++ uses') := by
  intro p hp
  obtain ⟨heq, hopen⟩ := h p hp
  have hback : Settles g (p.steps arguments >>= fun q => q.steps others)
      (p.steps arguments >>= fun q => q.settle >>= fun q => uses'.foldlM use q) :=
    .bind fun q hq => h' q (hopen q hq)
  rw [← bind_assoc, heq, bind_assoc] at hback
  simpa only [steps_append, List.foldlM_append] using hback

/-- An option by its long name. -/
theorem long {name : String} (hne : name ≠ "") (hsign : '=' ∉ name.toList)
    (hname : g.byLong name = some u.opt) (hu : u.isComplete = true) {spelling : Spelling}
    (htakes : ∀ value, u.value = some value → spelling.takes value = true) :
    Means g ((spelling.textsOf name u.value).map .ofText) [u] := by
  intro p hp
  have hone : (fun q : Parser σ => [u].foldlM Parser.use q) = fun q => q.use u := by
    funext q
    simp
  have hnamed : p.step (.ofText ("--" ++ name)) = p.act u.opt := by
    simp only [step_long hp.onlyOperands hne, Argument.splitEquals_name hsign, Parser.long,
      hp.grammar, Argument.shown_ofText, hname]
  rw [hone]
  rcases Use.isComplete_cases hu with ⟨hvalue, set, haction⟩ | ⟨value, _, _, set, hvalue, haction⟩
  · simp only [hvalue, Spelling.textsOf, List.map_cons, List.map_nil, steps_singleton, hnamed]
    exact .switch hp hu hvalue
  · simp only [hvalue, Spelling.textsOf]
    cases spelling with
    | apart =>
      have hsteps : p.steps ((Spelling.apart.texts name value).map .ofText) =
          p.act u.opt >>= fun q => q.steps [.ofText value] := by
        rw [← hnamed]
        rfl
      rw [hsteps]
      exact .apart hp hvalue haction (htakes value hvalue)
    | attached =>
      have hsplit : "--" ++ name ++ "=" ++ value = "--" ++ (name ++ "=" ++ value) := by
        simp only [String.append_assoc]
      have hsteps : p.steps ((Spelling.attached.texts name value).map .ofText) =
          p.settle >>= fun q => q.use u := by
        simp only [Spelling.texts, List.map_cons, List.map_nil, steps_singleton, hsplit,
          step_long hp.onlyOperands (by simp : name ++ "=" ++ value ≠ ""),
          Argument.splitEquals_attached hsign, Parser.long, hp.grammar, Argument.shown_ofText,
          hname, haction, Parser.use, hvalue]
      rw [hsteps]
      exact .use hp hu

end Means

section Letters

variable {u : Use σ} {c : Char} {rest : Argument}

theorem step_cluster (h : p.onlyOperands = false) (hc : c ≠ '-') :
    p.step (.char '-' :: .char c :: rest) = p.cluster (.char c :: rest) := by
  unfold step
  rw [if_neg (by simp [h])]
  simp [hc]

theorem cluster_switch (hp : p.grammar = g) (hc : g.byShort c = some u.opt)
    (hu : u.isComplete = true) (hvalue : u.value = none) :
    p.cluster (.char c :: rest) = p.act u.opt >>= fun q => q.cluster rest := by
  rcases Use.isComplete_cases hu with ⟨_, set, haction⟩ | ⟨value, _, _, _, hsome, _⟩
  · simp only [cluster, hp, hc, haction]
  · cases hvalue.symm.trans hsome

theorem cluster_last (hp : p.grammar = g) {o : Opt σ} (hc : g.byShort c = some o) :
    p.cluster [.char c] = p.act o := by
  simp only [cluster, hp, hc, List.isEmpty_nil, if_true]
  split
  · rfl
  · cases p.act o <;> rfl

/-- What follows the letter of an option that takes a value is the value. -/
theorem cluster_value (hp : p.grammar = g) (hc : g.byShort c = some u.opt) {value : String}
    (hvalue : u.value = some value) (hu : u.isComplete = true) (hne : rest ≠ [])
    (hrest : Argument.afterEquals rest = .ofText value) :
    p.cluster (.char c :: rest) = p.settle >>= fun q => q.use u := by
  rcases Use.isComplete_cases hu with ⟨hnone, _⟩ | ⟨_, _, _, _, _, haction⟩
  · cases hnone.symm.trans hvalue
  · simp only [cluster, hp, hc, haction, List.isEmpty_iff, hne, if_false, hrest, Parser.use, hvalue]

/-- Switches in front of other letters are used one after the other. -/
theorem Settles.switches {letters : List Char} (hletters : g.AreSwitches letters)
    {k last : Parser σ → Except Halt (Parser σ)}
    (hrest : ∀ p, Open g p → Settles g (p.cluster rest >>= k) (p.settle >>= last))
    (hp : Open g p) : Settles g (p.cluster (letters.map .char ++ rest) >>= k)
      (p.settle >>= fun q =>
        ((letters.filterMap g.byShort).map Use.switch).foldlM Parser.use q >>= last) := by
  induction letters generalizing p with
  | nil => simpa using hrest p hp
  | cons c letters ih =>
    obtain ⟨⟨_, o, hc, ho⟩, hletters⟩ := List.forall_mem_cons.mp hletters
    have hact : p.act o = p.settle >>= fun q => q.use (.switch o) := (settle_settle p _).symm
    rw [List.map_cons, List.cons_append, cluster_switch hp.grammar hc ho rfl]
    simp only [List.filterMap_cons_some hc, List.map_cons, List.foldlM_cons, Use.switch, hact,
      bind_assoc]
    refine .bind fun q hq => .bind fun q' hq' => ?_
    have hidle : Idle g q' := (hp.settle hq).use ho hq'
    have hmore := ih hletters hidle.toOpen
    rwa [hidle.settle] at hmore

/-- One argument of letters, with what is read behind it. -/
theorem Settles.letters {letters : List Char} (hletters : g.AreSwitches letters) (hdash : c ≠ '-')
    {k : Parser σ → Except Halt (Parser σ)}
    (hlast : ∀ p, Open g p →
      Settles g (p.cluster (.char c :: rest) >>= k) (p.settle >>= fun q => q.use u))
    (hp : Open g p) :
    Settles g (p.step (.char '-' :: (letters.map .char ++ .char c :: rest)) >>= k)
      (p.settle >>= fun q =>
        ((letters.filterMap g.byShort).map Use.switch ++ [u]).foldlM Parser.use q) := by
  have hstep : p.step (.char '-' :: (letters.map .char ++ .char c :: rest)) =
      p.cluster (letters.map .char ++ .char c :: rest) := by
    cases letters with
    | nil => exact step_cluster hp.onlyOperands hdash
    | cons d letters => exact step_cluster hp.onlyOperands (hletters d List.mem_cons_self).1
  rw [hstep]
  simpa only [List.foldlM_append, List.foldlM_cons, List.foldlM_nil, bind_pure] using
    Settles.switches hletters hlast hp

/-- The value is part of the argument. -/
theorem Means.valued {letters : List Char} (hletters : g.AreSwitches letters) (hdash : c ≠ '-')
    (hc : g.byShort c = some u.opt) (hu : u.isComplete = true) {value tail : String}
    (hvalue : u.value = some value) (hne : tail ≠ "")
    (htail : Argument.afterEquals (.ofText tail) = .ofText value) :
    Means g [.ofText ("-" ++ String.ofList (letters ++ [c]) ++ tail)]
      ((letters.filterMap g.byShort).map Use.switch ++ [u]) := by
  intro p hp
  have hrest : Argument.ofText tail ≠ [] := by simpa [Argument.ofText] using hne
  rw [steps_singleton, Argument.ofText_letters, ← bind_pure (p.step _)]
  refine .letters hletters hdash (fun q hq => ?_) hp
  rw [bind_pure, cluster_value hq.grammar hc hvalue hu hrest htail]
  exact .use hq hu

end Letters

namespace Means

/-- An option by its letter, with switches in front of it. -/
theorem short {letters : List Char} (hletters : g.AreSwitches letters) {c : Char} (hdash : c ≠ '-')
    {u : Use σ} (hc : g.byShort c = some u.opt) (hu : u.isComplete = true)
    {spelling : ShortSpelling}
    (htakes : ∀ value, u.value = some value → spelling.takes value = true) :
    Means g ((spelling.textsOf (String.ofList (letters ++ [c])) u.value).map .ofText)
      ((letters.filterMap g.byShort).map Use.switch ++ [u]) := by
  have halone : Argument.ofText ("-" ++ String.ofList (letters ++ [c])) =
      .char '-' :: (letters.map .char ++ [.char c]) := by
    simp [Argument.ofText]
  rcases Use.isComplete_cases hu with ⟨hvalue, _⟩ | ⟨value, _, _, _, hvalue, haction⟩
  · intro p hp
    simp only [hvalue, ShortSpelling.textsOf, List.map_cons, List.map_nil]
    rw [steps_singleton, halone, ← bind_pure (p.step _)]
    refine .letters hletters hdash (fun q hq => ?_) hp
    rw [bind_pure, cluster_last hq.grammar hc]
    exact .switch hq hu hvalue
  · have htakes := htakes value hvalue
    rw [hvalue]
    cases spelling with
    | apart =>
      intro p hp
      have hsteps : p.steps [.ofText ("-" ++ String.ofList (letters ++ [c])), .ofText value] =
          p.step (.ofText ("-" ++ String.ofList (letters ++ [c]))) >>=
            fun q => q.steps [.ofText value] := rfl
      simp only [ShortSpelling.textsOf, List.map_cons, List.map_nil]
      rw [hsteps, halone]
      refine .letters hletters hdash (fun q hq => ?_) hp
      rw [cluster_last hq.grammar hc]
      exact .apart hq hvalue haction htakes
    | glued =>
      simp only [ShortSpelling.takes, Bool.and_eq_true, bne_iff_ne, ne_eq] at htakes
      exact .valued hletters hdash hc hu hvalue htakes.1 (Argument.afterEquals_ofText htakes.2)
    | attached =>
      have hsplit : "-" ++ String.ofList (letters ++ [c]) ++ "=" ++ value =
          "-" ++ String.ofList (letters ++ [c]) ++ ("=" ++ value) := String.append_assoc ..
      simp only [ShortSpelling.textsOf, List.map_cons, List.map_nil, hsplit]
      exact .valued hletters hdash hc hu hvalue (by simp) (Argument.afterEquals_sign value)

/-- Groups of arguments mean what each of them means. -/
theorem flatMap {α : Type} {texts : α → List Argument} {meant : α → List (Use σ)} {words : List α}
    (h : ∀ w ∈ words, Means g (texts w) (meant w)) :
    Means g (words.flatMap texts) (words.flatMap meant) := by
  induction words with
  | nil => exact .nil g
  | cons w words ih =>
    rw [List.forall_mem_cons] at h
    exact h.1.append (ih h.2)

end Means

/-- Arguments that stand for uses ask for what using these in order comes to. -/
theorem Means.request {arguments : List Argument} {uses : List (Use σ)}
    (h : Means g arguments uses) : g.request arguments =
      match uses.foldlM use (start g) with
      | .ok p => .run p.settings
      | .error .help => .help
      | .error .version => .version
      | .error (.refused e) => .refused e := by
  have hsteps := (h (start g) ⟨rfl, rfl⟩).eq
  have hstart : (start g).settle = .ok (start g) := rfl
  rw [hstart] at hsteps
  rw [Grammar.request, hsteps]
  rfl

namespace Rests

variable {only : Bool} {s : σ} {named : List String}

/-- A switch that is named for the first time is set. -/
theorem switch (h : Rests g only s named p) {o : Opt σ} {set : σ → σ}
    (haction : o.action = .switch set) (hfirst : o.long ∉ named) :
    ∃ q, p.use (.switch o) = .ok q ∧ Rests g only (set s) (o.long :: named) q := by
  refine ⟨{ p with settings := set p.settings }.mention (.option o.long), ?_, h.grammar,
    h.onlyOperands, h.pending, congrArg set h.settings, ?_⟩
  · simp only [Parser.use, Use.switch, act, h.settle, haction, h.checkFirst hfirst, Bind.bind,
      Except.bind]
    rfl
  · intro long
    rw [mem_mentions_mention, h.mentions, List.mem_cons, Mention.option.injEq]
    exact or_comm

/-- An option that was named before is refused. -/
theorem repeated (h : Rests g only s named p) {u : Use σ} (hu : u.isComplete = true)
    (hagain : u.opt.long ∈ named) : p.use u = refuse (.repeated u.opt.shown) := by
  have hcheck : p.checkFirst u.opt = refuse (.repeated u.opt.shown) := by
    rw [Parser.checkFirst, if_pos]
    rwa [h.mentions]
  unfold Parser.use
  rcases Use.isComplete_cases hu with ⟨hvalue, set, haction⟩ | ⟨value, _, _, _, hvalue, _⟩
  · simp only [hvalue, act, h.settle, haction, hcheck, Bind.bind, Except.bind]
    rfl
  · simp only [hvalue, Parser.setValue, hcheck, Bind.bind, Except.bind]
    rfl

end Rests

end Parser

end UdpBench
