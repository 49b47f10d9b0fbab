import Mathlib.Data.Fin.VecNotation
import Mathlib.Data.List.Basic
import Mathlib.Logic.Function.Basic
import UdpBench.Proofs.Shuffle
import UdpBench.Proofs.Verdicts

namespace UdpBench

/-- One who sends texts to a target, until there are no more or one of them fails. -/
structure Caller where
  target : Address
  sent : List String
  left : List String
  failure : Option Error

namespace Caller

def start (target : Address) (texts : List String) : Caller := ⟨target, [], texts, none⟩

/-- What its series came to, once that is over. -/
def result? (c : Caller) : Option (Except Error Nat) :=
  match c.failure, c.left with
  | some e, _ => some (.error e)
  | none, [] => some (.ok c.sent.length)
  | none, _ :: _ => none

/-- Sends the next text, unless the series is over. -/
def step (c : Caller) (net : Network) (choice : Port) : Caller × Network :=
  match c.failure, c.left with
  | none, text :: left =>
    let attempt := Sender.send net c.target text choice
    match attempt.result with
    | .ok _ => ({ c with sent := c.sent ++ [text], left }, attempt.net)
    | .error e => ({ c with failure := some e }, attempt.net)
  | _, _ => (c, net)

/-- All that a step can do. -/
inductive Steps (c : Caller) (net : Network) (choice : Port) : Caller × Network → Prop
  | done (finished : c.result?.isSome = true) : Steps c net choice (c, net)
  | sent {text : String} {left : List String} {n : Nat} (going : c.failure = none)
    (next : c.left = text :: left)
    (accepted : (Sender.send net c.target text choice).result = .ok n) :
    Steps c net choice ({ c with sent := c.sent ++ [text], left },
      (Sender.send net c.target text choice).net)
  | failed {text : String} {left : List String} {e : Error} (going : c.failure = none)
    (next : c.left = text :: left)
    (refused : (Sender.send net c.target text choice).result = .error e) :
    Steps c net choice ({ c with failure := some e }, net)

theorem step_steps (c : Caller) (net : Network) (choice : Port) :
    c.Steps net choice (c.step net choice) := by
  obtain ⟨target, sent, left, failure⟩ := c
  cases failure with
  | some e => exact .done rfl
  | none =>
    cases left with
    | nil => exact .done rfl
    | cons text left =>
      cases hr : (Sender.send net target text choice).result with
      | ok n =>
        simp only [step, hr]
        exact .sent rfl rfl hr
      | error e =>
        simp only [step, hr, (Sender.attempt ..).failed hr]
        exact .failed rfl rfl hr

/-- A step sends the next text or nothing. -/
theorem step_sends {net : Network} (hs : net.Sound) (c : Caller) (choice : Port) :
    (c.step net choice).1.target = c.target ∧ ∃ texts,
      (c.step net choice).1.sent = c.sent ++ texts ∧
        net.Carries (texts.map (Sender.emission c.target choice)) (c.step net choice).2 := by
  have hsteps := c.step_steps net choice
  generalize c.step net choice = stepped at hsteps ⊢
  cases hsteps with
  | done | failed => exact ⟨rfl, [], (List.append_nil _).symm, .refl net⟩
  | @sent text _ _ _ _ accepted =>
    exact ⟨rfl, [text], rfl, ((Sender.attempt ..).succeeded hs accepted).2⟩

/-- How far a caller is with its texts after some turns. -/
structure Keeps (target : Address) (texts : List String) (verdict : String → Except Error Nat)
    (turns : Nat) (c : Caller) : Prop where
  target : c.target = target
  split : texts = c.sent ++ c.left
  good : ∀ text ∈ c.sent, (verdict text).isOk = true
  stopped : ∀ e, c.failure = some e → ∃ bad rest, c.left = bad :: rest ∧ verdict bad = .error e
  pace : c.result? = none → c.sent.length = turns

namespace Keeps

variable {target : Address} {texts : List String} {verdict : String → Except Error Nat}
  {turns : Nat} {c : Caller}

theorem start : Keeps target texts verdict 0 (.start target texts) :=
  ⟨rfl, rfl, by simp [Caller.start], by simp [Caller.start], fun _ => rfl⟩

theorem step (h : Keeps target texts verdict turns c) {net now : Network}
    (hv : Sender.Judges net target verdict) (halike : net.Alike now) {choice : Port}
    (hc : net.Chooses target.unspecifiedLike choice) :
    Keeps target texts verdict (turns + 1) (c.step now choice).1 := by
  have hsteps := c.step_steps now choice
  generalize c.step now choice = stepped at hsteps
  cases hsteps with
  | done finished =>
    refine ⟨h.target, h.split, h.good, h.stopped, ?_⟩
    intro hgoing
    rw [hgoing] at finished
    cases finished
  | @sent text left n going next accepted =>
    rw [h.target, hv now choice text halike hc] at accepted
    refine ⟨h.target, ?_, ?_, ?_, ?_⟩
    · rw [h.split, next]
      simp
    · intro t ht
      rcases List.mem_append.mp ht with ht | ht
      · exact h.good t ht
      · rw [List.mem_singleton.mp ht, accepted]
        rfl
    · intro e he
      rw [going] at he
      cases he
    · intro _
      have hgoing : c.result? = none := by simp [result?, going, next]
      simp [h.pace hgoing]
  | @failed text left e going next refused =>
    rw [h.target, hv now choice text halike hc] at refused
    refine ⟨h.target, h.split, h.good, ?_, ?_⟩
    · rintro _ ⟨⟩
      exact ⟨text, left, next, refused⟩
    · intro hgoing
      cases hgoing

/-- What a caller has sent is what it would send by itself, as far as it is. -/
theorem isPrefix (h : Keeps target texts verdict turns c) :
    c.sent <+: texts.takeWhile fun text => (verdict text).isOk := by
  rw [h.split, List.takeWhile_append_of_pos h.good]
  exact List.prefix_append ..

/-- It ends like by itself. -/
theorem ends (h : Keeps target texts verdict turns c) {r : Except Error Nat}
    (hr : c.result? = some r) : r = Sender.outcome verdict texts ∧
      c.sent = texts.takeWhile fun text => (verdict text).isOk := by
  rw [h.split, Sender.outcome_append h.good, List.takeWhile_append_of_pos h.good]
  cases hf : c.failure with
  | some e =>
    obtain ⟨bad, rest, hleft, hbad⟩ := h.stopped e hf
    simp only [result?, hf, Option.some.injEq] at hr
    subst hr
    simp [hleft, Sender.outcome, hbad, Except.map, Except.isOk, Except.toBool]
  | none =>
    cases hl : c.left with
    | nil =>
      simp only [result?, hf, hl, Option.some.injEq] at hr
      subst hr
      simp [Sender.outcome, Except.map]
    | cons text left =>
      simp only [result?, hf, hl] at hr
      cases hr

/-- With a turn for each text its series is over. -/
theorem isSome_result? (h : Keeps target texts verdict turns c) (hturns : texts.length ≤ turns) :
    c.result?.isSome = true := by
  cases hr : c.result? with
  | some r => rfl
  | none =>
    have hlength := congrArg List.length h.split
    rw [List.length_append, h.pace hr] at hlength
    have hleft : c.left = [] := List.eq_nil_of_length_eq_zero (by omega)
    cases hf : c.failure <;> simp [result?, hf, hleft] at hr

end Keeps

end Caller

/-- Callers who take turns on one host. -/
structure Crowd (ι : Type) where
  net : Network
  callers : ι → Caller

namespace Crowd

variable {ι : Type} [DecidableEq ι]

def start (net : Network) (target : ι → Address) (texts : ι → List String) : Crowd ι :=
  ⟨net, fun i => .start (target i) (texts i)⟩

/-- One caller's turn, with the port that the system would choose for it. -/
def turn (x : Crowd ι) (e : ι × Port) : Crowd ι :=
  let (c, net) := (x.callers e.1).step x.net e.2
  ⟨net, Function.update x.callers e.1 c⟩

def after (x : Crowd ι) (turns : List (ι × Port)) : Crowd ι := turns.foldl turn x

/-- Where a host and its callers stand after turns in which some texts were sent. -/
structure Stands (net : Network) (target : ι → Address) (log : List (ι × Port × String))
    (x : Crowd ι) : Prop where
  carries : net.Carries (log.map fun e => Sender.emission (target e.1) e.2.1 e.2.2) x.net
  targets : ∀ i, (x.callers i).target = target i
  logged : ∀ i, (sentBy i log).map Prod.snd = (x.callers i).sent

namespace Stands

variable {net : Network} {target : ι → Address} {log : List (ι × Port × String)} {x : Crowd ι}

theorem start (net : Network) (target : ι → Address) (texts : ι → List String) :
    Stands net target [] (.start net target texts) :=
  ⟨.refl net, fun _ => rfl, fun _ => rfl⟩

theorem turn (hs : net.Sound) (h : Stands net target log x) (e : ι × Port) :
    ∃ more, Stands net target (log ++ more) (x.turn e) := by
  obtain ⟨i, choice⟩ := e
  obtain ⟨htarget, texts, hsent, hcarries⟩ :=
    (x.callers i).step_sends (hs.carries h.carries) choice
  unfold Crowd.turn
  generalize (x.callers i).step x.net choice = stepped at htarget hsent hcarries ⊢
  refine ⟨texts.map fun text => (i, choice, text), ?_, ?_, ?_⟩
  · rw [h.targets i] at hcarries
    rw [List.map_append, List.map_map]
    exact h.carries.trans hcarries
  · intro j
    by_cases hj : j = i
    · subst hj
      simpa [htarget] using h.targets j
    · simpa [hj] using h.targets j
  · intro j
    have htagged := sentBy_tagged i j (texts.map (Prod.mk choice))
    rw [List.map_map, Function.comp_def] at htagged
    rw [sentBy_append, List.map_append, h.logged j, htagged]
    by_cases hj : j = i
    · subst hj
      simp [hsent, Function.comp_def]
    · simp [hj]

theorem after (hs : net.Sound) (h : Stands net target log x) (turns : List (ι × Port)) :
    ∃ more, Stands net target (log ++ more) (x.after turns) := by
  induction turns generalizing x log with
  | nil =>
    refine ⟨[], ?_⟩
    rw [List.append_nil]
    exact h
  | cons e turns ih =>
    obtain ⟨more, hturn⟩ := h.turn hs e
    obtain ⟨rest, hafter⟩ := ih hturn
    refine ⟨more ++ rest, ?_⟩
    rw [← List.append_assoc]
    exact hafter

/-- What a socket got is a shuffle of what the callers sent that reach it. -/
theorem shuffled (h : Stands net target log x) (hup : net.loopback = .up) {own : Address}
    (hown : own ∈ net.addresses) : ∃ got, x.net.queueOf own = net.queueOf own ++ got ∧
      IsShuffle (fun i => if (target i).selects own then
        (x.callers i).sent.map fun text => utf8 text.toList else []) (got.map Datagram.bytes) := by
  refine ⟨_, h.carries.queueOf own hown, ?_⟩
  have hbytes : (net.shown own (log.map fun e =>
      Sender.emission (target e.1) e.2.1 e.2.2)).map Datagram.bytes =
        (log.filter fun e => (target e.1).selects own).map fun e => utf8 e.2.2.toList := by
    rw [Network.shown_of_up hup, List.filterMap_map, List.map_filterMap, ← List.filterMap_eq_map,
      List.filterMap_filter]
    apply List.filterMap_congr
    intro e he
    exact Sender.map_bytes_shownAt_emission
      (h.carries.routed hup _ (List.mem_map.mpr ⟨e, he, rfl⟩)) own
  have hlists : (fun i => if (target i).selects own then
      (x.callers i).sent.map fun text => utf8 text.toList else []) =
        fun i => if (target i).selects own then
          (sentBy i log).map fun e => utf8 e.2.toList else [] := by
    funext i
    rw [← h.logged i, List.map_map]
    rfl
  rw [hbytes, hlists]
  exact isShuffle_filter (fun i => (target i).selects own) (fun e => utf8 e.2.toList) log

/-- Others' turns do not change how far a caller is. -/
theorem keeps (h : Stands net target log x) (hs : net.Sound) {i : ι} {texts : List String}
    {verdict : String → Except Error Nat} (hv : Sender.Judges net (target i) verdict)
    {turns : List (ι × Port)} (hports : ∀ e ∈ turns, net.Chooses (target e.1).unspecifiedLike e.2)
    {n : Nat} (hk : Caller.Keeps (target i) texts verdict n (x.callers i)) :
    Caller.Keeps (target i) texts verdict (n + (turns.map Prod.fst).count i)
      ((x.after turns).callers i) := by
  induction turns generalizing x log n with
  | nil => exact hk
  | cons e turns ih =>
    obtain ⟨more, hturn⟩ := h.turn hs e
    have hrest := fun e' he' => hports e' (List.mem_cons_of_mem _ he')
    rw [List.map_cons, List.count_cons, Nat.add_comm _ (ite ..), ← Nat.add_assoc]
    apply ih hturn hrest
    by_cases hi : e.1 = i
    · subst hi
      simpa [Crowd.turn] using hk.step hv h.carries.alike (hports e List.mem_cons_self)
    · simpa [Crowd.turn, hi, Ne.symm hi] using hk

end Stands

/-- Callers who take turns in any order do not notice each other: each sends what it would send
alone, and ends alike. What a socket gets is a shuffle of what those sent who reach it. -/
theorem callers_send_as_if_alone {net : Network} (hs : net.Sound) (hup : net.loopback = .up)
    {target : ι → Address} {turns : List (ι × Port)}
    (hports : ∀ e ∈ turns, net.Chooses (target e.1).unspecifiedLike e.2)
    (texts : ι → List String) :
    let x := (start net target texts).after turns
    (∀ i choices, (∀ k, net.Chooses (target i).unspecifiedLike (choices k)) →
      let accepted := Sender.accepted (target i) choices net (texts i)
      (x.callers i).sent <+: accepted ∧
        (∀ r, (x.callers i).result? = some r → (x.callers i).sent = accepted ∧
          r = (Sender.sendAll (target i) choices net (texts i)).result) ∧
        ((texts i).length ≤ (turns.map Prod.fst).count i → (x.callers i).result?.isSome = true)) ∧
    net.Alike x.net ∧
    ∀ own ∈ net.addresses, ∃ got, x.net.queueOf own = net.queueOf own ++ got ∧
      IsShuffle (fun i => if (target i).selects own then
        (x.callers i).sent.map fun text => utf8 text.toList else []) (got.map Datagram.bytes) := by
  have hstart := Stands.start net target texts
  obtain ⟨log, hstands⟩ := hstart.after hs turns
  refine ⟨?_, hstands.carries.alike, fun own hown => hstands.shuffled hup hown⟩
  intro i choices hchoices accepted
  have hv := Sender.judges_send (hchoices 0)
  obtain ⟨hacc, hresult⟩ := hv.sendAll hs ⟨rfl, rfl⟩ hchoices (texts i)
  have hk := hstart.keeps hs hv hports Caller.Keeps.start
  rw [Nat.zero_add] at hk
  have hfront := hk.isPrefix
  rw [← hacc] at hfront
  refine ⟨hfront, ?_, hk.isSome_result?⟩
  intro r hr
  obtain ⟨hr, hsent⟩ := hk.ends hr
  exact ⟨hsent.trans hacc.symm, hr.trans hresult.symm⟩

/-- Three callers, one of whom stops at its second text. Two of them reach the same socket. -/
theorem callers_send_as_if_alone_three :
    let near : Address := .v4 .localhost 26001
    let far : Address := .v6 .unspecified 26002 0
    let net : Network := ⟨.up, [⟨near, []⟩, ⟨far, []⟩]⟩
    let target : Fin 3 → Address := ![near, .v4 .unspecified 26001, .v4 .localhost 26002]
    let texts : Fin 3 → List String := ![["a", "b"], ["c", "é", "d"], ["e"]]
    let turns : List (Fin 3 × Port) :=
      [(0, 40000), (1, 40000), (2, 40001), (1, 40000), (0, 40002), (1, 40000)]
    let x := (start net target texts).after turns
    let alone := Sender.sendAll (target 1) (fun _ => 40000) net (texts 1)
    (x.callers 1).result? = some alone.result ∧ (x.callers 1).sent = ["c"] ∧
      ∃ got, x.net.queueOf near = net.queueOf near ++ got ∧
        IsShuffle (fun i => if (target i).selects near then
          (x.callers i).sent.map fun text => utf8 text.toList else [])
            (got.map Datagram.bytes) := by
  intro near far net target texts turns
  have hsound : net.Sound := by
    refine ⟨?_, by decide +kernel⟩
    unfold Network.Exclusive
    decide +kernel
  have hfree : ((1, 40000) :: turns).all (fun e => isEphemeral e.2.toNat &&
      net.isFree (Network.assigned (target e.1).unspecifiedLike e.2)) = true := by decide +kernel
  have hports : ∀ e ∈ (1, 40000) :: turns, net.Chooses (target e.1).unspecifiedLike e.2 := by
    intro e he
    obtain ⟨hsystem, hopen⟩ := Bool.and_eq_true_iff.mp (List.all_eq_true.mp hfree e he)
    exact Network.chooses_of_free hsystem hopen
  have hall := callers_send_as_if_alone hsound rfl
    (fun e he => hports e (List.mem_cons_of_mem _ he)) texts
  -- Nothing has to be known of the run itself.
  generalize (start net target texts).after turns = x at hall ⊢
  intro x alone
  obtain ⟨hcallers, _, hqueues⟩ := hall
  have hchoices : Nat → net.Chooses (target 1).unspecifiedLike 40000 :=
    fun _ => hports (1, 40000) List.mem_cons_self
  obtain ⟨_, hresult, hover⟩ := hcallers 1 (fun _ => 40000) hchoices
  obtain ⟨r, hr⟩ := Option.isSome_iff_exists.mp (hover (by decide +kernel))
  obtain ⟨hsent, halone⟩ := hresult r hr
  have haccepted : Sender.accepted (target 1) (fun _ => 40000) net (texts 1) = ["c"] := by
    decide +kernel
  exact ⟨hr.trans (congrArg some halone), hsent.trans haccepted, hqueues near (by decide +kernel)⟩

end Crowd

end UdpBench
