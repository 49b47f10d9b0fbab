import UdpBench.Proofs.Transmission

namespace UdpBench

/-- A series of sends that goes on after a first part, unless that part failed. It counts on from
what was sent before. -/
def Outcome.andThen (first : Outcome Nat) (others : Nat → Network → Outcome Nat) : Outcome Nat :=
  match first.result with
  | .error _ => first
  | .ok k =>
    let second := others k first.net
    ⟨second.result.map (k + ·), second.net, first.events ++ second.events⟩

namespace Outcome

variable {first : Outcome Nat} {others : Nat → Network → Outcome Nat}

theorem andThen_of_error {e : Error} (h : first.result = .error e) :
    first.andThen others = first := by
  simp only [andThen, h]

theorem andThen_of_ok {k : Nat} (h : first.result = .ok k) :
    first.andThen others = ⟨(others k first.net).result.map (k + ·), (others k first.net).net,
      first.events ++ (others k first.net).events⟩ := by
  simp only [andThen, h]

theorem nothing_andThen (net : Network) : andThen ⟨.ok 0, net, []⟩ others = others 0 net := by
  rw [andThen_of_ok rfl]
  generalize others 0 net = second
  obtain ⟨_ | m, after, events⟩ := second <;> simp [Except.map]

theorem andThen_result_eq_ok {n : Nat} : (first.andThen others).result = .ok n ↔
    ∃ k m, first.result = .ok k ∧ (others k first.net).result = .ok m ∧ n = k + m := by
  cases hfirst : first.result with
  | error e => simp [andThen_of_error hfirst, hfirst]
  | ok k =>
    rw [andThen_of_ok hfirst]
    cases hothers : (others k first.net).result with
    | error e => simp [hothers, Except.map]
    | ok m => simp [hothers, Except.map, eq_comm]

end Outcome

namespace Sender

variable {net : Network} {target : Address} {choices : Nat → Port}

/-- What is left of the choices after a first one and some others. -/
theorem choices_after_cons (choices : Nat → Port) (k : Nat) :
    (fun j => choices (k + 1 + j)) = fun j => choices (k + j + 1) := by
  funext j
  rw [Nat.add_right_comm]

theorem sendAll_cons_of_error (choices : Nat → Port) {text : String} {e : Error}
    (h : (send net target text (choices 0)).result = .error e) (texts : List String) :
    sendAll target choices net (text :: texts) =
      ⟨.error e, net, (send net target text (choices 0)).events⟩ := by
  simp only [sendAll, h, (attempt net target text (choices 0)).failed h]

theorem sendAll_cons_of_ok (choices : Nat → Port) {text : String} {n : Nat}
    (h : (send net target text (choices 0)).result = .ok n) (texts : List String) :
    let first := send net target text (choices 0)
    let others := sendAll target (fun j => choices (j + 1)) first.net texts
    sendAll target choices net (text :: texts) =
      ⟨others.result.map (· + 1), others.net, first.events ++ others.events⟩ := by
  simp only [sendAll, h]

/-- Texts in two parts are sent part by part. -/
theorem sendAll_append (target : Address) (choices : Nat → Port) (net : Network)
    (xs ys : List String) : sendAll target choices net (xs ++ ys) =
      (sendAll target choices net xs).andThen fun k after =>
        sendAll target (fun j => choices (k + j)) after ys := by
  induction xs generalizing choices net with
  | nil =>
    rw [List.nil_append, sendAll, Outcome.nothing_andThen]
    simp only [Nat.zero_add]
  | cons text xs ih =>
    cases hr : (send net target text (choices 0)).result with
    | error e =>
      rw [List.cons_append, sendAll_cons_of_error _ hr, sendAll_cons_of_error _ hr,
        Outcome.andThen_of_error rfl]
    | ok n =>
      rw [List.cons_append, sendAll_cons_of_ok _ hr, sendAll_cons_of_ok _ hr, ih]
      generalize sendAll target (fun j => choices (j + 1)) (send net target text (choices 0)).net xs
        = front
      cases hfront : front.result with
      | error e => simp [Outcome.andThen, hfront, Except.map]
      | ok k =>
        simp only [Outcome.andThen, hfront, Except.map, choices_after_cons, List.append_assoc]
        generalize sendAll target (fun j => choices (k + j + 1)) front.net ys = back
        cases back.result with
        | error e => rfl
        | ok m => simp only [Nat.add_right_comm]

/-- A series comes to a text that fails, after all those in front of it were sent. -/
structure FailsAt (net : Network) (target : Address) (choices : Nat → Port) (done : List String)
    (bad : String) (e : Error) : Prop where
  before : (sendAll target choices net done).result = .ok done.length
  failed : (send (sendAll target choices net done).net target bad
    (choices done.length)).result = .error e

/-- What would have followed has no part in a series that fails. -/
theorem FailsAt.sendAll {done : List String} {bad : String} {e : Error}
    (h : FailsAt net target choices done bad e) (rest : List String) :
    let before := Sender.sendAll target choices net done
    Sender.sendAll target choices net (done ++ bad :: rest) = ⟨.error e, before.net,
      before.events ++ (send before.net target bad (choices done.length)).events⟩ := by
  intro before
  rw [sendAll_append, Outcome.andThen_of_ok h.before,
    sendAll_cons_of_error (fun j => choices (done.length + j)) h.failed]
  rfl

/-- A series fails with the error of the first text that does. -/
theorem sendAll_eq_error_iff {texts : List String} {e : Error} :
    (sendAll target choices net texts).result = .error e ↔
      ∃ done bad rest, texts = done ++ bad :: rest ∧ FailsAt net target choices done bad e := by
  constructor
  · intro h
    obtain ⟨done, bad, rest, htexts, -, hdone, -, hbad⟩ := sendAll_eq_error h
    exact ⟨done, bad, rest, htexts, hdone, hbad⟩
  · rintro ⟨done, bad, rest, rfl, h⟩
    rw [h.sendAll rest]

/-- A series ends well if each of its texts is sent when its turn has come. -/
theorem sendAll_eq_ok_iff {texts : List String} {n : Nat} :
    (sendAll target choices net texts).result = .ok n ↔ n = texts.length ∧
      ∀ front text back, texts = front ++ text :: back → ∃ m,
        (send (sendAll target choices net front).net target text
          (choices front.length)).result = .ok m := by
  constructor
  · intro h
    refine ⟨(sendAll_eq_ok h).1, ?_⟩
    rintro front text back rfl
    have hfront := h
    rw [sendAll_append, Outcome.andThen_result_eq_ok] at hfront
    obtain ⟨k, -, hk, -, -⟩ := hfront
    obtain ⟨rfl, -⟩ := sendAll_eq_ok hk
    cases hr : (send (sendAll target choices net front).net target text
      (choices front.length)).result with
    | ok m => exact ⟨m, rfl⟩
    | error e =>
      have hfails : FailsAt net target choices front text e := ⟨hk, hr⟩
      rw [hfails.sendAll back] at h
      cases h
  · rintro ⟨rfl, hall⟩
    cases hr : (sendAll target choices net texts).result with
    | ok m => rw [(sendAll_eq_ok hr).1]
    | error e =>
      obtain ⟨done, bad, rest, htexts, h⟩ := sendAll_eq_error_iff.mp hr
      obtain ⟨m, hm⟩ := hall done bad rest htexts
      cases hm.symm.trans h.failed

/-- A series that ends well has delivered its texts. -/
theorem delivered_of_sendAll (hs : net.Sound) {texts : List String} {n : Nat}
    (h : (sendAll target choices net texts).result = .ok n) :
    Delivered net target texts (sendAll target choices net texts).net := by
  have hc := sendAll_carries target choices hs texts
  rw [(sendAll_eq_ok h).2] at hc
  cases texts with
  | nil => exact delivered_nil hs.exclusive
  | cons text texts =>
    obtain ⟨m, hm⟩ := (sendAll_eq_ok_iff.mp h).2 [] text texts rfl
    exact delivered_of_carries hs.exclusive (delivered_of_send hs hm).1 hc

/-! Texts are not all there from the start. They are taken one at a time from what makes them. -/

/-- What a supply of texts gives when it is asked several times in a row. -/
inductive Yields {σ : Type} (next : σ → Option (String × σ)) : σ → List String → σ → Prop
  | nil (s : σ) : Yields next s [] s
  | cons {s mid s' : σ} {text : String} {texts : List String} (asked : next s = some (text, mid))
      (others : Yields next mid texts s') : Yields next s (text :: texts) s'

theorem Yields.last {σ : Type} {next : σ → Option (String × σ)} {s s' : σ} {texts : List String}
    {text : String} (h : Yields next s (texts ++ [text]) s') :
    ∃ mid, Yields next s texts mid ∧ next mid = some (text, s') := by
  induction texts generalizing s with
  | nil =>
    obtain - | ⟨asked, ⟨⟩⟩ := h
    exact ⟨s, .nil s, asked⟩
  | cons _ texts ih =>
    obtain - | ⟨asked, others⟩ := h
    obtain ⟨mid, htexts, hlast⟩ := ih others
    exact ⟨mid, .cons asked htexts, hlast⟩

/-- How texts are sent while they are taken from a supply, and what is left of that. -/
inductive Draws {σ : Type} (next : σ → Option (String × σ)) (target : Address) :
    (Nat → Port) → Network → σ → Outcome Nat → σ → Prop
  | exhausted {choices : Nat → Port} {net : Network} {s : σ} (asked : next s = none) :
      Draws next target choices net s ⟨.ok 0, net, []⟩ s
  | failed {choices : Nat → Port} {net : Network} {s s' : σ} {text : String} {e : Error}
      (asked : next s = some (text, s'))
      (refused : (send net target text (choices 0)).result = .error e) :
      Draws next target choices net s ⟨.error e, (send net target text (choices 0)).net,
        (send net target text (choices 0)).events⟩ s'
  | sent {choices : Nat → Port} {net : Network} {s mid s' : σ} {text : String} {n : Nat}
      {others : Outcome Nat} (asked : next s = some (text, mid))
      (accepted : (send net target text (choices 0)).result = .ok n)
      (went : Draws next target (fun j => choices (j + 1))
        (send net target text (choices 0)).net mid others s') :
      Draws next target choices net s ⟨others.result.map (· + 1), others.net,
        (send net target text (choices 0)).events ++ others.events⟩ s'

namespace Draws

variable {σ : Type} {next : σ → Option (String × σ)} {s mid s' s'' : σ} {o o' : Outcome Nat}

theorem unique (h : Draws next target choices net s o s')
    (h' : Draws next target choices net s o' s'') : o' = o ∧ s'' = s' := by
  induction h generalizing o' s'' with
  | exhausted asked =>
    cases h' with
    | exhausted => exact ⟨rfl, rfl⟩
    | failed asked' | sent asked' => cases asked.symm.trans asked'
  | failed asked refused =>
    cases h' with
    | exhausted asked' => cases asked.symm.trans asked'
    | failed asked' refused' =>
      cases asked.symm.trans asked'
      cases refused.symm.trans refused'
      exact ⟨rfl, rfl⟩
    | sent asked' accepted' =>
      cases asked.symm.trans asked'
      cases refused.symm.trans accepted'
  | sent asked accepted _ ih =>
    cases h' with
    | exhausted asked' => cases asked.symm.trans asked'
    | failed asked' refused' =>
      cases asked.symm.trans asked'
      cases accepted.symm.trans refused'
    | sent asked' _ went' =>
      cases asked.symm.trans asked'
      obtain ⟨rfl, rfl⟩ := ih went'
      exact ⟨rfl, rfl⟩

/-- What a supply gives first is sent as a series, if that ends well. What is drawn after that is
sent as another one. -/
theorem of_yields {xs ys : List String} (hy : Yields next s xs mid)
    (hxs : (sendAll target choices net xs).result = .ok xs.length)
    (h : Draws next target (fun j => choices (xs.length + j)) (sendAll target choices net xs).net mid
      (sendAll target (fun j => choices (xs.length + j)) (sendAll target choices net xs).net ys) s') :
    Draws next target choices net s (sendAll target choices net (xs ++ ys)) s' := by
  induction hy generalizing choices net with
  | nil s =>
    simp only [List.length_nil, Nat.zero_add] at h
    exact h
  | @cons s _ _ text texts asked others ih =>
    obtain ⟨m, hm⟩ := (sendAll_eq_ok_iff.mp hxs).2 [] text texts rfl
    have hm : (send net target text (choices 0)).result = .ok m := hm
    rw [List.cons_append, sendAll_cons_of_ok _ hm]
    rw [sendAll_cons_of_ok _ hm] at hxs h
    simp only [List.length_cons, choices_after_cons] at hxs h
    refine .sent asked hm (ih ?_ h)
    cases hothers : (sendAll target (fun j => choices (j + 1))
        (send net target text (choices 0)).net texts).result with
    | error e =>
      rw [hothers] at hxs
      cases hxs
    | ok k => rw [(sendAll_eq_ok hothers).1]

theorem of_refused {text : String} {e : Error} (asked : next s = some (text, s'))
    (refused : (send net target text (choices 0)).result = .error e) :
    Draws next target choices net s (sendAll target choices net [text]) s' := by
  simp only [sendAll, refused]
  exact .failed asked refused

/-- A series that fails draws no text after the one that fails. -/
theorem failed_iff {done : List String} {bad : String} {e : Error}
    (h : FailsAt net target choices done bad e) (hy : Yields next s (done ++ [bad]) s') :
    Draws next target choices net s o s'' ↔
      o = sendAll target choices net (done ++ [bad]) ∧ s'' = s' := by
  obtain ⟨mid, hdone, asked⟩ := hy.last
  have hlast : Draws next target (fun j => choices (done.length + j))
      (sendAll target choices net done).net mid
      (sendAll target (fun j => choices (done.length + j)) (sendAll target choices net done).net
        [bad]) s' := of_refused asked h.failed
  have hdraws := of_yields hdone h.before hlast
  exact ⟨hdraws.unique, by rintro ⟨rfl, rfl⟩; exact hdraws⟩

theorem exhausted_iff {texts : List String} {n : Nat}
    (h : (sendAll target choices net texts).result = .ok n) (hy : Yields next s texts s')
    (hend : next s' = none) :
    Draws next target choices net s o s'' ↔ o = sendAll target choices net texts ∧ s'' = s' := by
  obtain ⟨rfl, -⟩ := sendAll_eq_ok h
  have hdraws : Draws next target choices net s (sendAll target choices net (texts ++ [])) s' :=
    of_yields hy h (.exhausted hend)
  rw [List.append_nil] at hdraws
  exact ⟨hdraws.unique, by rintro ⟨rfl, rfl⟩; exact hdraws⟩

end Draws

/-- Texts are sent one after the other until one fails. What comes after that one has no part in it,
and is not even made if the texts come from a supply. -/
theorem sendAll_is_sequential (hs : net.Sound) (target : Address) (choices : Nat → Port) :
    let run := sendAll target choices net
    (∀ xs ys, run (xs ++ ys) = (run xs).andThen fun k after =>
      sendAll target (fun j => choices (k + j)) after ys) ∧
    (∀ texts n, (run texts).result = .ok n ↔ n = texts.length ∧
      ∀ front text back, texts = front ++ text :: back →
        ∃ m, (send (run front).net target text (choices front.length)).result = .ok m) ∧
    (∀ texts e, (run texts).result = .error e ↔ ∃ done bad rest, texts = done ++ bad :: rest ∧
      FailsAt net target choices done bad e) ∧
    (∀ done bad e, FailsAt net target choices done bad e →
      Delivered net target done (run done).net ∧
      (∀ rest, run (done ++ bad :: rest) = ⟨.error e, (run done).net, (run done).events ++
        (send (run done).net target bad (choices done.length)).events⟩) ∧
      ∀ (σ : Type) (next : σ → Option (String × σ)) (s s' : σ), Yields next s (done ++ [bad]) s' →
        ∀ o s'', Draws next target choices net s o s'' ↔ o = run (done ++ [bad]) ∧ s'' = s') ∧
    ∀ texts n, (run texts).result = .ok n → Delivered net target texts (run texts).net ∧
      ∀ (σ : Type) (next : σ → Option (String × σ)) (s s' : σ), Yields next s texts s' →
        next s' = none → ∀ o s'', Draws next target choices net s o s'' ↔ o = run texts ∧ s'' = s' := by
  intro run
  refine ⟨sendAll_append target choices net, fun _ _ => sendAll_eq_ok_iff,
    fun _ _ => sendAll_eq_error_iff, ?_, ?_⟩
  · intro done bad e h
    refine ⟨delivered_of_sendAll hs h.before, h.sendAll, ?_⟩
    intro σ next s s' hy o s''
    exact Draws.failed_iff h hy
  · intro texts n h
    refine ⟨delivered_of_sendAll hs h, ?_⟩
    intro σ next s s' hy hend o s''
    exact Draws.exhausted_iff h hy hend

/-- A supply that never ends. The second text that it makes is the last one that is drawn. -/
theorem sendAll_is_sequential_endless :
    let listener : Address := .v4 .localhost 26001
    let net : Network := ⟨.up, [⟨listener, []⟩]⟩
    let choices : Nat → Port := fun _ => 40000
    let next : Nat → Option (String × Nat) := fun k => some (if k = 1 then "café" else "a", k + 1)
    let o := sendAll listener choices net ["a", "café"]
    o.result = .error (.encoding 3 'é') ∧ Delivered net listener ["a"] o.net ∧
      ∀ o' k, Draws next listener choices net 0 o' k ↔ o' = o ∧ k = 2 := by
  intro listener net choices next o
  have hs : net.Sound := by
    refine ⟨?_, by decide +kernel⟩
    unfold Network.Exclusive
    decide +kernel
  have hfails : FailsAt net listener choices ["a"] "café" (.encoding 3 'é') := ⟨rfl, rfl⟩
  have hyields : Yields next 0 ["a", "café"] 2 := .cons rfl (.cons rfl (.nil 2))
  obtain ⟨-, -, -, hstops, -⟩ := sendAll_is_sequential hs listener choices
  obtain ⟨hdelivered, hrun, hdraws⟩ := hstops ["a"] "café" _ hfails
  have ho : o = ⟨.error (.encoding 3 'é'), _, _⟩ := hrun []
  refine ⟨congrArg Outcome.result ho, ?_, hdraws Nat next 0 2 hyields⟩
  rw [ho]
  exact hdelivered

end Sender

end UdpBench
