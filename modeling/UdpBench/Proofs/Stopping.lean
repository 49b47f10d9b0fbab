import UdpBench.Proofs.Session
import UdpBench.Proofs.Turns

namespace UdpBench.Listen

namespace Running

variable {r : Running} {s : Settings} {own : Address} {pending : List Arrival}

/-- Looked at after enough turns, a listener has stopped in a state, with all that was logged. -/
def Ends (s : Settings) (own : Address) (r last : Running) (events : List Event) : Prop :=
  ∃ m, ∀ n, m ≤ n → turns s own n r = (.stopped last, events)

theorem Leads.ends {r' last : Running} {events more : List Event} (h : Leads s own r r' events)
    (hturn : r'.turn s own = (.stopped last, more)) : Ends s own r last (events ++ more) := by
  obtain ⟨m, hm⟩ := h
  refine ⟨m + 1, ?_⟩
  intro n hn
  obtain ⟨n, rfl⟩ := Nat.exists_eq_add_of_le hn
  have hturns : turns s own (n + 1) r' = (.stopped last, more) := by rw [turns, hturn]
  rw [show m + 1 + n = n + 1 + m by omega, hm, hturns]

/-- A listener that has stopped stays so. -/
theorem turns_of_stopped {m n : Nat} {last : Running} {events : List Event}
    (h : turns s own n r = (.stopped last, events)) (hle : n ≤ m) :
    turns s own m r = (.stopped last, events) := by
  induction n generalizing r m events with
  | zero => simp [turns] at h
  | succ n ih =>
    obtain ⟨m, rfl⟩ := Nat.exists_eq_add_of_le' (Nat.succ_le_of_lt (Nat.lt_of_lt_of_le n.succ_pos hle))
    rw [turns] at h ⊢
    split at h
    · rename_i r' first hturn
      simp only [Prod.mk.injEq] at h
      obtain ⟨hlast, hevents⟩ := h
      have hrest : turns s own n r' = (.stopped last, (turns s own n r').2) := Prod.ext hlast rfl
      rw [ih hrest (Nat.le_of_succ_le_succ hle)]
      exact Prod.ext rfl hevents
    · exact h

/-- A listener that gets as many datagrams as it is asked for stops on the last of them. -/
theorem Has.ends_served (h : r.Has own 0 pending) (hrest : r.lastSeen = r.timeline.now)
    {c : UInt64} (hc : s.count = some c)
    (hprompt : c.toNat ≤ promptCount s.limit r.lastSeen pending)
    (hclock : (lastTime r.lastSeen (pending.take c.toNat) + slice).isRepresentable = true)
    (hforeign : s.echo = true → ∀ a ∈ pending, Foreign own a.datagram) :
    ∃ last events, Ends s own r last events ∧
      last.timeline.now = lastTime r.lastSeen (pending.take c.toNat) ∧
      last.left own = (pending.drop c.toNat).map Arrival.datagram ∧
      taken events = (pending.take c.toNat).map Arrival.datagram ∧
      ∀ ev ∈ events, isIdle ev = false := by
  have hcount : ∀ c', s.count = some c' → 0 + c.toNat ≤ c'.toNat := by
    intro c' hc'
    obtain rfl := Option.some.inj (hc.symm.trans hc')
    rw [Nat.zero_add]
  obtain ⟨last, events, hleads, hhas, htime, _, htaken, hno⟩ :=
    h.takes c.toNat hrest hprompt hcount hclock hforeign
  have hturn : last.turn s own = (.stopped last, []) := by
    rw [Running.turn, if_pos (hhas.hasEnough hc (by omega) (by rw [Nat.zero_add]; exact c.toNat_lt))]
  have hends := hleads.ends hturn
  rw [List.append_nil] at hends
  exact ⟨last, events, hends, htime, hhas.awaits.left, htaken, hno⟩

/-- A listener that is not given enough stops when the limit has passed since the last datagram. -/
theorem Has.ends_idle (h : r.Has own 0 pending) (hrest : r.lastSeen = r.timeline.now)
    {n : UInt64} (hn : s.idleTimeout = some n)
    (hmore : ∀ c, s.count = some c → promptCount s.limit r.lastSeen pending < c.toNat)
    (hgap : 0 < n.toNat → Time.ofSeconds n.toNat ∉ gaps r.lastSeen pending)
    (hclock : (lastTime r.lastSeen (pending.take (promptCount s.limit r.lastSeen pending)) +
      .ofSeconds n.toNat + slice).isRepresentable = true)
    (hforeign : s.echo = true → ∀ a ∈ pending, Foreign own a.datagram) :
    ∃ last events, Ends s own r last (events ++ [.idle n.toNat]) ∧
      last.timeline.now = lastTime r.lastSeen
        (pending.take (promptCount s.limit r.lastSeen pending)) + .ofSeconds n.toNat ∧
      last.left own =
        (pending.drop (promptCount s.limit r.lastSeen pending)).map Arrival.datagram ∧
      taken events =
        (pending.take (promptCount s.limit r.lastSeen pending)).map Arrival.datagram ∧
      ∀ ev ∈ events, isIdle ev = false := by
  have hlimit := Settings.limit_of_some hn
  have hmore' : ∀ c, s.count = some c →
      0 + promptCount s.limit r.lastSeen pending < c.toNat := by
    intro c hc
    rw [Nat.zero_add]
    exact hmore c hc
  have hrep := Time.isRepresentable_of_le (Nat.add_le_add_right (Nat.le_add_right ..) slice) hclock
  obtain ⟨r', events, hleads, hhas, htime, hseen, htaken, hno⟩ :=
    h.takes _ hrest (Nat.le_refl _) (fun c hc => Nat.le_of_lt (hmore' c hc)) hrep hforeign
  have hlate : 0 < n.toNat → ∀ a ∈ pending.drop (promptCount s.limit r.lastSeen pending),
      r'.lastSeen + .ofSeconds n.toNat < a.time := by
    intro hpos
    have hlate := late_of_prompt h.awaits.sorted (hgap hpos)
    rwa [← hlimit, ← htime, ← hseen] at hlate
  obtain ⟨last, hleads', hhas', htime', hseen'⟩ :=
    hhas.idles (j := 0) (k := 4 * n.toNat) hmore' hn (by rw [hseen, Nat.zero_mul, Nat.add_zero])
      (Nat.zero_add _) hlate (by rwa [hseen, htime])
  have hidle : last.idleFor? s = some n.toNat := by
    simp [idleFor?, hn, htime', hseen']
  have hturn : last.turn s own = (.stopped last, [.idle n.toNat]) := by
    simp only [Running.turn, hhas'.not_hasEnough hmore', hidle, Bool.false_eq_true, ↓reduceIte]
  refine ⟨last, events, ?_, ?_, hhas'.awaits.left, htaken, hno⟩
  · have hends := (hleads.trans hleads').ends hturn
    rwa [List.append_nil] at hends
  · rw [htime', hseen, htime]

/-- Without a limit a listener that is not given enough takes everything and never stops. -/
theorem Has.goes_on (h : r.Has own 0 pending) (hrest : r.lastSeen = r.timeline.now)
    (hlimit : s.idleTimeout = none)
    (hmore : ∀ c, s.count = some c → promptCount s.limit r.lastSeen pending < c.toNat)
    (hclock : (lastTime r.lastSeen (pending.take (promptCount s.limit r.lastSeen pending)) +
      slice).isRepresentable = true)
    (hforeign : s.echo = true → ∀ a ∈ pending, Foreign own a.datagram) :
    (∃ m, ∀ n, m ≤ n → taken (turns s own n r).2 = pending.map Arrival.datagram ∧
      (turns s own n r).1.running.left own = []) ∧
    ∀ n last, (turns s own n r).1 ≠ .stopped last := by
  have hprompt : promptCount s.limit r.lastSeen pending = pending.length := by
    rw [Settings.limit_of_none hlimit]
    exact promptCount_none ..
  have hcount : ∀ c, s.count = some c →
      0 + promptCount s.limit r.lastSeen pending ≤ c.toNat := by
    intro c hc
    rw [Nat.zero_add]
    exact Nat.le_of_lt (hmore c hc)
  obtain ⟨r', events, ⟨m, hm⟩, hhas, _, _, htaken, _⟩ :=
    h.takes _ hrest (Nat.le_refl _) hcount hclock hforeign
  rw [hprompt, List.take_length] at htaken
  rw [hprompt, List.drop_length, Nat.zero_add] at hhas
  have hnever := hhas.never_stops (hprompt ▸ hmore) hlimit
  refine ⟨⟨m, ?_⟩, ?_⟩
  · intro n hn
    obtain ⟨n, rfl⟩ := Nat.exists_eq_add_of_le' hn
    obtain ⟨hnone, hleft, _⟩ := hnever n
    rw [hm, taken_append, htaken, hnone, List.append_nil]
    exact ⟨rfl, hleft⟩
  · intro n last hstop
    have hlater := turns_of_stopped (Prod.ext hstop rfl) (Nat.le_add_right n m)
    rw [hm] at hlater
    exact (hnever n).2.2 last (congrArg Prod.fst hlater)

end Running

/-- The datagrams on a timeline come in order, from now on, and no longer than datagrams can be. -/
structure Orderly (t : Timeline) : Prop where
  sorted : t.arrivals.Pairwise fun a b => a.time ≤ b.time
  notPast : ∀ a ∈ t.arrivals, t.now ≤ a.time
  fits : ∀ a ∈ t.arrivals, a.datagram.length ≤ Datagram.maxLength

theorem openSink_has {net opened : Network} {setup : Setup} {choice : Port} {s : Settings}
    {own : Address} {t : Timeline} (hopen : openSink net setup choice s = .ok (own, opened))
    (hs : net.Sound) (ht : Orderly t) : (Running.start opened t).Has own 0 t.arrivals := by
  have ho := openSink_eq_ok hopen
  refine ⟨⟨?_, hs.opens ho, ⟨[], rfl, ho.queueOf_self, by simp⟩, ht.sorted, ht.notPast, ht.fits⟩,
    rfl, Nat.le_refl _⟩
  rw [Running.start, ho.addresses]
  exact List.mem_append_right _ (List.mem_singleton_self _)

/-- How many datagrams a listener takes of those that come, where so many come before the limit. -/
def Settings.takes (s : Settings) (prompt : Nat) : Nat :=
  match s.count with
  | some c => min c.toNat prompt
  | none => prompt

/-- When a listener is done: with the last datagram it is asked for, or when the limit has passed. -/
def Settings.finish (s : Settings) (t : Timeline) : Time :=
  let prompt := promptCount s.limit t.now t.arrivals
  lastTime t.now (t.arrivals.take (s.takes prompt)) +
    if s.count.any fun c => c.toNat ≤ prompt then 0 else s.limit.getD 0

theorem Settings.takes_of_served {s : Settings} {c : UInt64} {prompt : Nat} (hc : s.count = some c)
    (hle : c.toNat ≤ prompt) : s.takes prompt = c.toNat := by
  simp only [takes, hc, Nat.min_eq_left hle]

theorem Settings.takes_of_unserved {s : Settings} {prompt : Nat}
    (hmore : ∀ c, s.count = some c → prompt < c.toNat) : s.takes prompt = prompt := by
  unfold takes
  split
  · rename_i c hc
    exact Nat.min_eq_right (Nat.le_of_lt (hmore c hc))
  · rfl

theorem Settings.finish_of_served {s : Settings} {t : Timeline} {c : UInt64}
    (hc : s.count = some c) (hle : c.toNat ≤ promptCount s.limit t.now t.arrivals) :
    s.finish t = lastTime t.now (t.arrivals.take c.toNat) := by
  rw [finish, takes_of_served hc hle, hc, Option.any_some, if_pos (by simpa using hle),
    Nat.add_zero]

theorem Settings.finish_of_unserved {s : Settings} {t : Timeline}
    (hmore : ∀ c, s.count = some c → promptCount s.limit t.now t.arrivals < c.toNat) :
    s.finish t = lastTime t.now (t.arrivals.take (promptCount s.limit t.now t.arrivals)) +
      s.limit.getD 0 := by
  have hany : (s.count.any fun c => decide (c.toNat ≤ promptCount s.limit t.now t.arrivals)) =
      false := by
    cases hc : s.count with
    | none => rfl
    | some c => simpa using hmore c hc
  rw [finish, takes_of_unserved hmore, hany]
  rfl

/-- A listener takes the datagrams that come before the limit, but no more than it is asked for. It
stops with the last of these, or when the limit has passed since the last datagram that it took. -/
theorem listener_takes_and_stops {net opened : Network} {setup : Setup} {choice : Port}
    {s : Settings} {own : Address} {t : Timeline}
    (hopen : openSink net setup choice s = .ok (own, opened)) (hs : net.Sound) (ht : Orderly t)
    (hgap : ∀ l, s.limit = some l → 0 < l → l ∉ gaps t.now t.arrivals)
    (hforeign : s.echo = true → ∀ a ∈ t.arrivals, Foreign own a.datagram)
    (hclock : (s.finish t + slice).isRepresentable = true) :
    let start := Running.start opened t
    let prompt := promptCount s.limit t.now t.arrivals
    (∃ m, ∀ n, m ≤ n →
      taken (start.turns s own n).2 = (t.arrivals.take (s.takes prompt)).map Arrival.datagram ∧
      (start.turns s own n).1.running.left own =
        (t.arrivals.drop (s.takes prompt)).map Arrival.datagram) ∧
    ((∃ n last, (start.turns s own n).1 = .stopped last) ↔
      (∃ c, s.count = some c ∧ c.toNat ≤ prompt) ∨ s.idleTimeout.isSome = true) ∧
    (∀ c, s.count = some c → c.toNat ≤ prompt → ∃ last events, start.Ends s own last events ∧
      last.timeline.now = lastTime t.now (t.arrivals.take c.toNat) ∧
      ∀ ev ∈ events, isIdle ev = false) ∧
    ∀ n, s.idleTimeout = some n → (∀ c, s.count = some c → prompt < c.toNat) →
      ∃ last events, start.Ends s own last (events ++ [.idle n.toNat]) ∧
        last.timeline.now = lastTime t.now (t.arrivals.take prompt) + .ofSeconds n.toNat ∧
        ∀ ev ∈ events, isIdle ev = false := by
  intro start prompt
  have hhas := openSink_has hopen hs ht
  by_cases hserved : ∃ c, s.count = some c ∧ c.toNat ≤ prompt
  · obtain ⟨c, hc, hle⟩ := hserved
    rw [Settings.finish_of_served hc hle] at hclock
    obtain ⟨last, events, ⟨m, hm⟩, htime, hleft, htaken, hno⟩ :=
      hhas.ends_served rfl hc hle hclock hforeign
    rw [Settings.takes_of_served hc hle]
    refine ⟨⟨m, ?_⟩, ⟨fun _ => .inl ⟨c, hc, hle⟩, fun _ => ⟨m, last, ?_⟩⟩, ?_, ?_⟩
    · intro n hn
      rw [hm n hn]
      exact ⟨htaken, hleft⟩
    · rw [hm m (Nat.le_refl m)]
    · intro c' hc' _
      obtain rfl := Option.some.inj (hc.symm.trans hc')
      exact ⟨last, events, ⟨m, hm⟩, htime, hno⟩
    · intro n _ hmore
      exact absurd hle (Nat.not_le_of_lt (hmore c hc))
  · have hmore : ∀ c, s.count = some c → prompt < c.toNat := fun c hc =>
      Nat.lt_of_not_le fun hle => hserved ⟨c, hc, hle⟩
    rw [Settings.finish_of_unserved hmore] at hclock
    rw [Settings.takes_of_unserved hmore]
    cases hn : s.idleTimeout with
    | some n =>
      have hlimit := Settings.limit_of_some hn
      have hafter : s.limit.getD 0 = .ofSeconds n.toNat := by rw [hlimit, Option.getD_some]
      rw [hafter] at hclock
      have hgap' : 0 < n.toNat → Time.ofSeconds n.toNat ∉ gaps t.now t.arrivals := fun hpos =>
        hgap _ hlimit (Nat.mul_pos hpos (by decide))
      obtain ⟨last, events, ⟨m, hm⟩, htime, hleft, htaken, hno⟩ :=
        hhas.ends_idle rfl hn hmore hgap' hclock hforeign
      refine ⟨⟨m, ?_⟩, ⟨fun _ => .inr rfl, fun _ => ⟨m, last, ?_⟩⟩, ?_, ?_⟩
      · intro n hn
        rw [hm n hn, taken_append, htaken]
        exact ⟨List.append_nil _, hleft⟩
      · rw [hm m (Nat.le_refl m)]
      · intro c hc hle
        exact absurd hle (Nat.not_le_of_lt (hmore c hc))
      · intro n' hn' _
        obtain rfl := Option.some.inj hn'
        exact ⟨last, events, ⟨m, hm⟩, htime, hno⟩
    | none =>
      have hlimit := Settings.limit_of_none hn
      have hprompt : prompt = t.arrivals.length := by
        simp only [prompt, hlimit]
        exact promptCount_none ..
      have hafter : s.limit.getD 0 = 0 := by rw [hlimit, Option.getD_none]
      rw [hafter, Nat.add_zero] at hclock
      obtain ⟨⟨m, hm⟩, hnever⟩ := hhas.goes_on rfl hn hmore hclock hforeign
      refine ⟨⟨m, ?_⟩, ⟨?_, ?_⟩, ?_, ?_⟩
      · intro n hn
        rw [hprompt, List.take_length, List.drop_length]
        exact hm n hn
      · rintro ⟨n, last, hstop⟩
        exact absurd hstop (hnever n last)
      · rintro (⟨c, hc, hle⟩ | hsome)
        · exact absurd hle (Nat.not_le_of_lt (hmore c hc))
        · cases hsome
      · intro c hc hle
        exact absurd hle (Nat.not_le_of_lt (hmore c hc))
      · intro n hn'
        cases hn'

/-- Of three datagrams, the second at the same time as the first, the last one comes too late. -/
theorem listener_takes_and_stops_idle :
    let own : Address := .v4 .localhost 26001
    let peer : Address := .v4 .localhost 5000
    let s : Settings := ⟨own, true, some 3, some 2, "info"⟩
    let t : Timeline := ⟨.ofSeconds 1, [⟨.ofSeconds 2, ⟨peer, [1]⟩⟩, ⟨.ofSeconds 2, ⟨peer, []⟩⟩,
      ⟨.ofSeconds 9, ⟨peer, [3]⟩⟩]⟩
    let start := Running.start ⟨.up, [⟨own, []⟩]⟩ t
    (∃ m, ∀ n, m ≤ n → taken (start.turns s own n).2 = [⟨peer, [1]⟩, ⟨peer, []⟩] ∧
      (start.turns s own n).1.running.left own = [⟨peer, [3]⟩]) ∧
    ∃ last events, start.Ends s own last (events ++ [.idle 2]) ∧
      last.timeline.now = .ofSeconds 4 ∧ ∀ ev ∈ events, isIdle ev = false := by
  intro own peer s t start
  have hopen : openSink (.empty .up) {} 0 s = .ok (own, ⟨.up, [⟨own, []⟩]⟩) :=
    openSink_of_told rfl fun _ => rfl
  have ht : Orderly t := ⟨by decide, by decide, by decide⟩
  have hgap : ∀ l, s.limit = some l → 0 < l → l ∉ gaps t.now t.arrivals := by
    intro l hl _
    obtain rfl := Option.some.inj hl
    decide
  have hforeign : s.echo = true → ∀ a ∈ t.arrivals, Foreign own a.datagram := fun _ => by
    simp only [Foreign]
    decide
  have hprompt : promptCount s.limit t.now t.arrivals = 2 := by decide
  have hlast : lastTime t.now (t.arrivals.take 2) + .ofSeconds 2 = .ofSeconds 4 := by decide
  obtain ⟨htaken, _, _, hidle⟩ :=
    listener_takes_and_stops hopen (Network.empty_sound .up) ht hgap hforeign (by decide)
  rw [hprompt] at htaken hidle
  obtain ⟨last, events, hends, htime, hno⟩ := hidle 2 rfl (by simp [s])
  exact ⟨htaken, last, events, hends, htime.trans hlast, hno⟩

end UdpBench.Listen
