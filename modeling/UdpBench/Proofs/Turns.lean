import UdpBench.Proofs.Gaps
import UdpBench.Proofs.Waiting

namespace UdpBench.Listen

/-- The echo of a datagram does not come back to the socket that sends it. -/
def Foreign (own : Address) (d : Datagram) : Prop :=
  Emission.shownAt own ⟨own, d.source, d.bytes⟩ = none

/-- The datagrams that were taken, as the log has them. -/
def taken (events : List Event) : List Datagram :=
  events.filterMap fun
    | .datagram _ d => some d
    | _ => none

def isIdle : Event → Bool
  | .idle _ => true
  | _ => false

/-- The limit without traffic, as a time. -/
def Settings.limit (s : Settings) : Option Time := s.idleTimeout.map fun n => .ofSeconds n.toNat

theorem Settings.limit_of_some {s : Settings} {n : UInt64} (hn : s.idleTimeout = some n) :
    s.limit = some (.ofSeconds n.toNat) := by
  rw [limit, hn, Option.map_some]

theorem Settings.limit_of_none {s : Settings} (hn : s.idleTimeout = none) : s.limit = none := by
  rw [limit, hn, Option.map_none]

/-- The state that a turn ends in. -/
def Turn.running : Turn → Running
  | .next r | .stopped r | .failed _ r | .overflowed r => r

/-- What a listener has not taken, queued or still to come. -/
def Running.left (r : Running) (own : Address) : List Datagram :=
  r.net.queueOf own ++ r.timeline.arrivals.map Arrival.datagram

theorem taken_append (events more : List Event) :
    taken (events ++ more) = taken events ++ taken more := List.filterMap_append ..

namespace Running

/-- A listener with some datagrams behind it and some to come. -/
structure Has (r : Running) (own : Address) (count : Nat) (pending : List Arrival) : Prop where
  awaits : Awaits own r.net r.timeline pending
  counted : r.stats.datagrams = count.toUInt64
  seen : r.lastSeen ≤ r.timeline.now

variable {r : Running} {s : Settings} {own : Address} {count : Nat} {pending : List Arrival}

theorem Has.hasEnough (h : r.Has own count pending) {c : UInt64} (hs : s.count = some c)
    (hle : c.toNat ≤ count) (hlt : count < UInt64.size) : r.hasEnough s = true := by
  have hcount : count.toUInt64.toNat = count := by
    simpa using Nat.mod_eq_of_lt hlt
  simp only [Running.hasEnough, hs, h.counted, decide_eq_true_eq, UInt64.le_iff_toNat_le, hcount, hle]

theorem Has.not_hasEnough (h : r.Has own count pending)
    (hs : ∀ c, s.count = some c → count < c.toNat) : r.hasEnough s = false := by
  unfold Running.hasEnough
  split
  · rename_i c hc
    have hlt := hs c hc
    have hcount : count.toUInt64.toNat = count := by
      simpa using Nat.mod_eq_of_lt (hlt.trans c.toNat_lt)
    rw [h.counted, decide_eq_false_iff_not, UInt64.le_iff_toNat_le, hcount]
    exact Nat.not_le_of_lt hlt
  · rfl

theorem idleFor?_eq_none (h : ∀ l, s.limit = some l → r.timeline.now - r.lastSeen < l) :
    r.idleFor? s = none := by
  unfold idleFor?
  split
  · rename_i n hn
    have hlt := h (.ofSeconds n.toNat) (Settings.limit_of_some hn)
    rw [if_neg (Nat.not_le_of_lt hlt)]
  · rfl

/-- Whatever becomes of an echo, a datagram is counted and logged, and the same are still to come. -/
theorem Has.take {d : Datagram} (h : r.Has own count pending)
    (hforeign : s.echo = true → Foreign own d) :
    (r.take s own d).1.Has own (count + 1) pending ∧ (r.take s own d).1.timeline = r.timeline ∧
      (r.take s own d).1.lastSeen = r.timeline.now ∧ taken (r.take s own d).2 = [d] ∧
      ∀ ev ∈ (r.take s own d).2, isIdle ev = false := by
  have hcounted : r.stats.datagrams + 1 = (count + 1).toUInt64 := by
    rw [h.counted]
    simp [Nat.toUInt64]
  by_cases he : s.echo = true
  · rcases Sink.echo_cases h.awaits.sound own d with ⟨cause, hsent⟩ | ⟨after, hc, hsent⟩
    · simp only [Running.take, he, ↓reduceIte, hsent]
      exact ⟨⟨h.awaits, hcounted, Nat.le_refl _⟩, trivial, trivial, rfl, by simp [isIdle]⟩
    · simp only [Running.take, he, ↓reduceIte, hsent]
      have hawaits := h.awaits.carries hc (by simpa [Foreign] using hforeign he)
      exact ⟨⟨hawaits, hcounted, Nat.le_refl _⟩, trivial, trivial, rfl, by simp [isIdle]⟩
  · simp only [Running.take, he]
    exact ⟨⟨h.awaits, hcounted, Nat.le_refl _⟩, rfl, rfl, rfl, by simp [isIdle]⟩

/-- One turn takes a datagram that comes in time, at the time that it comes. -/
theorem Has.turn_prompt {a : Arrival} {rest : List Arrival} (h : r.Has own count (a :: rest))
    (hmore : ∀ c, s.count = some c → count < c.toNat) (hidle : r.idleFor? s = none)
    (hin : a.time ≤ r.timeline.now + slice)
    (hclock : (r.timeline.now + slice).isRepresentable = true)
    (hforeign : s.echo = true → Foreign own a.datagram) :
    ∃ r' events, r.turn s own = (.next r', events) ∧ r'.Has own (count + 1) rest ∧
      r'.timeline.now = a.time ∧ r'.lastSeen = a.time ∧ taken events = [a.datagram] ∧
      ∀ ev ∈ events, isIdle ev = false := by
  obtain ⟨queue, net, t, hr, hnow, hawaits⟩ := h.awaits.receive_prompt hin hclock
  have hseen : r.lastSeen ≤ t.now := by
    rw [hnow]
    exact h.seen.trans (h.awaits.notPast a List.mem_cons_self)
  let woken : Running := { r with net, timeline := t }
  have hwoken : woken.Has own count rest := ⟨hawaits, h.counted, hseen⟩
  obtain ⟨hnext, htime, hlast, htaken, hno⟩ := hwoken.take hforeign
  refine ⟨(woken.take s own a.datagram).1,
    .received a.datagram.length a.datagram.source :: (woken.take s own a.datagram).2, ?_, hnext,
    htime ▸ hnow, hlast.trans hnow, htaken, ?_⟩
  · simp only [Running.turn, h.not_hasEnough hmore, hidle, hr]
    rfl
  · intro ev hev
    rcases List.mem_cons.mp hev with rfl | hev
    · rfl
    · exact hno ev hev

/-- If no datagram comes in time, a turn lets a slice pass. -/
theorem Has.turn_silent (h : r.Has own count pending)
    (hmore : ∀ c, s.count = some c → count < c.toNat) (hidle : r.idleFor? s = none)
    (hlate : ∀ a ∈ pending, r.timeline.now + slice < a.time)
    (hclock : (r.timeline.now + slice).isRepresentable = true) :
    ∃ r', r.turn s own = (.next r', []) ∧ r'.Has own count pending ∧
      r'.timeline.now = r.timeline.now + slice ∧ r'.lastSeen = r.lastSeen := by
  obtain ⟨queue, net, hr, hawaits⟩ := h.awaits.receive_silent hlate hclock
  refine ⟨{ r with net, timeline := ⟨r.timeline.now + slice, pending⟩ }, ?_, ?_, rfl, rfl⟩
  · simp only [Running.turn, h.not_hasEnough hmore, hidle, hr]
    rfl
  · exact ⟨hawaits, h.counted, h.seen.trans (Nat.le_add_right ..)⟩

/-- Some number of turns leads from one state to another, with what is logged on the way. -/
def Leads (s : Settings) (own : Address) (r r' : Running) (events : List Event) : Prop :=
  ∃ m, ∀ n, turns s own (n + m) r = ((turns s own n r').1, events ++ (turns s own n r').2)

theorem Leads.refl (s : Settings) (own : Address) (r : Running) : Leads s own r r [] :=
  ⟨0, fun _ => rfl⟩

theorem Leads.of_turn {r' : Running} {events : List Event} (h : r.turn s own = (.next r', events)) :
    Leads s own r r' events := by
  refine ⟨1, ?_⟩
  intro n
  rw [turns, h]

theorem Leads.trans {r' r'' : Running} {events more : List Event} (h : Leads s own r r' events)
    (h' : Leads s own r' r'' more) : Leads s own r r'' (events ++ more) := by
  obtain ⟨m, hm⟩ := h
  obtain ⟨m', hm'⟩ := h'
  refine ⟨m' + m, ?_⟩
  intro n
  rw [← Nat.add_assoc, hm, hm', List.append_assoc]

/-- A datagram that comes before the limit is taken when it comes, however many turns that takes. -/
theorem Has.takes_next {a : Arrival} {rest : List Arrival} (h : r.Has own count (a :: rest))
    (hmore : ∀ c, s.count = some c → count < c.toNat)
    (hprompt : ∀ l, s.limit = some l → a.time - r.lastSeen < l)
    (hclock : (a.time + slice).isRepresentable = true)
    (hforeign : s.echo = true → ∀ b ∈ a :: rest, Foreign own b.datagram) :
    ∃ r' events, Leads s own r r' events ∧ r'.Has own (count + 1) rest ∧
      r'.timeline.now = a.time ∧ r'.lastSeen = a.time ∧ taken events = [a.datagram] ∧
      ∀ ev ∈ events, isIdle ev = false := by
  -- Each turn without a datagram brings the time of the next one closer.
  induction hd : a.time - r.timeline.now using Nat.strong_induction_on generalizing r with
  | _ d ih =>
    have hnow := h.awaits.notPast a List.mem_cons_self
    have hidle : r.idleFor? s = none := by
      apply idleFor?_eq_none
      intro l hl
      exact Nat.lt_of_le_of_lt (Nat.sub_le_sub_right hnow _) (hprompt l hl)
    have hrep := Time.isRepresentable_of_le (Nat.add_le_add_right hnow slice) hclock
    by_cases hin : a.time ≤ r.timeline.now + slice
    · obtain ⟨r', events, hturn, hrest⟩ :=
        h.turn_prompt hmore hidle hin hrep fun he => hforeign he a List.mem_cons_self
      exact ⟨r', events, .of_turn hturn, hrest⟩
    · have hlt := Nat.lt_of_not_le hin
      obtain ⟨r', hturn, hhas, htime, hseen⟩ :=
        h.turn_silent hmore hidle (h.awaits.late_of_head hlt) hrep
      have hcloser : a.time - r'.timeline.now < d := by
        have hslice : 0 < slice := by decide
        unfold Time at *
        omega
      obtain ⟨r'', events, hleads, hrest⟩ := ih _ hcloser hhas (by rwa [hseen]) rfl
      exact ⟨r'', events, (Leads.of_turn hturn).trans hleads, hrest⟩

theorem ofSeconds_eq (n : Nat) : Time.ofSeconds n = 4 * n * slice := by
  change n * 1000000000 = 4 * n * 250000000
  omega

/-- Where nothing comes before the limit, it is noticed when it is reached: it is a whole number of
slices. -/
theorem Has.idles {n : UInt64} {j k : Nat} (h : r.Has own count pending)
    (hmore : ∀ c, s.count = some c → count < c.toNat) (hlimit : s.idleTimeout = some n)
    (hnow : r.timeline.now = r.lastSeen + j * slice) (hleft : j + k = 4 * n.toNat)
    (hlate : 0 < n.toNat → ∀ a ∈ pending, r.lastSeen + .ofSeconds n.toNat < a.time)
    (hclock : (r.lastSeen + .ofSeconds n.toNat + slice).isRepresentable = true) :
    ∃ r', Leads s own r r' [] ∧ r'.Has own count pending ∧
      r'.timeline.now = r.lastSeen + .ofSeconds n.toNat ∧ r'.lastSeen = r.lastSeen := by
  induction k generalizing r j with
  | zero =>
    refine ⟨r, .refl s own r, h, ?_, rfl⟩
    rw [hnow, ofSeconds_eq, ← hleft]
    rfl
  | succ k ih =>
    have hslices : (j + 1) * slice ≤ Time.ofSeconds n.toNat := by
      rw [ofSeconds_eq, ← hleft]
      exact Nat.mul_le_mul_right _ (by omega)
    have hnext : r.timeline.now + slice = r.lastSeen + (j + 1) * slice := by
      rw [hnow, Nat.add_mul, Nat.one_mul, Nat.add_assoc]
    have hin : r.timeline.now + slice ≤ r.lastSeen + .ofSeconds n.toNat := by
      rw [hnext]
      exact Nat.add_le_add_left hslices _
    have hidle : r.idleFor? s = none := by
      apply idleFor?_eq_none
      intro l hl
      rw [Settings.limit_of_some hlimit] at hl
      obtain rfl := Option.some.inj hl
      rw [hnow, Nat.add_sub_cancel_left]
      exact Nat.lt_of_lt_of_le (Nat.mul_lt_mul_of_pos_right (Nat.lt_succ_self j) (by decide)) hslices
    have hrep := Time.isRepresentable_of_le (hin.trans (Nat.le_add_right _ slice)) hclock
    have hsilent : ∀ a ∈ pending, r.timeline.now + slice < a.time := fun a ha =>
      Nat.lt_of_le_of_lt hin (hlate (by omega) a ha)
    obtain ⟨r', hturn, hhas, htime, hseen⟩ := h.turn_silent hmore hidle hsilent hrep
    obtain ⟨r'', hleads, hrest⟩ := ih hhas (by rw [htime, hseen, hnext]) (by omega)
      (by rwa [hseen]) (by rwa [hseen])
    rw [hseen] at hrest
    exact ⟨r'', (Leads.of_turn hturn).trans hleads, hrest⟩

/-- Prompt datagrams are taken one after the other while more are asked for. -/
theorem Has.takes (k : Nat) (h : r.Has own count pending) (hrest : r.lastSeen = r.timeline.now)
    (hprompt : k ≤ promptCount s.limit r.lastSeen pending)
    (hcount : ∀ c, s.count = some c → count + k ≤ c.toNat)
    (hclock : (lastTime r.lastSeen (pending.take k) + slice).isRepresentable = true)
    (hforeign : s.echo = true → ∀ a ∈ pending, Foreign own a.datagram) :
    ∃ r' events, Leads s own r r' events ∧ r'.Has own (count + k) (pending.drop k) ∧
      r'.timeline.now = lastTime r.lastSeen (pending.take k) ∧ r'.lastSeen = r'.timeline.now ∧
      taken events = (pending.take k).map Arrival.datagram ∧ ∀ ev ∈ events, isIdle ev = false := by
  induction k generalizing r count pending with
  | zero => exact ⟨r, [], .refl s own r, h, hrest.symm, hrest, rfl, by simp⟩
  | succ k ih =>
    cases pending with
    | nil => simp [promptCount, gaps] at hprompt
    | cons a rest =>
      rw [promptCount_cons] at hprompt
      split at hprompt
      · rename_i hfirst
        rw [List.take_succ_cons, lastTime_cons] at hclock
        have hmore : ∀ c, s.count = some c → count < c.toNat := by
          intro c hc
          have hle := hcount c hc
          omega
        have hbefore : ∀ l, s.limit = some l → a.time - r.lastSeen < l := by
          intro l hl
          rw [hl] at hfirst
          simpa using hfirst
        have hsorted := (List.pairwise_cons.mp h.awaits.sorted).1
        have hle : a.time ≤ lastTime a.time (rest.take k) :=
          le_lastTime fun b hb => hsorted b (List.mem_of_mem_take hb)
        have hrep := Time.isRepresentable_of_le (Nat.add_le_add_right hle slice) hclock
        obtain ⟨r', events, hleads, hhas, htime, hseen, htaken, hno⟩ :=
          h.takes_next hmore hbefore hrep hforeign
        have hcount' : ∀ c, s.count = some c → count + 1 + k ≤ c.toNat := by
          intro c hc
          rw [Nat.add_assoc, Nat.add_comm 1 k]
          exact hcount c hc
        have hprompt' : k ≤ promptCount s.limit r'.lastSeen rest := by
          rw [hseen]
          exact Nat.le_of_succ_le_succ hprompt
        obtain ⟨r'', more, hleads', hhas', htime', hseen', htaken', hno'⟩ :=
          ih hhas (hseen.trans htime.symm) hprompt' hcount' (by rwa [hseen])
            fun he b hb => hforeign he b (List.mem_cons_of_mem _ hb)
        refine ⟨r'', events ++ more, hleads.trans hleads', ?_, ?_, hseen', ?_, ?_⟩
        · rw [List.drop_succ_cons, Nat.add_comm k, ← Nat.add_assoc]
          exact hhas'
        · rw [htime', hseen, List.take_succ_cons, lastTime_cons]
        · rw [taken_append, htaken, htaken', List.take_succ_cons, List.map_cons,
            List.singleton_append]
        · intro ev hev
          rcases List.mem_append.mp hev with hev | hev
          · exact hno ev hev
          · exact hno' ev hev
      · omega

/-- Without a limit nothing stops a listener that has not got enough. -/
theorem Has.never_stops (h : r.Has own count [])
    (hmore : ∀ c, s.count = some c → count < c.toNat) (hlimit : s.idleTimeout = none) (n : Nat) :
    taken (turns s own n r).2 = [] ∧ (turns s own n r).1.running.left own = [] ∧
      ∀ r', (turns s own n r).1 ≠ .stopped r' := by
  induction n generalizing r with
  | zero => exact ⟨rfl, h.awaits.left, fun r' => by simp [turns]⟩
  | succ n ih =>
    have hidle : r.idleFor? s = none := by
      apply idleFor?_eq_none
      intro l hl
      rw [Settings.limit_of_none hlimit] at hl
      cases hl
    by_cases hclock : (r.timeline.now + slice).isRepresentable = true
    · obtain ⟨r', hturn, hhas, _⟩ := h.turn_silent hmore hidle (by simp) hclock
      simp only [turns, hturn, List.nil_append]
      exact ih hhas
    · obtain ⟨queue, net, t, hr, hawaits⟩ := h.awaits.overflow (by simpa using hclock)
      have hturn : r.turn s own = (.overflowed { r with net, timeline := t }, []) := by
        simp only [Running.turn, h.not_hasEnough hmore, hidle, hr]
        rfl
      simp only [turns, hturn]
      exact ⟨rfl, hawaits.left, fun r' => by simp⟩

end Running

end UdpBench.Listen
