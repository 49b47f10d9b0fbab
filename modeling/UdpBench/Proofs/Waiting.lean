import Mathlib.Data.List.TakeWhile
import UdpBench.Listen.Loop
import UdpBench.Proofs.Operations

namespace UdpBench

theorem Time.isRepresentable_of_le {s t : Time} (h : s ≤ t) (ht : t.isRepresentable = true) :
    s.isRepresentable = true := by
  simp only [isRepresentable, decide_eq_true_eq] at ht ⊢
  exact Nat.lt_of_le_of_lt (Nat.div_le_div_right h) ht

namespace Timeline

variable {t : Timeline} {timeout : Time} {queue rest : List Datagram} {d : Datagram}

/-- What is there is returned at once. -/
theorem receive_of_due (hq : queue ++ t.dueBy t.now = d :: rest)
    (hclock : (t.now + timeout).isRepresentable = true) :
    t.receive timeout queue = (.received (d.fitted bufferSize) rest, t.advance t.now) := by
  simp [receive, hq, UdpBench.receive, advance, hclock, receiveUntil,
    Datagram.readOver_eq_fitted]

/-- Until there is something to read, a call waits for the first to come. -/
theorem receive_of_nothing_due {later : List Arrival} (hq : queue ++ t.dueBy t.now = [])
    (hlater : t.advance t.now = ⟨t.now, later⟩) (hpos : 0 < timeout)
    (hclock : (t.now + timeout).isRepresentable = true) :
    t.receive timeout queue =
      let wake := wakeTime ⟨t.now, later⟩ (t.now + timeout)
      (receiveUntil (t.now + timeout) []
          [{ before := dueBy ⟨t.now, later⟩ wake, clock := wake, wake := .timedOut }],
        advance ⟨t.now, later⟩ wake) := by
  have hwait : ¬t.now + timeout ≤ t.now := Nat.not_le_of_lt (Nat.lt_add_of_pos_right hpos)
  simp only [receive, hq, hlater, UdpBench.receive, hclock, hpos, List.isEmpty_nil, Bool.and_self,
    decide_true, ↓reduceIte]
  rw [receiveUntil]
  simp only [List.append_nil, hwait, ↓reduceIte]

/-- What comes in time ends the wait. -/
theorem receive_of_arrival {a : Arrival} {later : List Arrival} (hq : queue ++ t.dueBy t.now = [])
    (hlater : t.advance t.now = ⟨t.now, a :: later⟩) (hfuture : t.now < a.time)
    (hin : a.time ≤ t.now + timeout) (hclock : (t.now + timeout).isRepresentable = true) :
    t.receive timeout queue =
      (.received (a.datagram.fitted bufferSize)
          ((later.takeWhile fun b => b.time ≤ a.time).map Arrival.datagram),
        ⟨a.time, later.dropWhile fun b => b.time ≤ a.time⟩) := by
  have hpos : 0 < timeout := Nat.pos_of_lt_add_right (Nat.lt_of_lt_of_le hfuture hin)
  have hwake : wakeTime ⟨t.now, a :: later⟩ (t.now + timeout) = a.time := Nat.min_eq_left hin
  rw [receive_of_nothing_due hq hlater hpos hclock]
  simp [hwake, dueBy, advance, receiveUntil, Datagram.readOver_eq_fitted]

/-- Without anything coming in time the wait lasts until its deadline. -/
theorem receive_of_silence {later : List Arrival} (hq : queue ++ t.dueBy t.now = [])
    (hlater : t.advance t.now = ⟨t.now, later⟩) (hpos : 0 < timeout)
    (hlate : ∀ a ∈ later, t.now + timeout < a.time)
    (hclock : (t.now + timeout).isRepresentable = true) :
    t.receive timeout queue = (.timedOut [], ⟨t.now + timeout, later⟩) := by
  have hwake : wakeTime ⟨t.now, later⟩ (t.now + timeout) = t.now + timeout := by
    cases later with
    | nil => rfl
    | cons a later => exact Nat.min_eq_right (Nat.le_of_lt (hlate a List.mem_cons_self))
  rw [receive_of_nothing_due hq hlater hpos hclock]
  cases later with
  | nil => simp [hwake, dueBy, advance, receiveUntil]
  | cons a later =>
    have ha : ¬a.time ≤ t.now + timeout := Nat.not_le_of_lt (hlate a List.mem_cons_self)
    simp [hwake, dueBy, advance, receiveUntil, ha]

/-- A call that cannot begin reads nothing. -/
theorem receive_of_overflow (hclock : (t.now + timeout).isRepresentable = false) :
    t.receive timeout queue = (.overflowed (queue ++ t.dueBy t.now), t.advance t.now) := by
  simp [receive, UdpBench.receive, advance, hclock]

end Timeline

/-- In a list that is in order, what comes by some time is in front of what comes later. -/
theorem lt_of_mem_dropWhile {time : Time} {l : List Arrival}
    (h : l.Pairwise fun a b => a.time ≤ b.time) {a : Arrival}
    (ha : a ∈ l.dropWhile fun b => b.time ≤ time) : time < a.time := by
  induction l with
  | nil => cases ha
  | cons b l ih =>
    obtain ⟨hb, hl⟩ := List.pairwise_cons.mp h
    by_cases hle : b.time ≤ time
    · rw [List.dropWhile_cons_of_pos (by simpa using hle)] at ha
      exact ih hl ha
    · rw [List.dropWhile_cons_of_neg (by simpa using hle)] at ha
      rcases List.mem_cons.mp ha with rfl | ha
      · exact Nat.lt_of_not_le hle
      · exact Nat.lt_of_lt_of_le (Nat.lt_of_not_le hle) (hb a ha)

theorem le_of_mem_takeWhile {time : Time} {l : List Arrival} {a : Arrival}
    (ha : a ∈ l.takeWhile fun b => b.time ≤ time) : a.time ≤ time := by
  simpa using List.mem_takeWhile_imp ha

namespace Listen

/-- What the socket bound to `own` has still to receive, in order: what is queued there by now, and
what is to come. -/
structure Awaits (own : Address) (net : Network) (t : Timeline) (pending : List Arrival) :
    Prop where
  isOpen : own ∈ net.addresses
  sound : net.Sound
  split : ∃ queued, pending = queued ++ t.arrivals ∧ net.queueOf own = queued.map Arrival.datagram ∧
    ∀ a ∈ queued, a.time ≤ t.now
  sorted : pending.Pairwise fun a b => a.time ≤ b.time
  notPast : ∀ a ∈ pending, t.now ≤ a.time
  fits : ∀ a ∈ pending, a.datagram.length ≤ Datagram.maxLength

namespace Awaits

variable {own : Address} {net : Network} {t : Timeline} {pending : List Arrival}

/-- What is there by now comes before what is not. -/
theorem due (h : Awaits own net t pending) : ∃ due later, pending = due ++ later ∧
    net.queueOf own ++ t.dueBy t.now = due.map Arrival.datagram ∧
    t.advance t.now = ⟨t.now, later⟩ ∧ (∀ a ∈ due, a.time ≤ t.now) ∧
    ∀ a ∈ later, t.now < a.time := by
  obtain ⟨queued, hp, hq, hdue⟩ := h.split
  refine ⟨queued ++ t.arrivals.takeWhile fun a => a.time ≤ t.now,
    t.arrivals.dropWhile fun a => a.time ≤ t.now, ?_, ?_, rfl, ?_, ?_⟩
  · rw [hp, List.append_assoc, List.takeWhile_append_dropWhile]
  · rw [hq, List.map_append, Timeline.dueBy]
  · intro a ha
    rcases List.mem_append.mp ha with ha | ha
    · exact hdue a ha
    · exact le_of_mem_takeWhile ha
  · intro a ha
    have hsorted := hp ▸ h.sorted
    exact lt_of_mem_dropWhile (List.pairwise_append.mp hsorted).2.1 ha

/-- At a later time a shorter list is awaited. -/
theorem later (h : Awaits own net t pending) (front queued rest : List Arrival) {now : Time}
    (hp : pending = front ++ (queued ++ rest)) (hqueued : ∀ a ∈ queued, a.time ≤ now)
    (hnow : ∀ a ∈ queued ++ rest, now ≤ a.time) :
    Awaits own (net.setQueue own (queued.map Arrival.datagram)) ⟨now, rest⟩ (queued ++ rest) := by
  have hfits : ∀ a ∈ queued ++ rest, a.datagram.length ≤ Datagram.maxLength :=
    fun a ha => h.fits a (hp ▸ List.mem_append_right _ ha)
  refine ⟨?_, ?_, ⟨queued, rfl, ?_, hqueued⟩, ?_, hnow, hfits⟩
  · rw [Network.addresses_setQueue]
    exact h.isOpen
  · apply h.sound.setQueue
    intro d hd
    obtain ⟨a, ha, rfl⟩ := List.mem_map.mp hd
    exact hfits a (List.mem_append_left _ ha)
  · exact Network.queueOf_setQueue_self h.isOpen
  · have hsorted := hp ▸ h.sorted
    exact (List.pairwise_append.mp hsorted).2.1

theorem left (h : Awaits own net t pending) :
    net.queueOf own ++ t.arrivals.map Arrival.datagram = pending.map Arrival.datagram := by
  obtain ⟨queued, hp, hq, _⟩ := h.split
  rw [hq, hp, List.map_append]

/-- A call that cannot begin leaves everything to be received. -/
theorem overflow (h : Awaits own net t pending)
    (hclock : (t.now + slice).isRepresentable = false) :
    ∃ queue net' t', Sink.receive net own t slice = (.overflowed queue, net', t') ∧
      Awaits own net' t' pending := by
  obtain ⟨due, later, rfl, hq, hlater, hdue, _⟩ := h.due
  refine ⟨due.map Arrival.datagram, net.setQueue own (due.map Arrival.datagram), ⟨t.now, later⟩,
    ?_, h.later [] due later rfl hdue h.notPast⟩
  rw [Sink.receive, Timeline.receive_of_overflow hclock, hq, hlater]
  rfl

/-- What is sent to other sockets is not awaited. -/
theorem carries (h : Awaits own net t pending) {es : List Emission} {after : Network}
    (hc : net.Carries es after) (hes : ∀ e ∈ es, e.shownAt own = none) :
    Awaits own after t pending := by
  obtain ⟨queued, hp, hq, hdue⟩ := h.split
  refine ⟨hc.addresses ▸ h.isOpen, h.sound.carries hc, ⟨queued, hp, ?_, hdue⟩, h.sorted, h.notPast,
    h.fits⟩
  have hnone : net.shown own es = [] := by
    apply List.eq_nil_iff_forall_not_mem.mpr
    intro d hd
    obtain ⟨e, he, hshown⟩ := Network.mem_shown hd
    rw [hes e he] at hshown
    cases hshown
  rw [hc.queueOf own h.isOpen, hnone, List.append_nil, hq]

theorem late_of_head {a : Arrival} {rest : List Arrival} {time : Time}
    (h : Awaits own net t (a :: rest)) (ha : time < a.time) : ∀ b ∈ a :: rest, time < b.time := by
  intro b hb
  rcases List.mem_cons.mp hb with rfl | hb
  · exact ha
  · exact Nat.lt_of_lt_of_le ha ((List.pairwise_cons.mp h.sorted).1 b hb)

theorem fitted (h : Awaits own net t pending) {a : Arrival} (ha : a ∈ pending) :
    a.datagram.fitted bufferSize = a.datagram :=
  Datagram.fitted_eq ((h.fits a ha).trans (by decide))

/-- Without anything coming in time a call waits for the whole slice. -/
theorem receive_silent (h : Awaits own net t pending)
    (hlate : ∀ a ∈ pending, t.now + slice < a.time)
    (hclock : (t.now + slice).isRepresentable = true) :
    ∃ queue net', Sink.receive net own t slice = (.timedOut queue, net', ⟨t.now + slice, pending⟩) ∧
      Awaits own net' ⟨t.now + slice, pending⟩ pending := by
  obtain ⟨due, later, hp, hq, hlater, hdue, hfuture⟩ := h.due
  cases due with
  | cons a due =>
    have ha : a ∈ pending := hp ▸ List.mem_cons_self
    have hpast := (Nat.le_add_right ..).trans_lt (hlate a ha)
    exact absurd (hdue a List.mem_cons_self) (Nat.not_le_of_lt hpast)
  | nil =>
    obtain rfl := hp
    refine ⟨[], net.setQueue own [], ?_, ?_⟩
    · rw [Sink.receive, Timeline.receive_of_silence hq hlater (by decide) hlate hclock]
      rfl
    · exact h.later [] [] _ rfl (by simp) fun a ha => Nat.le_of_lt (hlate a ha)

/-- The first datagram to come in time is received when it comes. -/
theorem receive_prompt {a : Arrival} {rest : List Arrival} (h : Awaits own net t (a :: rest))
    (hin : a.time ≤ t.now + slice) (hclock : (t.now + slice).isRepresentable = true) :
    ∃ queue net' t', Sink.receive net own t slice = (.received a.datagram queue, net', t') ∧
      t'.now = a.time ∧ Awaits own net' t' rest := by
  obtain ⟨due, later, hp, hq, hlater, hdue, hfuture⟩ := h.due
  have hsorted := (List.pairwise_cons.mp h.sorted).1
  cases due with
  | cons b due =>
    obtain ⟨rfl, rfl⟩ := List.cons.inj hp
    have hnow : t.now = a.time :=
      Nat.le_antisymm (h.notPast a List.mem_cons_self) (hdue a List.mem_cons_self)
    refine ⟨due.map Arrival.datagram, net.setQueue own (due.map Arrival.datagram), ⟨t.now, later⟩,
      ?_, hnow, ?_⟩
    · rw [Sink.receive, Timeline.receive_of_due hq hclock, hlater, h.fitted List.mem_cons_self]
      rfl
    · exact h.later [a] due later rfl (fun b hb => hdue b (List.mem_cons_of_mem _ hb))
        fun b hb => h.notPast b (List.mem_cons_of_mem _ hb)
  | nil =>
    obtain rfl := hp
    have hsplit : (rest.takeWhile fun b => b.time ≤ a.time) ++
        (rest.dropWhile fun b => b.time ≤ a.time) = rest := List.takeWhile_append_dropWhile
    refine ⟨(rest.takeWhile fun b => b.time ≤ a.time).map Arrival.datagram,
      net.setQueue own ((rest.takeWhile fun b => b.time ≤ a.time).map Arrival.datagram),
      ⟨a.time, rest.dropWhile fun b => b.time ≤ a.time⟩, ?_, rfl, ?_⟩
    · rw [Sink.receive, Timeline.receive_of_arrival hq hlater (hfuture a List.mem_cons_self) hin
        hclock, h.fitted List.mem_cons_self]
      rfl
    · have hrest := h.later [a] (rest.takeWhile fun b => b.time ≤ a.time)
        (rest.dropWhile fun b => b.time ≤ a.time) (by rw [hsplit]; rfl)
        (fun b hb => le_of_mem_takeWhile hb) (fun b hb => hsorted b (hsplit ▸ hb))
      rwa [hsplit] at hrest

end Awaits

end Listen

end UdpBench
