import UdpBench.Proofs.Emission
import UdpBench.Receive

namespace UdpBench

/-- All that arrives in the course of some rounds. -/
def arrived (rounds : List Round) : List Datagram :=
  rounds.flatMap fun r => r.before ++ r.after

/-- What an attempt to read meets where nothing was taken in the rounds before it. -/
def met (queue : List Datagram) (earlier : List Round) (r : Round) : List Datagram :=
  queue ++ arrived earlier ++ r.before

/-- A call is not over after these rounds: every attempt met an empty queue, before the deadline. How
a wait ended plays no part, unless it failed. -/
def GoesOn (deadline : Time) (queue : List Datagram) (rounds : List Round) : Prop :=
  ∀ front r back, rounds = front ++ r :: back →
    r.failure = none ∧ met queue front r = [] ∧ r.clock < deadline ∧
      ∀ cause, r.wake ≠ .failed cause

/-- How a call can end in a round, with what it leaves in the queue. -/
inductive Ends (deadline : Time) (queue : List Datagram) (earlier : List Round) (last : Round) :
    Receipt → Prop
  /-- It takes the oldest datagram of those that are there, and no other. -/
  | received {d : Datagram} {rest : List Datagram} (readable : last.failure = none)
    (there : met queue earlier last = d :: rest) :
    Ends deadline queue earlier last (.received d (rest ++ last.after))
  /-- It gives up with nothing there, when the clock has reached the deadline. -/
  | timedOut (readable : last.failure = none) (empty : met queue earlier last = [])
    (late : deadline ≤ last.clock) : Ends deadline queue earlier last (.timedOut last.after)
  | unreadable {cause : IoError} (failure : last.failure = some cause) :
    Ends deadline queue earlier last (.failed cause (met queue earlier last ++ last.after))
  | unwaitable {cause : IoError} (readable : last.failure = none)
    (empty : met queue earlier last = []) (early : last.clock < deadline)
    (failure : last.wake = .failed cause) :
    Ends deadline queue earlier last (.failed cause last.after)

section Rounds

variable {deadline : Time} {queue : List Datagram} {r : Round} {rounds : List Round}

@[simp] theorem arrived_nil : arrived [] = [] := rfl

@[simp] theorem arrived_cons (r : Round) (rounds : List Round) :
    arrived (r :: rounds) = r.before ++ r.after ++ arrived rounds := List.flatMap_cons

@[simp] theorem met_nil (queue : List Datagram) (r : Round) : met queue [] r = queue ++ r.before := by
  simp [met]

/-- What an attempt meets stands in front of what comes later. -/
theorem append_arrived (queue : List Datagram) (earlier : List Round) (r : Round)
    (later : List Round) : queue ++ arrived (earlier ++ r :: later) =
      met queue earlier r ++ (r.after ++ arrived later) := by
  simp [arrived, met, List.flatMap_append]

/-- Behind an attempt that met nothing, what arrived since is all that is queued. -/
theorem met_cons (h : queue ++ r.before = []) (earlier : List Round) (r' : Round) :
    met queue (r :: earlier) r' = met r.after earlier r' := by
  obtain ⟨rfl, hbefore⟩ := List.append_eq_nil_iff.mp h
  simp [met, hbefore]

theorem GoesOn.nil : GoesOn deadline queue [] := by
  intro front r back h
  simp at h

theorem GoesOn.cons (hf : r.failure = none) (hq : queue ++ r.before = []) (hd : r.clock < deadline)
    (hw : ∀ cause, r.wake ≠ .failed cause) (h : GoesOn deadline r.after rounds) :
    GoesOn deadline queue (r :: rounds) := by
  intro front r' back hsplit
  cases front with
  | nil =>
    obtain ⟨rfl, -⟩ := List.cons.inj hsplit
    exact ⟨hf, by rwa [met_nil], hd, hw⟩
  | cons first front =>
    obtain ⟨rfl, htail⟩ := List.cons.inj hsplit
    rw [met_cons hq]
    exact h front r' back htail

theorem Ends.cons {earlier : List Round} {last : Round} {receipt : Receipt}
    (hq : queue ++ r.before = []) (h : Ends deadline r.after earlier last receipt) :
    Ends deadline queue (r :: earlier) last receipt := by
  cases h with
  | received readable there => exact .received readable (by rwa [met_cons hq])
  | timedOut readable empty late => exact .timedOut readable (by rwa [met_cons hq]) late
  | unreadable failure =>
    rw [← met_cons hq]
    exact .unreadable failure
  | unwaitable readable empty early failure =>
    exact .unwaitable readable (by rwa [met_cons hq]) early failure

/-- A call goes on with whatever arrived while it waited. -/
theorem receiveUntil_next (hf : r.failure = none) (hq : queue ++ r.before = [])
    (hd : r.clock < deadline) (hw : ∀ cause, r.wake ≠ .failed cause) :
    receiveUntil deadline queue (r :: rounds) = receiveUntil deadline r.after rounds := by
  simp only [receiveUntil, hf, hq, Nat.not_le_of_lt hd, ↓reduceIte]

/-- The oldest datagram that is there is taken, as it is. -/
theorem receiveUntil_there {d : Datagram} {rest : List Datagram} (hf : r.failure = none)
    (hq : queue ++ r.before = d :: rest) (hd : d.length ≤ Datagram.maxLength) :
    receiveUntil deadline queue (r :: rounds) = .received d (rest ++ r.after) := by
  have hroom : d.length ≤ bufferSize := Nat.le_trans hd (by decide)
  simp only [receiveUntil, hf, hq, Datagram.readOver_eq_fitted, Datagram.fitted_eq hroom]

/-- A call that is not over after some rounds goes on with all that was there and arrived. -/
theorem GoesOn.receiveUntil_append {earlier : List Round} (h : GoesOn deadline queue earlier) :
    receiveUntil deadline queue (earlier ++ rounds) =
      receiveUntil deadline (queue ++ arrived earlier) rounds := by
  induction earlier generalizing queue with
  | nil => rw [arrived_nil, List.append_nil, List.nil_append]
  | cons r earlier ih =>
    obtain ⟨hf, hq, hd, hw⟩ := h [] r earlier rfl
    rw [met_nil] at hq
    have hrest : GoesOn deadline r.after earlier := by
      intro front r' back hsplit
      rw [← met_cons hq]
      exact h (r :: front) r' back (by rw [hsplit, List.cons_append])
    rw [List.cons_append, receiveUntil_next hf hq hd hw, ih hrest, arrived_cons, ← List.append_assoc,
      ← List.append_assoc, hq, List.nil_append]

/-- A call goes on through all rounds, or ends in one of them. -/
theorem receiveUntil_ends (hfits : ∀ d ∈ queue ++ arrived rounds, d.length ≤ Datagram.maxLength) :
    receiveUntil deadline queue rounds = .waiting (queue ++ arrived rounds) ∧
        GoesOn deadline queue rounds ∨
      ∃ earlier last later, rounds = earlier ++ last :: later ∧ GoesOn deadline queue earlier ∧
        Ends deadline queue earlier last (receiveUntil deadline queue rounds) := by
  induction rounds generalizing queue with
  | nil => exact .inl ⟨by rw [arrived_nil, List.append_nil, receiveUntil], .nil⟩
  | cons r rounds ih =>
    cases hf : r.failure with
    | some cause =>
      refine .inr ⟨[], r, rounds, rfl, .nil, ?_⟩
      simp only [receiveUntil, hf, ← met_nil]
      exact .unreadable hf
    | none =>
      cases hq : queue ++ r.before with
      | cons d rest =>
        have hd : d.length ≤ Datagram.maxLength := by
          apply hfits
          rw [arrived_cons, ← List.append_assoc, ← List.append_assoc, hq]
          exact List.mem_cons_self
        rw [receiveUntil_there hf hq hd]
        exact .inr ⟨[], r, rounds, rfl, .nil, .received hf (by rwa [met_nil])⟩
      | nil =>
        have hempty : met queue [] r = [] := by rwa [met_nil]
        rcases Nat.lt_or_ge r.clock deadline with hd | hd
        · by_cases hw : ∃ cause, r.wake = .failed cause
          · obtain ⟨cause, hw⟩ := hw
            refine .inr ⟨[], r, rounds, rfl, .nil, ?_⟩
            simp only [receiveUntil, hf, hq, hw, Nat.not_le_of_lt hd, ↓reduceIte]
            exact .unwaitable hf hempty hd hw
          · have hw : ∀ cause, r.wake ≠ .failed cause := not_exists.mp hw
            have hall : queue ++ arrived (r :: rounds) = r.after ++ arrived rounds := by
              rw [arrived_cons, ← List.append_assoc, ← List.append_assoc, hq, List.nil_append]
            rw [receiveUntil_next hf hq hd hw, hall]
            rcases ih (hall ▸ hfits) with ⟨hwaiting, hgoes⟩ |
              ⟨earlier, last, later, rfl, hgoes, hends⟩
            · exact .inl ⟨hwaiting, .cons hf hq hd hw hgoes⟩
            · exact .inr ⟨r :: earlier, last, later, rfl, .cons hf hq hd hw hgoes, hends.cons hq⟩
        · refine .inr ⟨[], r, rounds, rfl, .nil, ?_⟩
          simp only [receiveUntil, hf, hq, hd, ↓reduceIte]
          exact .timedOut hf hempty hd

/-- Unless a wait fails, it is all the same what ends it. -/
theorem receiveUntil_wake {wake : Wake} (hwake : ∀ cause, wake ≠ .failed cause)
    (hcalm : ∀ r ∈ rounds, ∀ cause, r.wake ≠ .failed cause) :
    receiveUntil deadline queue (rounds.map fun r => { r with wake }) =
      receiveUntil deadline queue rounds := by
  induction rounds generalizing queue with
  | nil => rfl
  | cons r rounds ih =>
    have hr := hcalm r List.mem_cons_self
    have hrest := @ih r.after fun s hs => hcalm s (List.mem_cons_of_mem _ hs)
    obtain ⟨⟨held, failure, clock, _⟩, before, after⟩ := r
    rw [List.map_cons]
    cases failure with
    | some cause => rfl
    | none =>
      cases hq : queue ++ before with
      | cons d rest => simp only [receiveUntil, hq]
      | nil =>
        rcases Nat.lt_or_ge clock deadline with hd | hd
        · rw [receiveUntil_next rfl hq hd hr, receiveUntil_next rfl hq hd hwake]
          exact hrest
        · simp only [receiveUntil, hq, hd, ↓reduceIte]

end Rounds

/-- Whatever arrives whenever, and however the waits end, a call to receive takes the oldest datagram
that an attempt to read meets. It gives up only if no attempt met any, when the clock has reached the
deadline, and leaves to the next call what arrived since. A deadline that the clock cannot show is
noticed before anything is read. -/
theorem receive_takes_oldest {queue : List Datagram} {rounds : List Round}
    (hfits : ∀ d ∈ queue ++ arrived rounds, d.length ≤ Datagram.maxLength) (start timeout : Time) :
    let receipt := receive start timeout queue rounds
    ((start + timeout).isRepresentable = false → receipt = .overflowed queue) ∧
    ((start + timeout).isRepresentable = true →
      (receipt = .waiting (queue ++ arrived rounds) ∧ GoesOn (start + timeout) queue rounds ∨
        ∃ earlier last later, rounds = earlier ++ last :: later ∧
          GoesOn (start + timeout) queue earlier ∧
          Ends (start + timeout) queue earlier last receipt) ∧
      (∀ earlier r later d rest, rounds = earlier ++ r :: later →
        GoesOn (start + timeout) queue earlier → r.failure = none →
        met queue earlier r = d :: rest → receipt = .received d (rest ++ r.after)) ∧
      ∀ wake, (∀ cause, wake ≠ .failed cause) → (∀ r ∈ rounds, ∀ cause, r.wake ≠ .failed cause) →
        receive start timeout queue (rounds.map fun r => { r with wake }) = receipt) := by
  intro receipt
  refine ⟨fun hclock => by simp only [receipt, receive, hclock, Bool.false_eq_true, ↓reduceIte], ?_⟩
  intro hclock
  have hreceipt (rounds : List Round) : receive start timeout queue rounds =
      receiveUntil (start + timeout) queue rounds := by rw [receive, if_pos hclock]
  simp only [receipt, hreceipt]
  refine ⟨receiveUntil_ends hfits, ?_, ?_⟩
  · rintro earlier r later d rest rfl hgoes hf hthere
    have hmem : d ∈ queue ++ arrived (earlier ++ r :: later) := by
      rw [append_arrived, hthere]
      exact List.mem_cons_self
    rw [hgoes.receiveUntil_append]
    exact receiveUntil_there hf hthere (hfits d hmem)
  · intro wake hwake hcalm
    exact receiveUntil_wake hwake hcalm

/-- An empty datagram arrives unnoticed during a wait that runs beyond the deadline. -/
theorem receive_takes_oldest_unnoticed :
    let source : Address := .v4 .localhost 5000
    let waited : Round := { clock := 3, wake := .timedOut, after := [⟨source, []⟩, ⟨source, [1]⟩] }
    let rounds : List Round := [waited, { clock := 20, wake := .timedOut }]
    let receipt := receive 2 5 [] rounds
    GoesOn 7 [] [waited] ∧ receipt = .received ⟨source, []⟩ [⟨source, [1]⟩] ∧
      receive 2 5 [] (rounds.map fun r => { r with wake := .readable }) = receipt ∧
      receive 2 0x7fffffffffffffffffffffffffffffff [] rounds = .overflowed [] := by
  intro source waited rounds receipt
  have hfits : ∀ d ∈ [] ++ arrived rounds, d.length ≤ Datagram.maxLength := by decide
  obtain ⟨-, hall⟩ := receive_takes_oldest hfits 2 5
  obtain ⟨-, hthere, hwake⟩ := hall (by decide)
  have hgoes : GoesOn 7 [] [waited] := .cons rfl rfl (by decide) (by simp [waited]) .nil
  have hover := (receive_takes_oldest hfits 2 0x7fffffffffffffffffffffffffffffff).1
  exact ⟨hgoes, hthere [waited] _ [] _ _ rfl hgoes rfl rfl,
    hwake .readable (by simp) (by simp [rounds, waited]), hover (by decide)⟩

end UdpBench
