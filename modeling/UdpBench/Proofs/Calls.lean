import UdpBench.Proofs.Host

namespace UdpBench

/-! On a host a call to receive is begun by one act, and each attempt to read is another one. -/

/-- An act that neither belongs to the call at a sink nor ends it. -/
def Act.leavesCall (sink : Address) : Act → Bool
  | .drop other | .receive other .. | .attempt other _ => other != sink
  | _ => true

def Receipt.reply : Receipt → Reply
  | .waiting _ => .waiting
  | .received d _ => .received d
  | .timedOut _ => .timedOut
  | .failed cause _ => .failed (.io cause)
  | .overflowed _ => .overflowed

/-- A call to receive is its rounds one after the other. -/
theorem receiveUntil_cons (deadline : Time) (queue : List Datagram) (r : Round)
    (rounds : List Round) : receiveUntil deadline queue (r :: rounds) =
      match receiveUntil deadline queue [r] with
      | .waiting queue => receiveUntil deadline queue rounds
      | receipt => receipt := by
  simp only [receiveUntil]
  split
  · rfl
  · rfl
  · split
    · rfl
    · cases r.wake <;> rfl

/-- A round that goes on leaves what arrived in it. -/
theorem receiveUntil_single_waiting {deadline : Time} {queue left : List Datagram} {r : Round}
    (h : receiveUntil deadline queue [r] = .waiting left) : left = r.after := by
  simp only [receiveUntil] at h
  split at h
  · cases h
  · cases h
  · split at h
    · cases h
    · split at h
      · cases h
      · exact (Receipt.waiting.inj h).symm

namespace Host

variable {h : Host} {sink : Address}

theorem lookup_callsBut {other : Address} (hne : (other != sink) = true) :
    (h.callsBut other).lookup sink = h.calls.lookup sink := by
  unfold callsBut
  induction h.calls with
  | nil => rfl
  | cons call calls ih =>
    obtain ⟨key, deadline⟩ := call
    rw [List.filter_cons]
    split
    · rw [List.lookup_cons, List.lookup_cons, ih]
    · rename_i hdropped
      obtain rfl : key = other := by simpa using hdropped
      have hmiss : (sink == key) = false := by
        rw [BEq.comm, ← Bool.not_eq_true', ← bne]
        exact hne
      rw [ih, List.lookup_cons, hmiss]

theorem only_calls {present : Bool} {effect : Effect}
    (hc : effect.host.calls.lookup sink = h.calls.lookup sink) :
    (h.only present effect).host.calls.lookup sink = h.calls.lookup sink := by
  unfold only
  split
  · exact hc
  · rfl

theorem step_calls {a : Act} (ha : a.leavesCall sink = true) :
    (h.step a).host.calls.lookup sink = h.calls.lookup sink := by
  cases a with
  | bind poller requested choice =>
    simp only [step, bind]
    split <;> rfl
  | drop other => exact only_calls (lookup_callsBut ha)
  | send target text choice =>
    simp only [step, send]
    split <;> rfl
  | sendAll target texts choices =>
    simp only [step, sendAll]
    split <;> rfl
  | receive other start timeout =>
    apply only_calls
    simp only [receive]
    split
    · rfl
    · have hmiss : (sink == other) = false :=
        beq_eq_false_iff_ne.mpr (Ne.symm (by simpa [Act.leavesCall] using ha))
      rw [List.lookup_cons, hmiss]
      exact lookup_callsBut ha
  | attempt other read =>
    simp only [step]
    split
    · simp only [attempt]
      split
      · rfl
      all_goals exact lookup_callsBut ha
    · rfl
  | echo other d =>
    apply only_calls
    simp only [echo]
    split <;> rfl
  | openPeer requested choice =>
    simp only [step, openPeer]
    split <;> rfl
  | closePeer peer => exact only_calls rfl
  | peerSend peer target bytes =>
    apply only_calls
    simp only [peerSend]
    split <;> rfl
  | peerReceive peer =>
    apply only_calls
    simp only [peerReceive]
    split <;> rfl

theorem after_calls {acts : List Act} (hacts : ∀ a ∈ acts, a.leavesCall sink = true) :
    (h.after acts).calls.lookup sink = h.calls.lookup sink := by
  induction acts generalizing h with
  | nil => rfl
  | cons a acts ih =>
    rw [after, ih fun b hb => hacts b (List.mem_cons_of_mem _ hb)]
    exact step_calls (hacts a List.mem_cons_self)

/-- The reply to a call that makes some attempts, with what others do before each of them. -/
def call (sink : Address) : Host → List (List Act × Read) → Reply
  | _, [] => .waiting
  | h, (acts, read) :: turns =>
    let tried := (h.after acts).step (.attempt sink read)
    match tried.reply with
    | .waiting => call sink tried.host turns
    | reply => reply

/-- An attempt as a round of a call that found nothing before. -/
def round (h : Host) (sink : Address) (read : Read) : Round where
  toRead := read
  before := h.net.queueOf sink

/-- The rounds of such a call. -/
def rounds (sink : Address) : Host → List (List Act × Read) → List Round
  | _, [] => []
  | h, (acts, read) :: turns =>
    let ready := h.after acts
    ready.round sink read :: rounds sink (ready.step (.attempt sink read)).host turns

/-- An attempt replies as its round does. Where it goes on, so does the call. -/
theorem attempt_reply (h : Host) (sink : Address) (deadline : Time) (read : Read) :
    (h.attempt sink deadline read).reply =
        (receiveUntil deadline [] [h.round sink read]).reply ∧
      ((h.attempt sink deadline read).reply = .waiting →
        (h.attempt sink deadline read).host.calls = h.calls) := by
  have hround : receiveUntil deadline [] [h.round sink read] =
      receiveUntil deadline (h.net.queueOf sink) [{ toRead := read }] := by
    simp only [receiveUntil, round, List.nil_append, List.append_nil]
    rfl
  rw [hround]
  unfold attempt
  cases receiveUntil deadline (h.net.queueOf sink) [{ toRead := read }] <;> simp [Receipt.reply]

theorem call_eq_receiveUntil {deadline : Time} {turns : List (List Act × Read)}
    (hcall : h.calls.lookup sink = some deadline)
    (hothers : ∀ turn ∈ turns, ∀ a ∈ turn.1, a.leavesCall sink = true) :
    h.call sink turns = (receiveUntil deadline [] (h.rounds sink turns)).reply := by
  induction turns generalizing h with
  | nil => rfl
  | cons turn turns ih =>
    obtain ⟨acts, read⟩ := turn
    have hready : (h.after acts).calls.lookup sink = some deadline := by
      rw [after_calls (hothers _ List.mem_cons_self), hcall]
    have hstep : (h.after acts).step (.attempt sink read) =
        (h.after acts).attempt sink deadline read := by simp only [step, hready]
    obtain ⟨hreply, hcalls⟩ := (h.after acts).attempt_reply sink deadline read
    simp only [call, rounds, hstep]
    rw [receiveUntil_cons]
    cases hr : receiveUntil deadline [] [(h.after acts).round sink read] with
    | waiting left =>
      rw [hr] at hreply
      obtain rfl : left = [] := receiveUntil_single_waiting hr
      simp only [hreply, Receipt.reply]
      apply ih
      · rw [hcalls hreply, hready]
      · exact fun turn hturn => hothers turn (List.mem_cons_of_mem _ hturn)
    | received d left | timedOut left | failed cause left | overflowed left =>
      rw [hr] at hreply
      simp only [hreply, Receipt.reply]

/-- What is done on a host as a call to receive is one, whatever others do meanwhile. -/
theorem call_eq_receive (hsink : sink ∈ h.sinks) (start timeout : Time)
    {turns : List (List Act × Read)}
    (hothers : ∀ turn ∈ turns, ∀ a ∈ turn.1, a.leavesCall sink = true) :
    let begun := h.step (.receive sink start timeout)
    let receipt := UdpBench.receive start timeout [] (begun.host.rounds sink turns)
    begun.reply = .overflowed ∧ receipt.reply = .overflowed ∨
      begun.reply = .waiting ∧ begun.host.call sink turns = receipt.reply := by
  intro begun receipt
  have hbegun : begun = h.receive sink start timeout := by
    simp only [begun, step, only, List.contains_eq_mem, hsink, decide_true, ↓reduceIte]
  cases hclock : (start + timeout).isRepresentable with
  | false =>
    refine .inl ⟨?_, ?_⟩
    · simp only [hbegun, receive, UdpBench.receive, hclock, Bool.false_eq_true, ↓reduceIte]
    · simp only [receipt, UdpBench.receive, hclock, Bool.false_eq_true, ↓reduceIte, Receipt.reply]
  | true =>
    have hreply : begun.reply = .waiting := by
      simp only [hbegun, receive, UdpBench.receive, hclock, ↓reduceIte, receiveUntil]
    have hcalls : begun.host.calls.lookup sink = some (start + timeout) := by
      simp only [hbegun, receive, UdpBench.receive, hclock, ↓reduceIte, receiveUntil,
        List.lookup_cons_self]
    refine .inr ⟨hreply, ?_⟩
    simp only [receipt, UdpBench.receive, hclock, ↓reduceIte]
    exact call_eq_receiveUntil hcalls hothers

end Host

end UdpBench
