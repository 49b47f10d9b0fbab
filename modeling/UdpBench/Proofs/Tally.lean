import Mathlib.Algebra.GroupWithZero.Nat
import Mathlib.Algebra.Order.BigOperators.Group.List
import Mathlib.Algebra.Order.Group.Nat
import UdpBench.Proofs.Session

namespace UdpBench.Listen

def isDatagram : Event → Bool
  | .datagram .. => true
  | _ => false

def isEchoFailure : Event → Bool
  | .echoFailed _ => true
  | _ => false

/-- How a log tells of datagrams that were taken one after the other. -/
def datagramEvents (took : List Datagram) : List Event :=
  took.mapIdx fun k d => .datagram (k + 1).toUInt64.toNat d

theorem datagramEvents_append (took : List Datagram) (d : Datagram) :
    datagramEvents (took ++ [d]) =
      datagramEvents took ++ [.datagram (took ++ [d]).length.toUInt64.toNat d] := by
  rw [List.length_append]
  exact List.mapIdx_concat

theorem toUInt64_succ (n : Nat) : (n + 1).toUInt64 = n.toUInt64 + 1 := by
  simp [Nat.toUInt64]

/-- After this step a call that begins has a deadline that the clock can show. -/
def Move.onClock : Move → Bool
  | .pass t => (t.now + slice).isRepresentable
  | _ => true

def Happening.onClock {ε : Type} : Happening ε → Bool
  | .own m => m.onClock
  | .others _ => true

theorem Running.Takes.timeline {r r' : Running} {s : Settings} {own : Address} {d : Datagram}
    {events : List Event} (h : r.Takes s own d r' events) : r'.timeline = r.timeline := by
  cases h <;> rfl

namespace Session

/-- What a listener has made of the datagrams that it took. The figures wrap around. -/
structure Tally (s : Settings) (x : Session) : Prop where
  datagrams : x.running.stats.datagrams = x.took.length.toUInt64
  bytes : x.running.stats.bytes = (x.took.map Datagram.length).sum.toUInt64
  empty : x.running.stats.empty = (x.took.countP Datagram.isEmpty).toUInt64
  echoed : ∃ echoes, x.running.stats.echoed = echoes.toUInt64 ∧
    echoes + x.log.countP isEchoFailure = if s.echo then x.took.length else 0
  logged : x.log.filter isDatagram = datagramEvents x.took
  fits : ∀ d ∈ x.took, d.length ≤ bufferSize
  heldFits : ∀ d, x.stage = .holding d → d.length ≤ bufferSize

namespace Tally

variable {s : Settings} {own : Address} {x y : Session}

theorem start (s : Settings) (net : Network) (t : Timeline) :
    Tally s (.start (.start net t)) :=
  ⟨rfl, rfl, rfl, ⟨0, rfl, by simp [Session.start]⟩, rfl, by simp [Session.start],
    by simp [Session.start]⟩

/-- Nothing changes for the figures while nothing is taken. -/
theorem quiet (h : Tally s x) (more : List Event) (hstats : y.running.stats = x.running.stats)
    (htook : y.took = x.took) (hlog : y.log = x.log ++ more)
    (hmore : ∀ ev ∈ more, isDatagram ev = false ∧ isEchoFailure ev = false)
    (hheld : ∀ d, y.stage = .holding d → d.length ≤ bufferSize) : Tally s y := by
  have hno : more.filter isDatagram = [] := by
    simpa using fun ev hev => (hmore ev hev).1
  have hnone : more.countP isEchoFailure = 0 := by
    simpa using fun ev hev => (hmore ev hev).2
  refine ⟨?_, ?_, ?_, ?_, ?_, htook ▸ h.fits, hheld⟩
  · rw [hstats, htook, h.datagrams]
  · rw [hstats, htook, h.bytes]
  · rw [hstats, htook, h.empty]
  · rw [hstats, htook, hlog, List.countP_append, hnone, Nat.add_zero]
    exact h.echoed
  · rw [hlog, List.filter_append, hno, List.append_nil, htook, h.logged]

/-- Taking a datagram adds it to the figures and to the log. -/
theorem take (h : Tally s x) {d : Datagram} (holding : x.stage = .holding d) {r : Running}
    {events : List Event} (ht : x.running.Takes s own d r events) :
    Tally s ⟨r, .looking, x.took ++ [d], x.log ++ events⟩ := by
  obtain ⟨echoes, hechoed, hcount⟩ := h.echoed
  have hnumber : (x.running.stats.add d).datagrams = (x.took ++ [d]).length.toUInt64 := by
    rw [Stats.add, h.datagrams, ← toUInt64_succ, List.length_append, List.length_singleton]
  have hbytes : (x.running.stats.add d).bytes =
      ((x.took ++ [d]).map Datagram.length).sum.toUInt64 := by
    rw [Stats.add, h.bytes]
    simp [Nat.toUInt64]
  have hempty : (x.running.stats.add d).empty =
      ((x.took ++ [d]).countP Datagram.isEmpty).toUInt64 := by
    rw [Stats.add, h.empty]
    by_cases he : d.isEmpty = true <;> simp [he, toUInt64_succ]
  have hfits : ∀ d' ∈ x.took ++ [d], d'.length ≤ bufferSize := by
    intro d' hd'
    rcases List.mem_append.mp hd' with hd' | hd'
    · exact h.fits d' hd'
    · obtain rfl := List.mem_singleton.mp hd'
      exact h.heldFits _ holding
  have hlogged : (x.log ++ events).filter isDatagram = datagramEvents (x.took ++ [d]) := by
    rw [List.filter_append, h.logged, datagramEvents_append, ← hnumber]
    cases ht <;> rfl
  cases ht with
  | silent off =>
    refine ⟨hnumber, hbytes, hempty, ⟨echoes, hechoed, ?_⟩, hlogged, hfits, by simp⟩
    simpa [off, isEchoFailure] using hcount
  | echoed on =>
    refine ⟨hnumber, hbytes, hempty, ⟨echoes + 1, ?_, ?_⟩, hlogged, hfits, by simp⟩
    · rw [toUInt64_succ, ← hechoed]
      rfl
    · simp [on, isEchoFailure] at hcount ⊢
      omega
  | failed on =>
    refine ⟨hnumber, hbytes, hempty, ⟨echoes, hechoed, ?_⟩, hlogged, hfits, by simp⟩
    simp [on, isEchoFailure] at hcount ⊢
    omega

theorem advance (h : Tally s x) {m : Move} (ha : Advance s own x m y) : Tally s y := by
  cases ha with
  | refused => exact h
  | enough | goesOn | called | overflowed =>
    exact h.quiet [] rfl rfl (List.append_nil _).symm (by simp) (by simp)
  | idle seconds =>
    exact h.quiet [.idle seconds] rfl rfl rfl (by simp [isDatagram, isEchoFailure]) (by simp)
  | @received deadline read d rest =>
    refine h.quiet [_] rfl rfl rfl (by simp [isDatagram, isEchoFailure]) ?_
    intro d' hd'
    obtain rfl := Stage.holding.inj hd'
    exact List.length_take_le ..
  | unread _ goesOn =>
    refine h.quiet [] rfl rfl (List.append_nil _).symm (by simp) ?_
    intro d hd
    rcases goesOn with rfl | rfl | ⟨e, rfl⟩ <;> cases hd
  | took holding => exact h.take holding (Running.take_takes ..)
  | passed => exact h.quiet [] rfl rfl (List.append_nil _).symm (by simp) h.heldFits

variable {ε : Type} {others : ε → Network → Network}

theorem next (h : Tally s x) (a : Happening ε) : Tally s (x.next others s own a) := by
  cases a with
  | own m => exact h.advance (step_advance s own x m)
  | others e => exact h.quiet [] rfl rfl (List.append_nil _).symm (by simp) h.heldFits

theorem after (h : Tally s x) (happenings : List (Happening ε)) :
    Tally s (x.after others s own happenings) := by
  induction happenings generalizing x with
  | nil => exact h
  | cons a rest ih => exact ih (h.next a)

end Tally

/-- A count that was asked for is kept to: nothing is received beyond it. -/
structure WithinCount (s : Settings) (x : Session) : Prop where
  le : ∀ c, s.count = some c → x.took.length ≤ c.toNat
  lt : ∀ c, s.count = some c →
    (x.stage = .calling ∨ (∃ deadline, x.stage = .waiting deadline) ∨ ∃ d, x.stage = .holding d) →
      x.took.length < c.toNat

namespace WithinCount

variable {s : Settings} {own : Address} {x y : Session}

theorem start (s : Settings) (net : Network) (t : Timeline) :
    WithinCount s (.start (.start net t)) :=
  ⟨fun _ _ => Nat.zero_le _, by simp [Session.start]⟩

theorem advance (h : WithinCount s x) (ht : Tally s x) {m : Move} (ha : Advance s own x m y) :
    WithinCount s y := by
  cases ha with
  | refused => exact h
  | passed => exact ⟨h.le, h.lt⟩
  | enough | idle | overflowed => exact ⟨h.le, by simp⟩
  | goesOn looking more =>
    refine ⟨h.le, ?_⟩
    intro c hc _
    have hwraps : x.took.length.toUInt64.toNat = x.took.length := by
      simpa using Nat.mod_eq_of_lt (Nat.lt_of_le_of_lt (h.le c hc) c.toNat_lt)
    simp only [Running.hasEnough, hc, ht.datagrams, decide_eq_false_iff_not,
      UInt64.le_iff_toNat_le, hwraps] at more
    exact Nat.lt_of_not_le more
  | called calling => exact ⟨h.le, fun c hc _ => h.lt c hc (.inl calling)⟩
  | received waiting => exact ⟨h.le, fun c hc _ => h.lt c hc (.inr (.inl ⟨_, waiting⟩))⟩
  | unread waiting => exact ⟨h.le, fun c hc _ => h.lt c hc (.inr (.inl ⟨_, waiting⟩))⟩
  | took holding =>
    refine ⟨?_, by simp [Session.take]⟩
    intro c hc
    rw [Session.take, List.length_append]
    exact h.lt c hc (.inr (.inr ⟨_, holding⟩))

variable {ε : Type} {others : ε → Network → Network}

theorem after (h : WithinCount s x) (ht : Tally s x) (happenings : List (Happening ε)) :
    WithinCount s (x.after others s own happenings) := by
  induction happenings generalizing x with
  | nil => exact h
  | cons a rest ih =>
    refine ih ?_ (ht.next a)
    cases a with
    | own m => exact h.advance ht (step_advance s own x m)
    | others e => exact ⟨h.le, h.lt⟩

end WithinCount

/-- The clock has not come to its end. -/
structure OnClock (x : Session) : Prop where
  now : (x.running.timeline.now + slice).isRepresentable = true
  stage : x.stage ≠ .overflowed

namespace OnClock

variable {s : Settings} {own : Address} {x y : Session}

theorem advance (h : OnClock x) {m : Move} (hm : m.onClock = true) (ha : Advance s own x m y) :
    OnClock y := by
  cases ha with
  | refused => exact h
  | enough | idle | goesOn | called | received => exact ⟨h.now, by simp⟩
  | overflowed _ clock =>
    rw [h.now] at clock
    cases clock
  | unread _ goesOn =>
    refine ⟨h.now, ?_⟩
    rcases goesOn with rfl | rfl | ⟨e, rfl⟩ <;> simp
  | @took d =>
    refine ⟨?_, by simp [take]⟩
    rw [take, (Running.take_takes ..).timeline]
    exact h.now
  | passed => exact ⟨hm, h.stage⟩

theorem after {ε : Type} {others : ε → Network → Network} (h : OnClock x)
    {happenings : List (Happening ε)} (hclock : happenings.all Happening.onClock = true) :
    OnClock (x.after others s own happenings) := by
  induction happenings generalizing x with
  | nil => exact h
  | cons a rest ih =>
    obtain ⟨ha, hrest⟩ := by simpa only [List.all_cons, Bool.and_eq_true] using hclock
    refine ih ?_ hrest
    cases a with
    | own m => exact h.advance ha (step_advance s own x m)
    | others e => exact ⟨h.now, h.stage⟩

end OnClock

end Session

end UdpBench.Listen
