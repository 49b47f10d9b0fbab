import Mathlib.Data.List.Basic
import UdpBench.Timeline

namespace UdpBench.Listen

/-- How long after the one in front of it each datagram comes, and the first after the start. -/
def gaps (start : Time) (arrivals : List Arrival) : List Time :=
  List.zipWith (fun last a => a.time - last) (start :: arrivals.map Arrival.time) arrivals

/-- How many datagrams come before a gap as long as the limit. -/
def promptCount (limit : Option Time) (start : Time) (arrivals : List Arrival) : Nat :=
  ((gaps start arrivals).takeWhile fun gap => limit.all fun l => gap < l).length

/-- When the last of some datagrams came, or else the start. -/
def lastTime (start : Time) (arrivals : List Arrival) : Time :=
  (arrivals.map Arrival.time).getLastD start

theorem promptCount_cons (limit : Option Time) (start : Time) (a : Arrival)
    (rest : List Arrival) : promptCount limit start (a :: rest) =
      if limit.all fun l => a.time - start < l then promptCount limit a.time rest + 1 else 0 := by
  unfold promptCount
  have hgaps : gaps start (a :: rest) = (a.time - start) :: gaps a.time rest := rfl
  rw [hgaps, List.takeWhile_cons]
  split <;> rfl

/-- Without a limit every datagram comes before it. -/
theorem promptCount_none (start : Time) (arrivals : List Arrival) :
    promptCount none start arrivals = arrivals.length := by
  induction arrivals generalizing start with
  | nil => rfl
  | cons a rest ih => rw [promptCount_cons, ih, List.length_cons, Option.all_none, if_pos rfl]

theorem lastTime_cons (start : Time) (a : Arrival) (rest : List Arrival) :
    lastTime start (a :: rest) = lastTime a.time rest := by
  cases rest <;> rfl

theorem le_lastTime {start : Time} {arrivals : List Arrival}
    (hstart : ∀ a ∈ arrivals, start ≤ a.time) : start ≤ lastTime start arrivals := by
  rw [lastTime, List.getLastD_eq_getLast?]
  cases hl : (arrivals.map Arrival.time).getLast? with
  | none => exact Nat.le_refl start
  | some time =>
    obtain ⟨a, ha, rfl⟩ := List.mem_map.mp (List.mem_of_getLast? hl)
    exact hstart a ha

/-- What follows the prompt datagrams comes after the limit, if nothing comes just then. -/
theorem late_of_prompt {limit start : Time} {arrivals : List Arrival}
    (hsorted : arrivals.Pairwise fun a b => a.time ≤ b.time)
    (hgap : limit ∉ gaps start arrivals) :
    ∀ a ∈ arrivals.drop (promptCount (some limit) start arrivals),
      lastTime start (arrivals.take (promptCount (some limit) start arrivals)) + limit < a.time := by
  induction arrivals generalizing start with
  | nil => simp
  | cons b rest ih =>
    have hgaps : gaps start (b :: rest) = (b.time - start) :: gaps b.time rest := rfl
    rw [hgaps, List.mem_cons, not_or] at hgap
    obtain ⟨hb, hrest⟩ := List.pairwise_cons.mp hsorted
    rw [promptCount_cons]
    by_cases hprompt : b.time - start < limit
    · simp only [Option.all, hprompt, decide_true, ↓reduceIte, List.drop_succ_cons,
        List.take_succ_cons, lastTime_cons]
      exact ih hrest hgap.2
    · simp only [Option.all, hprompt, decide_false, Bool.false_eq_true, ↓reduceIte, List.drop_zero,
        List.take_zero]
      have hlong : limit < b.time - start := Nat.lt_of_le_of_ne (Nat.le_of_not_lt hprompt) hgap.1
      have hfirst : start + limit < b.time := Nat.add_lt_of_lt_sub' hlong
      intro a ha
      rcases List.mem_cons.mp ha with rfl | ha
      · exact hfirst
      · exact Nat.lt_of_lt_of_le hfirst (hb a ha)

end UdpBench.Listen
