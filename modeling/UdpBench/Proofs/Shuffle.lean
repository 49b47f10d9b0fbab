namespace UdpBench

variable {ι α β : Type} [DecidableEq ι]

/-- What one of several contributed, of all that they did. -/
def sentBy (i : ι) (sent : List (ι × α)) : List α :=
  (sent.filter fun e => e.1 = i).map Prod.snd

theorem sentBy_append (i : ι) (sent more : List (ι × α)) :
    sentBy i (sent ++ more) = sentBy i sent ++ sentBy i more := by
  simp [sentBy]

theorem sentBy_singleton (i : ι) (e : ι × α) : sentBy i [e] = if i = e.1 then [e.2] else [] := by
  by_cases h : i = e.1
  · simp [sentBy, h]
  · simp [sentBy, h, Ne.symm h]

/-- All that one contributed is its own. -/
theorem sentBy_tagged (i j : ι) (own : List α) :
    sentBy j (own.map fun a => (i, a)) = if j = i then own else [] := by
  by_cases h : j = i
  · simp [sentBy, List.filter_map, Function.comp_def, h]
  · simp [sentBy, h, Ne.symm h]

/-- A list is made up of the lists of several, each in its own order. -/
def IsShuffle (lists : ι → List α) (l : List α) : Prop :=
  ∃ tagged : List (ι × α), tagged.map Prod.snd = l ∧ ∀ i, sentBy i tagged = lists i

/-- What some of several sent is a shuffle of what each of those sent. -/
theorem isShuffle_filter (keep : ι → Bool) (f : β → α) (sent : List (ι × β)) :
    IsShuffle (fun i => if keep i then (sentBy i sent).map f else [])
      ((sent.filter fun e => keep e.1).map fun e => f e.2) := by
  refine ⟨(sent.filter fun e => keep e.1).map fun e => (e.1, f e.2), ?_, ?_⟩
  · rw [List.map_map]
    rfl
  · intro i
    simp only [sentBy, List.filter_map, List.filter_filter, List.map_map, Function.comp_def]
    by_cases hi : keep i = true
    · rw [if_pos hi]
      congr 1
      apply List.filter_congr
      intro e _
      by_cases he : e.1 = i <;> simp [he, hi]
    · rw [if_neg hi, List.map_eq_nil_iff, List.filter_eq_nil_iff]
      intro e _
      by_cases he : e.1 = i <;> simp [he, hi]

end UdpBench
