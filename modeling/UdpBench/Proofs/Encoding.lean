import UdpBench.Payload

namespace UdpBench

/-- Searching with positions finds the first match, behind exactly what does not match. -/
theorem find?_zipIdx_eq_some_iff {α : Type} {p : α → Bool} {l : List α} {a : α} {i : Nat} :
    l.zipIdx.find? (fun b => p b.1) = some (a, i) ↔
      ∃ front back, l = front ++ a :: back ∧ i = front.length ∧ p a = true ∧
        ∀ b ∈ front, p b = false := by
  rw [List.find?_eq_some_iff_append]
  constructor
  · rintro ⟨hp, before, after, he, hbefore⟩
    obtain ⟨front, rest, rfl, rfl, hrest⟩ := List.zipIdx_eq_append_iff.mp he
    obtain ⟨b, back, rfl, hb, _⟩ := List.zipIdx_eq_cons_iff.mp hrest.symm
    simp only [Prod.mk.injEq, Nat.zero_add] at hb
    obtain ⟨rfl, rfl⟩ := hb
    refine ⟨front, back, rfl, rfl, hp, ?_⟩
    intro b hb
    obtain ⟨j, hj⟩ := List.mem_iff_getElem?.mp hb
    simpa using hbefore (b, j) (by simpa [List.mem_zipIdx_iff_getElem?] using hj)
  · rintro ⟨front, back, rfl, rfl, hp, hfront⟩
    refine ⟨hp, front.zipIdx, back.zipIdx (front.length + 1), by simp [List.zipIdx_append], ?_⟩
    rintro ⟨b, j⟩ hb
    simpa using hfront b (List.fst_mem_of_mem_zipIdx hb)

namespace Payload

/-- Exactly the texts of ASCII are encoded, and as their UTF-8 bytes. -/
theorem encode_eq_ok_iff {text : String} {p : Payload} :
    encode text = .ok p ↔ (∀ c ∈ text.toList, isAscii c = true) ∧ p.bytes = utf8 text.toList := by
  unfold encode
  split
  · rename_i c i hfind
    obtain ⟨front, back, hsplit, _, hc, _⟩ :=
      (find?_zipIdx_eq_some_iff (p := fun d => !isAscii d)).mp hfind
    simp only [reduceCtorEq, false_iff, not_and]
    intro hall
    have hascii := hall c (by simp [hsplit])
    simp [hascii] at hc
  · rename_i hfind
    have hall : ∀ c ∈ text.toList, isAscii c = true := by
      intro c hc
      obtain ⟨i, hi⟩ := List.mem_iff_getElem?.mp hc
      simpa using List.find?_eq_none.mp hfind (c, i) (by simpa [List.mem_zipIdx_iff_getElem?])
    obtain ⟨bytes, hp⟩ := p
    simp only [Except.ok.injEq, mk.injEq]
    exact ⟨fun h => ⟨hall, h.symm⟩, fun h => h.2.symm⟩

/-- The error names the first character outside ASCII and counts those in front of it. -/
theorem encode_eq_error_iff {text : String} {e : Error} :
    encode text = .error e ↔ ∃ front c back, text.toList = front ++ c :: back ∧
      e = .encoding front.length c ∧ isAscii c = false ∧ ∀ d ∈ front, isAscii d = true := by
  have hsearch : encode text = .error e ↔ ∃ c i,
      text.toList.zipIdx.find? (fun d => !isAscii d.1) = some (c, i) ∧ e = .encoding i c := by
    unfold encode
    split
    · rename_i c i hfind
      change text.toList.zipIdx.find? (fun d => !isAscii d.1) = some (c, i) at hfind
      simp only [hfind, Except.error.injEq, Option.some.injEq, Prod.mk.injEq]
      constructor
      · rintro rfl
        exact ⟨c, i, ⟨rfl, rfl⟩, rfl⟩
      · rintro ⟨_, _, ⟨rfl, rfl⟩, rfl⟩
        rfl
    · rename_i hfind
      change text.toList.zipIdx.find? (fun d => !isAscii d.1) = none at hfind
      simp [hfind]
  simp only [hsearch, find?_zipIdx_eq_some_iff (p := fun d => !isAscii d)]
  constructor
  · rintro ⟨c, _, ⟨front, back, hsplit, rfl, hc, hfront⟩, rfl⟩
    exact ⟨front, c, back, hsplit, rfl, by simpa using hc, by simpa using hfront⟩
  · rintro ⟨front, c, back, hsplit, rfl, hc, hfront⟩
    exact ⟨c, _, ⟨front, back, hsplit, rfl, by simpa using hc, by simpa using hfront⟩, rfl⟩

end Payload

end UdpBench
