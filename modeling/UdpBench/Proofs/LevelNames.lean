import UdpBench.Level
import UdpBench.Proofs.Decoding

namespace UdpBench

/-- What the lower case of a character outside ASCII is made of: U+0130 becomes an `i` with a dot,
the sign U+212A a `k`, and no other gives a character of ASCII. -/
def IsForeign (c : Char) : Prop := isAscii c = false ∨ c = 'i' ∨ c = 'k'

instance (c : Char) : Decidable (IsForeign c) := inferInstanceAs (Decidable (_ ∨ _))

/-- Two texts that differ in nothing but the case of ASCII letters. -/
def SameButCase (s t : String) : Prop := s.map Char.toLower = t.map Char.toLower

section Ascii

variable {c : Char}

theorem toLower_of_not_ascii (h : isAscii c = false) : c.toLower = c := by
  have hc := isAscii_eq_false_iff.mp h
  refine dif_neg fun hletter => ?_
  have hle : c.toNat ≤ 0x5a := hletter.2
  omega

theorem toUpper_of_not_ascii (h : isAscii c = false) : c.toUpper = c := by
  have hc := isAscii_eq_false_iff.mp h
  refine dif_neg fun hletter => ?_
  have hle : c.toNat ≤ 0x7a := hletter.2
  omega

/-- What holds of each of the 128 characters of ASCII. -/
theorem of_ascii {p : Char → Prop} (hall : ∀ n < 0x80, p (Char.ofNat n)) (hc : isAscii c = true) :
    p c := by
  have h := hall c.toNat (of_decide_eq_true hc)
  rwa [Char.ofNat_toNat] at h

theorem toLower_toUpper (c : Char) : c.toUpper.toLower = c.toLower := by
  cases hc : isAscii c with
  | false => rw [toUpper_of_not_ascii hc]
  | true => exact of_ascii (p := fun c => c.toUpper.toLower = c.toLower) (by decide) hc

theorem toLower_toLower (c : Char) : c.toLower.toLower = c.toLower := by
  cases hc : isAscii c with
  | false => rw [toLower_of_not_ascii hc, toLower_of_not_ascii hc]
  | true => exact of_ascii (p := fun c => c.toLower.toLower = c.toLower) (by decide) hc

theorem IsForeign.toLower (h : IsForeign c) : c.toLower = c := by
  rcases h with h | rfl | rfl
  · exact toLower_of_not_ascii h
  · rfl
  · rfl

end Ascii

namespace CaseRange

/-- Every character of the range has its lower case outside ASCII, or there is just one and its
lower case is `k`. The lower case is never a surrogate or out of range, where `Char.ofNat` would
give a character of ASCII. -/
def LandsForeign (r : CaseRange) : Prop :=
  (0x80 ≤ r.lower ∨ r.lower = 'k'.toNat ∧ r.first = r.last) ∧
    (r.lower + (r.last - r.first) < 0xd800 ∨
      0xdfff < r.lower ∧ r.lower + (r.last - r.first) < 0x110000)

instance (r : CaseRange) : Decidable r.LandsForeign := inferInstanceAs (Decidable (_ ∧ _))

theorem landsForeign_of_mem : ∀ r ∈ table, r.LandsForeign := by decide +kernel

theorem LandsForeign.isForeign {r : CaseRange} (h : r.LandsForeign) {n : Nat}
    (hn : r.contains n = true) : IsForeign (Char.ofNat (r.lower + (n - r.first))) := by
  simp only [contains, Bool.and_eq_true, decide_eq_true_eq] at hn
  obtain ⟨⟨hfirst, hlast⟩, -⟩ := hn
  obtain ⟨hlower | ⟨hlower, hsingle⟩, hvalid⟩ := h
  · left
    have hchar : (r.lower + (n - r.first)).isValidChar := by
      simp only [Nat.isValidChar]
      omega
    have hnat : (Char.ofNat (r.lower + (n - r.first))).toNat = r.lower + (n - r.first) := by
      rw [Char.ofNat, dif_pos hchar]
      rfl
    rw [isAscii, hnat]
    exact decide_eq_false (by omega)
  · have hn : n - r.first = 0 := by omega
    rw [hn, hlower]
    decide

/-- The range lies within one of those that have a case. -/
def IsCased (r : CaseRange) : Prop :=
  (CharSet.cased.ranges.any fun (lo, hi) => lo ≤ r.first && r.last ≤ hi) = true

instance (r : CaseRange) : Decidable r.IsCased := inferInstanceAs (Decidable (_ = _))

theorem isCased_of_mem : ∀ r ∈ table, r.IsCased := by decide +kernel

theorem IsCased.contains {r : CaseRange} (h : r.IsCased) {c : Char}
    (hc : r.contains c.toNat = true) : CharSet.cased.contains c = true := by
  simp only [CaseRange.contains, Bool.and_eq_true, decide_eq_true_eq] at hc
  simp only [IsCased, List.any_eq_true, Bool.and_eq_true, decide_eq_true_eq] at h
  obtain ⟨⟨lo, hi⟩, hmem, hlo, hhi⟩ := h
  exact CharSet.contains_iff.mpr ⟨lo, hi, hmem, by omega, by omega⟩

end CaseRange

/-- A character with another lower case is one that has a case. -/
theorem cased_of_lowerChar_ne {c : Char} (h : lowerChar c ≠ [c]) :
    CharSet.cased.contains c = true := by
  unfold lowerChar at h
  split at h
  · rename_i hc
    have hletter : ∀ n < 0x80, (Char.ofNat n).toLower ≠ Char.ofNat n →
        CharSet.cased.contains (Char.ofNat n) = true := by decide
    exact of_ascii (p := fun c => c.toLower ≠ c → CharSet.cased.contains c = true) hletter
      (decide_eq_true hc) fun hsame => h (by rw [hsame])
  · split at h
    · rename_i hdotted
      rw [CharSet.contains, hdotted]
      decide
    · split at h
      · rename_i r hr
        have hfound := List.find?_some hr
        exact (CaseRange.isCased_of_mem r (List.mem_of_find?_eq_some hr)).contains hfound
      · exact absurd rfl h

theorem isForeign_of_mem_lowerChar {c d : Char} (hc : isAscii c = false) (hd : d ∈ lowerChar c) :
    IsForeign d := by
  rw [lowerChar, if_neg (Nat.not_lt.mpr (isAscii_eq_false_iff.mp hc))] at hd
  split at hd
  · simp only [List.mem_cons, List.not_mem_nil, or_false] at hd
    rcases hd with rfl | rfl <;> decide
  · split at hd
    · rename_i r hr
      rw [List.mem_singleton.mp hd]
      have hfound := List.find?_some hr
      exact (CaseRange.landsForeign_of_mem r (List.mem_of_find?_eq_some hr)).isForeign hfound
    · rw [List.mem_singleton.mp hd]
      exact .inl hc

theorem lowerChar_ne_nil (c : Char) : lowerChar c ≠ [] := by
  fun_cases lowerChar c <;> exact List.cons_ne_nil _ _

section Lowercase

variable {before cs w : List Char} {c : Char}

theorem lowerAfter_cons_of_ascii (hc : isAscii c = true) :
    lowerAfter before (c :: cs) = c.toLower :: lowerAfter (c :: before) cs := by
  have hsigma : c ≠ 'Σ' := by
    rintro rfl
    exact absurd hc (by decide)
  rw [lowerAfter, if_neg hsigma, lowerChar, if_pos (of_decide_eq_true hc)]
  rfl

/-- A character outside ASCII leaves at least one foreign character, whatever stands around it. -/
theorem lowerAfter_cons_of_not_ascii (before cs : List Char) (hc : isAscii c = false) :
    ∃ d ds, lowerAfter before (c :: cs) = d :: ds ++ lowerAfter (c :: before) cs ∧
      ∀ x ∈ d :: ds, IsForeign x := by
  rw [lowerAfter]
  split
  · refine ⟨_, [], rfl, fun x hx => ?_⟩
    rw [List.mem_singleton.mp hx]
    split <;> decide
  · obtain ⟨d, ds, he⟩ := List.exists_cons_of_ne_nil (lowerChar_ne_nil c)
    rw [he]
    exact ⟨d, ds, rfl, fun x hx => isForeign_of_mem_lowerChar hc (he ▸ hx)⟩

theorem toLower_of_mem_lowerAfter : ∀ d ∈ lowerAfter before cs, d.toLower = d := by
  induction cs generalizing before with
  | nil => simp [lowerAfter]
  | cons c cs ih =>
    intro d hd
    cases hc : isAscii c with
    | true =>
      rw [lowerAfter_cons_of_ascii hc] at hd
      rcases List.mem_cons.mp hd with rfl | hd
      · exact toLower_toLower c
      · exact ih d hd
    | false =>
      obtain ⟨x, xs, he, hforeign⟩ := lowerAfter_cons_of_not_ascii before cs hc
      rw [he] at hd
      rcases List.mem_append.mp hd with hd | hd
      · exact (hforeign d hd).toLower
      · exact ih d hd

/-- Against a word without foreign characters, the rules of Unicode find what those of ASCII do. -/
theorem lowerAfter_eq_iff (hw : ∀ d ∈ w, ¬IsForeign d) :
    lowerAfter before cs = w ↔ cs.map Char.toLower = w := by
  induction cs generalizing before w with
  | nil => rfl
  | cons c cs ih =>
    cases hc : isAscii c with
    | true =>
      rw [lowerAfter_cons_of_ascii hc, List.map_cons]
      cases w with
      | nil => exact iff_of_false (List.cons_ne_nil _ _) (List.cons_ne_nil _ _)
      | cons d w =>
        rw [List.cons.injEq, List.cons.injEq, ih fun x hx => hw x (List.mem_cons_of_mem d hx)]
    | false =>
      obtain ⟨d, ds, he, hforeign⟩ := lowerAfter_cons_of_not_ascii before cs hc
      rw [he, List.map_cons, toLower_of_not_ascii hc]
      refine iff_of_false ?_ ?_
      · rintro rfl
        exact hw d List.mem_cons_self (hforeign d List.mem_cons_self)
      · rintro rfl
        exact hw c List.mem_cons_self (.inl hc)

theorem lowercase_eq_iff {s t : String} (ht : ∀ d ∈ t.toList, ¬IsForeign d) :
    lowercase s = t ↔ s.map Char.toLower = t := by
  rw [← String.toList_inj, ← String.toList_inj, String.toList_map, lowercase, String.toList_ofList]
  exact lowerAfter_eq_iff ht

theorem map_toLower_lowercase (s : String) : (lowercase s).map Char.toLower = lowercase s := by
  rw [← String.toList_inj, String.toList_map, lowercase, String.toList_ofList]
  exact (List.map_congr_left toLower_of_mem_lowerAfter).trans (List.map_id _)

theorem map_toLower_toUpper (s : String) :
    (s.map Char.toUpper).map Char.toLower = s.map Char.toLower := by
  rw [← String.toList_inj]
  simp only [String.toList_map, List.map_map, Function.comp_def, toLower_toUpper]

end Lowercase

namespace Level

variable {s t : String} {l : Level}

/-- The lower case of a name, which is what `parse` compares with. -/
def word : Level → String
  | trace => "trace"
  | debug => "debug"
  | info => "info"
  | warn => "warn"
  | error => "error"

theorem map_toLower_name (l : Level) : l.name.map Char.toLower = l.word := by
  cases l <;> decide +kernel

theorem not_isForeign_of_mem_word (hl : l ≠ info) : ∀ d ∈ l.word.toList, ¬IsForeign d := by
  have hall : l.word.toList.all (fun d => ¬IsForeign d) = true := by
    cases l with
    | info => exact absurd rfl hl
    | _ => decide +kernel
  exact fun d hd => of_decide_eq_true (List.all_eq_true.mp hall d hd)

theorem parse_eq_iff_lowercase (hl : l ≠ info) : parse s = l ↔ lowercase s = l.word := by
  unfold parse
  split <;> cases l <;> simp_all [word]

/-- A name other than `info` is found exactly where ASCII alone finds it. -/
theorem parse_eq_iff (hl : l ≠ info) : parse s = l ↔ SameButCase s l.name := by
  rw [parse_eq_iff_lowercase hl, lowercase_eq_iff (not_isForeign_of_mem_word hl), SameButCase,
    map_toLower_name]

theorem parse_eq_info_iff : parse s = info ↔ ∀ l, l ≠ info → ¬SameButCase s l.name := by
  constructor
  · intro hs l hl hsame
    exact hl ((parse_eq_iff hl).mpr hsame ▸ hs)
  · intro h
    refine Decidable.byContradiction fun hs => ?_
    exact h _ hs ((parse_eq_iff hs).mp rfl)

theorem parse_ext (h : ∀ l, l ≠ info → (parse s = l ↔ parse t = l)) : parse s = parse t := by
  by_cases hs : parse s = info
  · by_cases ht : parse t = info
    · rw [hs, ht]
    · exact (h _ ht).mpr rfl
  · exact ((h _ hs).mp rfl).symm

theorem parse_lowercase (s : String) : parse (lowercase s) = parse s :=
  parse_ext fun l hl => by
    rw [parse_eq_iff hl, SameButCase, map_toLower_lowercase, map_toLower_name,
      parse_eq_iff_lowercase hl]

theorem parse_map_toUpper (s : String) : parse (s.map Char.toUpper) = parse s :=
  parse_ext fun l hl => by
    rw [parse_eq_iff hl, parse_eq_iff hl, SameButCase, SameButCase, map_toLower_toUpper]

theorem parse_of_not_ascii {c : Char} (hc : c ∈ s.toList) (hascii : isAscii c = false) :
    parse s = info := by
  rw [parse_eq_info_iff]
  intro l hl hsame
  have hmem : c ∈ l.word.toList := by
    rw [← map_toLower_name, ← hsame, String.toList_map]
    exact List.mem_map.mpr ⟨c, hc, toLower_of_not_ascii hascii⟩
  exact not_isForeign_of_mem_word hl c hmem (.inl hascii)

/-- A level other than `info` belongs to exactly the texts that match its name letter by letter up
to the case of ASCII. The rules of Unicode, which make a letter of ASCII out of some other signs
and change the length of a text, add none. -/
theorem parse_by_ascii_alone (s : String) :
    (∀ l, l ≠ info → (parse s = l ↔ s.length = l.name.length ∧ SameButCase s l.name)) ∧
      (parse s = info ↔ ∀ l, l ≠ info → ¬(s.length = l.name.length ∧ SameButCase s l.name)) ∧
      ((∃ c ∈ s.toList, isAscii c = false) → parse s = info) ∧
      (lowercase "\u212a" = "k" ∧ lowercase "\u0130" = "i\u0307") ∧
      parse (lowercase s) = parse s ∧ parse (s.map Char.toUpper) = parse s := by
  have hlength {t : String} : s.length = t.length ∧ SameButCase s t ↔ SameButCase s t :=
    and_iff_right_of_imp fun hsame => by simpa using congrArg String.length hsame
  simp only [hlength]
  refine ⟨fun l hl => parse_eq_iff hl, parse_eq_info_iff, ?_, ?_, parse_lowercase s,
    parse_map_toUpper s⟩
  · rintro ⟨c, hc, hascii⟩
    exact parse_of_not_ascii hc hascii
  · decide +kernel

example : parse "tRaCe" = trace ∧ parse "T\u024cACE" = info := by decide +kernel

end Level

end UdpBench
