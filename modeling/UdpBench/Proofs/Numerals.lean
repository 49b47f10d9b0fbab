import UdpBench.Proofs.Escaping

namespace UdpBench

/-- Digits of a base that stand for a number. Letters may be in either case and zeros may stand in
front. -/
structure IsNumeral (base n : Nat) (ds : List Char) : Prop where
  ne_nil : ds ≠ []
  digits : ∀ d ∈ ds, isDigitOf base d = true
  value : numeralValue base ds = n

/-- Nothing that would carry a numeral on. -/
def NoDigit (base : Nat) (rest : List Char) : Prop := ∀ c ∈ rest.head?, isDigitOf base c = false

section

variable {base bound n : Nat} {allowed : List Char → Bool} {c d : Char} {cs ds rest : List Char}

theorem NoDigit.nil (base : Nat) : NoDigit base [] := by simp [NoDigit]

theorem noDigit_cons_iff : NoDigit base (c :: rest) ↔ isDigitOf base c = false := by
  simp [NoDigit]

/-- What is a digit of a base is a digit of a larger one. -/
theorem isDigitOf_mono {larger : Nat} (hle : base ≤ larger) (h : isDigitOf base c = true) :
    isDigitOf larger c = true := by
  simp only [isDigitOf, decide_eq_true_eq] at h ⊢
  exact Nat.lt_of_lt_of_le h hle

theorem NoDigit.mono {larger : Nat} (hle : base ≤ larger) (h : NoDigit larger rest) :
    NoDigit base rest := by
  intro c hc
  refine Bool.eq_false_iff.mpr fun hdigit => ?_
  exact Bool.eq_false_iff.mp (h c hc) (isDigitOf_mono hle hdigit)

theorem noDigit_dropWhile (base : Nat) (cs : List Char) :
    NoDigit base (cs.dropWhile (isDigitOf base)) := by
  intro c hc
  have hhead := List.head?_dropWhile_not (isDigitOf base) cs
  rw [Option.mem_def.mp hc] at hhead
  simpa using hhead

namespace IsNumeral

theorem takeWhile_append (h : IsNumeral base n ds) (hrest : NoDigit base rest) :
    (ds ++ rest).takeWhile (isDigitOf base) = ds := by
  rw [List.takeWhile_append_of_pos h.digits]
  cases rest with
  | nil => simp
  | cons c rest => simp [noDigit_cons_iff.mp hrest]

theorem dropWhile_append (h : IsNumeral base n ds) (hrest : NoDigit base rest) :
    (ds ++ rest).dropWhile (isDigitOf base) = rest := by
  rw [List.dropWhile_append_of_pos h.digits]
  cases rest with
  | nil => rfl
  | cons c rest => simp [noDigit_cons_iff.mp hrest]

end IsNumeral

/-- A numeral is read in full, and nothing else is. -/
theorem readNumeral_eq_some_iff : readNumeral base bound allowed cs = some (n, rest) ↔
    ∃ ds, cs = ds ++ rest ∧ IsNumeral base n ds ∧ n < bound ∧ allowed ds = true ∧
      NoDigit base rest := by
  constructor
  · intro h
    simp only [readNumeral, Option.ite_none_right_eq_some, Bool.and_eq_true, decide_eq_true_eq,
      Bool.not_eq_true', List.isEmpty_eq_false_iff, Option.some.injEq, Prod.mk.injEq] at h
    obtain ⟨⟨⟨hne, hallowed⟩, hlt⟩, rfl, rfl⟩ := h
    refine ⟨_, List.takeWhile_append_dropWhile.symm, ⟨hne, ?_, rfl⟩, hlt, hallowed,
      noDigit_dropWhile base cs⟩
    intro d hd
    exact List.all_eq_true.mp List.all_takeWhile d hd
  · rintro ⟨ds, rfl, h, hlt, hallowed, hrest⟩
    simp [readNumeral, h.takeWhile_append hrest, h.dropWhile_append hrest, h.ne_nil, hallowed,
      h.value, hlt]

theorem readNumeral_eq_none (h : NoDigit base cs) : readNumeral base bound allowed cs = none := by
  rw [Option.eq_none_iff_forall_ne_some]
  rintro ⟨n, rest⟩ hread
  obtain ⟨ds, rfl, hds, -⟩ := readNumeral_eq_some_iff.mp hread
  cases ds with
  | nil => exact hds.ne_nil rfl
  | cons d ds => exact Bool.eq_false_iff.mp (h d rfl) (hds.digits d List.mem_cons_self)

theorem numeralValue_concat (base : Nat) (ds : List Char) (d : Char) :
    numeralValue base (ds ++ [d]) = numeralValue base ds * base + digitValue d := by
  simp [numeralValue]

theorem mem_toDigits {base n : Nat} (hb : 1 < base) {c : Char} (hc : c ∈ Nat.toDigits base n) :
    ∃ k < base, c = Nat.digitChar k := by
  induction n using Nat.strongRecOn with
  | ind n ih =>
    rcases Nat.lt_or_ge n base with hlt | hge
    · rw [Nat.toDigits_of_lt_base hlt, List.mem_singleton] at hc
      exact ⟨n, hlt, hc⟩
    · rw [Nat.toDigits_of_base_le hb hge] at hc
      rcases List.mem_append.mp hc with hc | hc
      · exact ih (n / base) (Nat.div_lt_self (by omega) hb) hc
      · exact ⟨n % base, Nat.mod_lt _ (by omega), List.mem_singleton.mp hc⟩

theorem numeralValue_toDigits (hb : 1 < base) (hle : base ≤ 16) (n : Nat) :
    numeralValue base (Nat.toDigits base n) = n := by
  have hdigit {k : Nat} (hk : k < base) : digitValue (Nat.digitChar k) = k :=
    (digitChar_plain (Nat.lt_of_lt_of_le hk hle)).2.2.2
  induction n using Nat.strongRecOn with
  | ind n ih =>
    rcases Nat.lt_or_ge n base with hlt | hge
    · rw [Nat.toDigits_of_lt_base hlt]
      simp [numeralValue, hdigit hlt]
    · rw [Nat.toDigits_of_base_le hb hge, numeralValue_concat,
        ih (n / base) (Nat.div_lt_self (by omega) hb), hdigit (Nat.mod_lt n (by omega)),
        Nat.div_add_mod']

theorem isNumeral_toDigits (hb : 1 < base) (hle : base ≤ 16) (n : Nat) :
    IsNumeral base n (Nat.toDigits base n) := by
  refine ⟨Nat.toDigits_ne_nil, ?_, numeralValue_toDigits hb hle n⟩
  intro d hd
  obtain ⟨k, hk, rfl⟩ := mem_toDigits hb hd
  rw [isDigitOf, (digitChar_plain (Nat.lt_of_lt_of_le hk hle)).2.2.2]
  exact decide_eq_true hk

theorem isNumeral_decimal (n : Nat) : IsNumeral 10 n (decimal n) :=
  isNumeral_toDigits (by decide) (by decide) n

theorem isNumeral_hexadecimal (n : Nat) : IsNumeral 16 n (hexadecimal n) :=
  isNumeral_toDigits (by decide) (by decide) n

theorem head?_decimal (hn : 0 < n) : (decimal n).head? ≠ some '0' := by
  induction n using Nat.strongRecOn with
  | ind n ih =>
    rw [decimal]
    rcases Nat.lt_or_ge n 10 with hlt | hge
    · rw [Nat.toDigits_of_lt_base hlt, List.head?_singleton]
      intro hzero
      have hvalue := (digitChar_plain (show n < 16 by omega)).2.2.2
      rw [Option.some.inj hzero] at hvalue
      exact Nat.ne_of_gt hn hvalue.symm
    · rw [Nat.toDigits_of_base_le (by decide) hge, List.head?_append,
        List.head?_eq_some_head Nat.toDigits_ne_nil, Option.some_or,
        ← List.head?_eq_some_head Nat.toDigits_ne_nil]
      exact ih (n / 10) (Nat.div_lt_self hn (by decide)) (by omega)

theorem digitValue_lt_ten (h : isDigitOf 10 c = true) : digitValue c < 10 := of_decide_eq_true h

/-- Letters are the only digits that can be written in two ways. -/
theorem digitChar_digitValue (h : isDigitOf 10 c = true) : Nat.digitChar (digitValue c) = c := by
  have hlt := digitValue_lt_ten h
  by_cases hc : '0' ≤ c ∧ c ≤ '9'
  · have hvalue : digitValue c = c.toNat - 48 := if_pos hc
    have hrange : 48 ≤ c.toNat ∧ c.toNat ≤ 57 := hc
    apply Char.toNat_inj.mp
    rw [Nat.toNat_digitChar_of_lt_ten hlt, hvalue]
    omega
  · rw [digitValue, if_neg hc] at hlt
    split at hlt
    · omega
    · split at hlt <;> omega

/-- Digits behind a number carry it on. -/
theorem decimal_append {acc : Nat} (hacc : 0 < acc) (h : ∀ d ∈ ds, isDigitOf 10 d = true) :
    decimal acc ++ ds = decimal (ds.foldl (fun n d => n * 10 + digitValue d) acc) := by
  induction ds generalizing acc with
  | nil => simp
  | cons d ds ih =>
    rw [List.forall_mem_cons] at h
    have hlt := digitValue_lt_ten h.1
    have hnext : decimal acc ++ [d] = decimal (acc * 10 + digitValue d) := by
      rw [decimal, decimal, Nat.mul_comm, ← Nat.toDigits_append_toDigits (by decide) hacc hlt,
        Nat.toDigits_of_lt_base hlt, digitChar_digitValue h.1]
    rw [List.foldl_cons, ← ih (by omega) h.2, ← hnext, List.append_assoc, List.singleton_append]

/-- Without a zero in front there is one way to write a number in base ten. -/
theorem IsNumeral.eq_decimal (h : IsNumeral 10 n ds)
    (hzero : ds.length = 1 ∨ ds.head? ≠ some '0') : ds = decimal n := by
  obtain ⟨hne, hdigits, rfl⟩ := h
  cases ds with
  | nil => exact absurd rfl hne
  | cons d ds =>
    rw [List.forall_mem_cons] at hdigits
    have hfirst : decimal (digitValue d) = [d] := by
      rw [decimal, Nat.toDigits_of_lt_base (digitValue_lt_ten hdigits.1),
        digitChar_digitValue hdigits.1]
    rw [numeralValue, List.foldl_cons, Nat.zero_mul, Nat.zero_add]
    rcases hzero with hone | hzero
    · obtain rfl : ds = [] := by simpa using hone
      exact hfirst.symm
    · have hpos : 0 < digitValue d := by
        refine Nat.pos_of_ne_zero fun h0 => hzero ?_
        rw [← digitChar_digitValue hdigits.1, h0]
        rfl
      rw [← decimal_append hpos hdigits.2, hfirst, List.singleton_append]

end

end UdpBench
