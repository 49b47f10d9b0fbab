import UdpBench.Address.Printer
import UdpBench.Proofs.Numerals

namespace UdpBench

/-- Printable, and neither a blank nor a quote. -/
def isPlain (c : Char) : Bool := '#' ≤ c && c ≤ '~'

theorem isPrintable_of_isPlain {c : Char} (h : isPlain c = true) : isPrintable c = true := by
  simp only [isPlain, isPrintable, Bool.and_eq_true, decide_eq_true_eq] at h ⊢
  exact ⟨Char.le_trans (by decide) h.1, h.2⟩

theorem ne_of_isPlain {c : Char} (h : isPlain c = true) : c ≠ ' ' ∧ c ≠ '\x22' := by
  constructor <;> rintro rfl <;> cases h

/-! Numerals and addresses are plain. -/

theorem all_toDigits {base : Nat} (hb : 1 < base) (hle : base ≤ 16) (n : Nat) :
    (Nat.toDigits base n).all isPlain = true := by
  have hdigit : ∀ k < 16, isPlain (Nat.digitChar k) = true := by decide
  rw [List.all_eq_true]
  intro c hc
  obtain ⟨k, hk, rfl⟩ := mem_toDigits hb hc
  exact hdigit k (Nat.lt_of_lt_of_le hk hle)

theorem all_decimal (n : Nat) : (decimal n).all isPlain = true :=
  all_toDigits (by decide) (by decide) n

theorem all_hexadecimal (n : Nat) : (hexadecimal n).all isPlain = true :=
  all_toDigits (by decide) (by decide) n

theorem Ipv4.all_chars (ip : Ipv4) : ip.chars.all isPlain = true := by
  have hpoint : isPlain '.' = true := by decide
  simp only [chars, List.all_append, List.all_cons, all_decimal, hpoint, Bool.and_self]

theorem Ipv6.all_groupChars (groups : List UInt16) : (groupChars groups).all isPlain = true := by
  have hcolon : isPlain ':' = true := by decide
  fun_induction groupChars groups with
  | case1 => rfl
  | case2 g => exact all_hexadecimal _
  | case3 g gs _ ih =>
    simp only [List.all_append, List.all_cons, all_hexadecimal, hcolon, ih, Bool.and_self]

theorem Ipv6.all_compressed (groups : List UInt16) : (compressed groups).all isPlain = true := by
  have hcolon : isPlain ':' = true := by decide
  by_cases hone : (longestZeros groups).2 ≤ 1 <;>
    simp only [compressed, hone, ↓reduceIte, List.all_append, List.all_cons, all_groupChars, hcolon,
      Bool.and_self]

theorem Ipv6.all_chars (ip : Ipv6) : ip.chars.all isPlain = true := by
  have hmapped : [':', ':', 'f', 'f', 'f', 'f', ':'].all isPlain = true := by decide
  unfold chars
  split
  · rw [List.all_append, hmapped, Ipv4.all_chars, Bool.and_self]
  · exact all_compressed ip.groups

theorem Address.all_chars (a : Address) : a.chars.all isPlain = true := by
  have hcolon : isPlain ':' = true := by decide
  have hpercent : isPlain '%' = true := by decide
  have hopen : isPlain '[' = true := by decide
  have hclose : isPlain ']' = true := by decide
  cases a with
  | v4 ip port =>
    simp only [chars, List.all_append, List.all_cons, Ipv4.all_chars, all_decimal, hcolon,
      Bool.and_self]
  | v6 ip port scope =>
    by_cases hscope : scope = 0 <;>
      simp only [chars, hscope, ↓reduceIte, List.all_append, List.all_cons, List.all_nil,
        Ipv6.all_chars, all_decimal, hcolon, hpercent, hopen, hclose, Bool.and_self]

end UdpBench
