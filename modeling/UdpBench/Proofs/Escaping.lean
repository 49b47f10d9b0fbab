import UdpBench.Datagram

namespace UdpBench

def isPrintable (c : Char) : Bool := ' ' ≤ c && c ≤ '~'

/-- The bytes that are escaped by a letter or sign of their own. -/
def shortEscapes : List (UInt8 × Char) :=
  [(0x09, 't'), (0x0a, 'n'), (0x0d, 'r'), (0x22, '\x22'), (0x27, '\x27'), (0x5c, '\\')]

/-- All that a byte can be escaped as. -/
inductive Escaped (b : UInt8) : List Char → Prop
  | short {c : Char} (named : (b, c) ∈ shortEscapes) : Escaped b ['\\', c]
  | graphic (ge : 0x20 ≤ b.toNat) (lt : b.toNat < 0x7f) (notQuote : b.toNat ≠ 0x22)
    (notBackslash : b.toNat ≠ 0x5c) : Escaped b [Char.ofNat b.toNat]
  | hex : Escaped b ['\\', 'x', Nat.digitChar (b.toNat / 16), Nat.digitChar (b.toNat % 16)]

theorem escaped (b : UInt8) : Escaped b (escapeByte b) := by
  unfold escapeByte
  split
  · exact .short (by simp [shortEscapes, *])
  split
  · exact .short (by simp [shortEscapes, *])
  split
  · exact .short (by simp [shortEscapes, *])
  split
  · exact .short (by simp [shortEscapes, *])
  split
  · exact .short (by simp [shortEscapes, *])
  split
  · exact .short (by simp [shortEscapes, *])
  split
  · rename_i hquote _ hbackslash hgraphic
    refine .graphic hgraphic.1 hgraphic.2 ?_ ?_
    · exact fun h => hquote (UInt8.toNat_inj.mp h)
    · exact fun h => hbackslash (UInt8.toNat_inj.mp h)
  · exact .hex

/-- Digits are printable, and neither quotes nor backslashes. -/
theorem digitChar_plain {n : Nat} (h : n < 16) : isPrintable (Nat.digitChar n) = true ∧
    Nat.digitChar n ≠ '\x22' ∧ Nat.digitChar n ≠ '\\' ∧ digitValue (Nat.digitChar n) = n := by
  revert n
  decide

theorem ofNat_graphic {n : Nat} (hge : 0x20 ≤ n) (hlt : n < 0x7f) :
    isPrintable (Char.ofNat n) = true ∧ (Char.ofNat n).toNat = n := by
  have hall : ∀ k < 0x7f, 0x20 ≤ k →
      isPrintable (Char.ofNat k) = true ∧ (Char.ofNat k).toNat = k := by decide
  exact hall n hlt hge

/-- What is escaped is printable. -/
theorem isPrintable_escapeByte {b : UInt8} {c : Char} (hc : c ∈ escapeByte b) :
    isPrintable c = true := by
  have hb := b.toNat_lt
  have hescaped := escaped b
  generalize escapeByte b = cs at hc hescaped
  cases hescaped with
  | short named =>
    have hnamed : ∀ e ∈ shortEscapes, isPrintable e.2 = true := by decide
    rcases List.mem_cons.mp hc with rfl | hc
    · rfl
    · rw [List.mem_singleton.mp hc]
      exact hnamed _ named
  | graphic ge lt =>
    rw [List.mem_singleton.mp hc]
    exact (ofNat_graphic ge lt).1
  | hex =>
    simp only [List.mem_cons, List.not_mem_nil, or_false] at hc
    rcases hc with rfl | rfl | rfl | rfl
    · rfl
    · rfl
    · exact (digitChar_plain (by omega)).1
    · exact (digitChar_plain (by omega)).1

/-- Reads up to the first quote that is not escaped. Gives what stands in front of it and what is
behind. -/
def untilQuote : (inEscape : Bool) → List Char → Option (List Char × List Char)
  | _, [] => none
  | true, c :: rest => (untilQuote false rest).map fun (body, behind) => (c :: body, behind)
  | false, c :: rest =>
    if c = '\x22' then some ([], rest)
    else (untilQuote (c == '\\') rest).map fun (body, behind) => (c :: body, behind)

theorem untilQuote_plain {c : Char} (hquote : c ≠ '\x22') (hbackslash : c ≠ '\\')
    (rest : List Char) : untilQuote false (c :: rest) =
      (untilQuote false rest).map fun (body, behind) => (c :: body, behind) := by
  simp [untilQuote, hquote, beq_eq_false_iff_ne.mpr hbackslash]

theorem untilQuote_escape (c : Char) (rest : List Char) : untilQuote false ('\\' :: c :: rest) =
    (untilQuote false rest).map fun (body, behind) => ('\\' :: c :: body, behind) := by
  simp [untilQuote, Function.comp_def]

theorem untilQuote_escapeByte (b : UInt8) (rest : List Char) :
    untilQuote false (escapeByte b ++ rest) =
      (untilQuote false rest).map fun (body, behind) => (escapeByte b ++ body, behind) := by
  have hb := b.toNat_lt
  have hescaped := escaped b
  generalize escapeByte b = cs at hescaped
  cases hescaped with
  | short named => exact untilQuote_escape _ rest
  | graphic ge lt notQuote notBackslash =>
    have hvalue := (ofNat_graphic ge lt).2
    have hquote : Char.ofNat b.toNat ≠ '\x22' := fun h => notQuote (by rw [← hvalue, h]; rfl)
    have hbackslash : Char.ofNat b.toNat ≠ '\\' := fun h => notBackslash (by rw [← hvalue, h]; rfl)
    exact untilQuote_plain hquote hbackslash rest
  | hex =>
    obtain ⟨_, hhi, hhi', _⟩ := digitChar_plain (n := b.toNat / 16) (by omega)
    obtain ⟨_, hlo, hlo', _⟩ := digitChar_plain (n := b.toNat % 16) (by omega)
    simp only [List.cons_append, List.nil_append, untilQuote_escape, untilQuote_plain hhi hhi',
      untilQuote_plain hlo hlo', Option.map_map, Function.comp_def]

/-- Escaped bytes have no quote that closes them. -/
theorem untilQuote_flatMap (bytes : Bytes) (rest : List Char) :
    untilQuote false (bytes.flatMap escapeByte ++ rest) =
      (untilQuote false rest).map fun (body, behind) =>
        (bytes.flatMap escapeByte ++ body, behind) := by
  induction bytes with
  | nil => simp
  | cons b bytes ih =>
    rw [List.flatMap_cons, List.append_assoc, untilQuote_escapeByte, ih, Option.map_map]
    simp [Function.comp_def]

/-- Reads one escaped byte. -/
def readByte : List Char → Option (UInt8 × List Char)
  | [] => none
  | c :: rest =>
    if c = '\\' then
      match rest with
      | 'x' :: hi :: lo :: rest => some ((digitValue hi * 16 + digitValue lo).toUInt8, rest)
      | sign :: rest => (shortEscapes.find? fun e => e.2 == sign).map fun e => (e.1, rest)
      | [] => none
    else some (c.toNat.toUInt8, rest)

theorem readByte_escapeByte (b : UInt8) (rest : List Char) :
    readByte (escapeByte b ++ rest) = some (b, rest) := by
  have hb := b.toNat_lt
  have hescaped := escaped b
  generalize escapeByte b = cs at hescaped
  cases hescaped with
  | short named =>
    simp only [shortEscapes, List.mem_cons, Prod.mk.injEq, List.not_mem_nil, or_false] at named
    rcases named with ⟨rfl, rfl⟩ | ⟨rfl, rfl⟩ | ⟨rfl, rfl⟩ | ⟨rfl, rfl⟩ | ⟨rfl, rfl⟩ | ⟨rfl, rfl⟩ <;>
      rfl
  | graphic ge lt notQuote notBackslash =>
    have hvalue := (ofNat_graphic ge lt).2
    have hbackslash : Char.ofNat b.toNat ≠ '\\' := fun h => notBackslash (by rw [← hvalue, h]; rfl)
    simp [readByte, hbackslash, hvalue]
  | hex =>
    obtain ⟨_, _, _, hhi⟩ := digitChar_plain (n := b.toNat / 16) (by omega)
    obtain ⟨_, _, _, hlo⟩ := digitChar_plain (n := b.toNat % 16) (by omega)
    have hvalue : b.toNat / 16 * 16 + b.toNat % 16 = b.toNat := by omega
    simp [readByte, hhi, hlo, hvalue]

/-- Reads as many escaped bytes, or all that there are. -/
def readBytes : Nat → List Char → Bytes
  | 0, _ => []
  | n + 1, cs =>
    match readByte cs with
    | some (b, rest) => b :: readBytes n rest
    | none => []

theorem readBytes_flatMap (bytes : Bytes) (rest : List Char) :
    readBytes bytes.length (bytes.flatMap escapeByte ++ rest) = bytes := by
  induction bytes with
  | nil => rfl
  | cons b bytes ih =>
    rw [List.flatMap_cons, List.append_assoc, List.length_cons, readBytes, readByte_escapeByte]
    simp only [ih]

namespace Datagram

variable (d : Datagram) (max : Nat)

theorem toList_preview : (d.preview max).toList = (d.bytes.take max).flatMap escapeByte ++
    if max < d.bytes.length then ['.', '.', '.'] else [] := String.toList_ofList

theorem isPrintable_preview {c : Char} (hc : c ∈ (d.preview max).toList) :
    isPrintable c = true := by
  rw [toList_preview] at hc
  rcases List.mem_append.mp hc with hc | hc
  · obtain ⟨b, _, hc⟩ := List.mem_flatMap.mp hc
    exact isPrintable_escapeByte hc
  · split at hc
    · simp only [List.mem_cons, List.not_mem_nil, or_false, or_self] at hc
      rw [hc]
      rfl
    · cases hc

/-- The quote that follows a preview is the first one that is not escaped. -/
theorem untilQuote_preview (rest : List Char) :
    untilQuote false ((d.preview max).toList ++ '\x22' :: rest) =
      some ((d.preview max).toList, rest) := by
  rw [toList_preview, List.append_assoc, untilQuote_flatMap]
  split <;> simp [untilQuote]

/-- The bytes that a preview shows can be read back from it. -/
theorem readBytes_preview (rest : List Char) :
    readBytes (min max d.length) ((d.preview max).toList ++ rest) = d.bytes.take max := by
  have hlen : min max d.length = (d.bytes.take max).length := List.length_take.symm
  rw [toList_preview, hlen, List.append_assoc]
  exact readBytes_flatMap ..

end Datagram

end UdpBench
