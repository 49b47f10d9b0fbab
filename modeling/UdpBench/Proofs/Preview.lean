import UdpBench.Proofs.Escaping

namespace UdpBench

def isQuote (c : Char) : Bool := c == '\x27' || c == '\x22'

/-- A byte takes one, two or four characters. -/
theorem length_escapeByte (b : UInt8) :
    1 ≤ (escapeByte b).length ∧ (escapeByte b).length ≤ 4 := by
  have hescaped := escaped b
  generalize escapeByte b = cs at hescaped
  cases hescaped <;> simp

theorem length_flatMap_escapeByte (bytes : Bytes) :
    bytes.length ≤ (bytes.flatMap escapeByte).length ∧
      (bytes.flatMap escapeByte).length ≤ 4 * bytes.length := by
  induction bytes with
  | nil => simp
  | cons b bytes ih =>
    have hb := length_escapeByte b
    rw [List.flatMap_cons, List.length_append, List.length_cons]
    omega

/-- A quote is written only to stand for itself, behind a backslash. -/
theorem escapeByte_of_quote {b : UInt8} {c : Char} (hmem : c ∈ escapeByte b)
    (hc : isQuote c = true) : escapeByte b = ['\\', c] := by
  have hb := b.toNat_lt
  have hdigit : ∀ n < 16, isQuote (Nat.digitChar n) = false := by decide
  have hescaped := escaped b
  generalize hcs : escapeByte b = cs at hmem hescaped
  cases hescaped with
  | short named =>
    rcases List.mem_cons.mp hmem with rfl | hmem
    · cases hc
    · rw [List.mem_singleton.mp hmem]
  | graphic ge lt notQuote notBackslash =>
    have hvalue := (ofNat_graphic ge lt).2
    rw [List.mem_singleton] at hmem
    simp only [isQuote, Bool.or_eq_true, beq_iff_eq] at hc
    rcases hc with rfl | rfl
    · -- A graphic byte could be a single quote, but that one is not written plainly.
      rw [← hmem] at hvalue
      obtain rfl : b = 0x27 := UInt8.toNat_inj.mp hvalue.symm
      cases hcs
    · rw [← hmem] at hvalue
      exact absurd hvalue.symm notQuote
  | hex =>
    simp only [List.mem_cons, List.not_mem_nil, or_false] at hmem
    rcases hmem with rfl | rfl | rfl | rfl
    · cases hc
    · cases hc
    · rw [hdigit _ (by omega)] at hc
      cases hc
    · rw [hdigit _ (by omega)] at hc
      cases hc

theorem front_of_escape {front back : List Char} {c : Char} (h : front ++ c :: back = ['\\', c])
    (hc : isQuote c = true) : front = ['\\'] := by
  cases front with
  | nil =>
    obtain ⟨rfl, -⟩ := List.cons.inj h
    cases hc
  | cons f front =>
    obtain ⟨rfl, h⟩ := List.cons.inj h
    cases front with
    | nil => rfl
    | cons => simp at h

/-- A quote among escaped bytes is what one of them is, and the backslash in front of it is the one
that escapes it. -/
theorem quote_flatMap {bytes : Bytes} {mark front back : List Char} {c : Char}
    (h : bytes.flatMap escapeByte ++ mark = front ++ c :: back) (hc : isQuote c = true)
    (hmark : c ∉ mark) : ∃ shown b, shown ++ [b] <+: bytes ∧
      front = shown.flatMap escapeByte ++ ['\\'] ∧ escapeByte b = ['\\', c] := by
  induction bytes generalizing front with
  | nil =>
    rw [List.flatMap_nil, List.nil_append] at h
    exact absurd (h ▸ List.mem_append_right _ List.mem_cons_self) hmark
  | cons b bytes ih =>
    rw [List.flatMap_cons, List.append_assoc] at h
    rcases List.append_eq_append_iff.mp h with ⟨later, rfl, hlater⟩ | ⟨rest, hb, hrest⟩
    · obtain ⟨shown, b', hprefix, rfl, hb'⟩ := ih hlater
      exact ⟨b :: shown, b', List.cons_prefix_cons.mpr ⟨rfl, hprefix⟩, by simp, hb'⟩
    · cases rest with
      | nil =>
        rw [List.append_nil] at hb
        have hnil : bytes.flatMap escapeByte ++ mark = [] ++ c :: back := hrest.symm
        obtain ⟨shown, b', -, hfront, -⟩ := ih hnil
        simp at hfront
      | cons r rest =>
        obtain ⟨rfl, -⟩ := List.cons.inj hrest
        have hescape := escapeByte_of_quote (hb ▸ List.mem_append_right _ List.mem_cons_self) hc
        exact ⟨[], b, by simp, front_of_escape (hb.symm.trans hescape) hc, hescape⟩

/-- A reader that asks for more bytes than there are gets them all. -/
theorem readBytes_flatMap_of_le {bytes : Bytes} {n : Nat} (h : bytes.length ≤ n) :
    readBytes n (bytes.flatMap escapeByte) = bytes := by
  induction bytes generalizing n with
  | nil => cases n <;> rfl
  | cons b bytes ih =>
    cases n with
    | zero => cases h
    | succ n =>
      rw [List.flatMap_cons, readBytes, readByte_escapeByte]
      simp only [ih (Nat.le_of_succ_le_succ h)]

/-- Reads a preview back: the bytes that it shows, and whether there were more of them. The mark
reads like one byte too many. -/
def readPreview (max : Nat) (text : String) : Bytes × Bool :=
  let bytes := readBytes (max + 1) text.toList
  (bytes.take max, max < bytes.length)

namespace Datagram

variable (d : Datagram) (max : Nat)

theorem readPreview_preview :
    readPreview max (d.preview max) = (d.bytes.take max, decide (max < d.length)) := by
  rw [readPreview, toList_preview]
  by_cases hmore : max < d.bytes.length
  · have hmark : (d.bytes.take max).flatMap escapeByte ++ ['.', '.', '.'] =
        (d.bytes.take max ++ [0x2e]).flatMap escapeByte ++ ['.', '.'] := by
      have hpoint : escapeByte 0x2e = ['.'] := by decide
      simp [List.flatMap_append, hpoint]
    have hlen : max + 1 = (d.bytes.take max ++ [0x2e]).length := by
      rw [List.length_append, List.length_take, Nat.min_eq_left (Nat.le_of_lt hmore)]
      rfl
    have hread := readBytes_flatMap (d.bytes.take max ++ [0x2e]) ['.', '.']
    rw [← hlen, ← hmark] at hread
    simp [hmore, hread, length, Nat.le_of_lt hmore]
  · have hall : d.bytes.take max = d.bytes := List.take_of_length_le (Nat.le_of_not_lt hmore)
    have hread := readBytes_flatMap_of_le (Nat.le_succ_of_le (Nat.le_of_not_lt hmore))
    simp [hmore, hall, hread, length]

theorem preview_eq_iff {d d' : Datagram} : d.preview max = d'.preview max ↔
    d.bytes.take max = d'.bytes.take max ∧ (max < d.length ↔ max < d'.length) := by
  constructor
  · intro heq
    have hread := d.readPreview_preview max
    rw [heq, readPreview_preview] at hread
    obtain ⟨hshown, hmore⟩ := Prod.mk.inj hread
    exact ⟨hshown.symm, (decide_eq_decide.mp hmore).symm⟩
  · rintro ⟨hshown, hmore⟩
    simp only [length] at hmore
    simp only [preview, hshown, hmore]

theorem length_preview :
    min d.length max + (if max < d.length then 3 else 0) ≤ (d.preview max).length ∧
      (d.preview max).length ≤ 4 * min d.length max + if max < d.length then 3 else 0 := by
  obtain ⟨hge, hle⟩ := length_flatMap_escapeByte (d.bytes.take max)
  rw [List.length_take, Nat.min_comm] at hge hle
  rw [← String.length_toList, toList_preview, List.length_append]
  by_cases hmore : max < d.bytes.length <;>
    simp only [length, hmore, ↓reduceIte, List.length_cons, List.length_nil] at hge hle ⊢ <;> omega

/-- The same bytes by themselves are shown alike, but without a mark. -/
theorem preview_eq_append (hmore : max < d.length) :
    d.preview max = (⟨d.source, d.bytes.take max⟩ : Datagram).preview max ++ "..." := by
  have hlen : ¬max < (d.bytes.take max).length :=
    Nat.not_lt.mpr (List.length_take_le max d.bytes)
  simp only [length] at hmore
  rw [← String.toList_inj, String.toList_append, toList_preview, toList_preview, if_pos hmore,
    if_neg hlen, List.append_nil, List.take_take, Nat.min_self]
  rfl

theorem quote_preview {front back : List Char} {c : Char}
    (h : (d.preview max).toList = front ++ c :: back) (hc : isQuote c = true) :
    ∃ shown b, shown ++ [b] <+: d.bytes.take max ∧ front = shown.flatMap escapeByte ++ ['\\'] ∧
      escapeByte b = ['\\', c] := by
  rw [toList_preview] at h
  refine quote_flatMap h hc ?_
  intro hmark
  split at hmark
  · simp only [List.mem_cons, List.not_mem_nil, or_false, or_self] at hmark
    rw [hmark] at hc
    cases hc
  · cases hmark

/-- A preview can be read back. It tells the bytes that it shows, and whether there were more, and
nothing else. The mark of more bytes is not taken for bytes that look like it. -/
theorem preview_reads_back (d d' : Datagram) (max : Nat) :
    (d.preview max = d'.preview max ↔
      d.bytes.take max = d'.bytes.take max ∧ (max < d.length ↔ max < d'.length)) ∧
    (d.length ≤ max → d.preview max = d'.preview max → d.bytes = d'.bytes) ∧
    readPreview max (d.preview max) = (d.bytes.take max, decide (max < d.length)) ∧
    (∀ c ∈ (d.preview max).toList, isPrintable c = true) ∧
    (∀ front c back, (d.preview max).toList = front ++ c :: back → isQuote c = true →
      ∃ shown b, shown ++ [b] <+: d.bytes.take max ∧
        front = shown.flatMap escapeByte ++ ['\\'] ∧ escapeByte b = ['\\', c]) ∧
    (max < d.length →
      d.preview max = (⟨d.source, d.bytes.take max⟩ : Datagram).preview max ++ "...") ∧
    min d.length max + (if max < d.length then 3 else 0) ≤ (d.preview max).length ∧
    (d.preview max).length ≤ 4 * min d.length max + if max < d.length then 3 else 0 := by
  refine ⟨preview_eq_iff max, ?_, d.readPreview_preview max, fun c hc => d.isPrintable_preview max hc,
    fun front c back h hc => d.quote_preview max h hc, d.preview_eq_append max, d.length_preview max⟩
  intro hall heq
  obtain ⟨hshown, hmore⟩ := (preview_eq_iff max).mp heq
  have hall' : d'.length ≤ max := Nat.not_lt.mp fun h => Nat.not_lt.mpr hall (hmore.mpr h)
  rwa [List.take_of_length_le hall, List.take_of_length_le hall'] at hshown

/-- Three points that are the datagram's own read like the mark, and yet differ from it in what they
stand for. -/
example : (⟨.v4 .localhost 1, [0x61, 0x2e, 0x2e, 0x2e]⟩ : Datagram).preview 4 = "a..." ∧
    (⟨.v4 .localhost 1, [0x61, 0x22]⟩ : Datagram).preview 1 = "a..." := ⟨rfl, rfl⟩

end Datagram

end UdpBench
