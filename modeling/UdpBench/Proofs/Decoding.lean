import UdpBench.Proofs.Encoding

namespace UdpBench

/-- The first entry of a list of which something holds, behind `i` others. -/
def IsFirst {α : Type} (p : α → Prop) (l : List α) (i : Nat) (a : α) : Prop :=
  ∃ front back, l = front ++ a :: back ∧ front.length = i ∧ p a ∧ ∀ b ∈ front, ¬p b

theorem isAscii_iff {c : Char} : isAscii c = true ↔ c.toNat ≤ 0x7f := by
  rw [isAscii, decide_eq_true_eq]
  exact Nat.lt_succ_iff

theorem isAscii_eq_false_iff {c : Char} : isAscii c = false ↔ 0x7f < c.toNat := by
  rw [← Bool.not_eq_true, isAscii_iff, Nat.not_le]

/-- Every byte is the code point of a character. -/
theorem toNat_ofNat_byte (b : UInt8) : (Char.ofNat b.toNat).toNat = b.toNat := by
  have hb := b.toNat_lt
  rw [Char.ofNat, dif_pos (.inl (by omega))]
  rfl

/-! The UTF-8 bytes of a text. -/

theorem utf8_toList (text : String) : utf8 text.toList = text.toUTF8.data.toList := by
  conv => rhs; rw [← String.ofList_toList (s := text)]
  rw [String.toUTF8_eq_toByteArray, String.toByteArray_ofList, List.utf8Encode,
    List.data_toByteArray, utf8]

/-- A text of ASCII has one byte for each character, its code point. -/
theorem map_toNat_utf8 {cs : List Char} (h : ∀ c ∈ cs, c.toNat ≤ 0x7f) :
    (utf8 cs).map UInt8.toNat = cs.map Char.toNat := by
  rw [utf8_ascii fun c hc => isAscii_iff.mpr (h c hc), List.map_map]
  refine List.map_congr_left ?_
  intro c hc
  have hc := h c hc
  simp only [Function.comp_apply, Nat.toUInt8_eq, UInt8.toNat_ofNat']
  omega

/-- Beyond ASCII the first of several bytes tells how many follow. -/
theorem utf8EncodeChar_lead {c : Char} (h : 0x7f < c.toNat) :
    ∃ lead rest, String.utf8EncodeChar c = lead :: rest ∧ 0xc2 ≤ lead ∧ lead ≤ 0xf4 := by
  have hmin : ¬c.val.toNat ≤ 127 := Nat.not_le_of_lt h
  have hmax : c.val.toNat < 0x110000 := by
    rcases c.valid with hlow | ⟨_, hhigh⟩
    · exact Nat.lt_trans hlow (by decide)
    · exact hhigh
  have hbounds {n : Nat} (hlo : 0xc2 ≤ n) (hhi : n ≤ 0xf4) :
      0xc2 ≤ UInt8.ofNat n ∧ UInt8.ofNat n ≤ 0xf4 := by
    have hn : n % 256 = n := Nat.mod_eq_of_lt (by omega)
    simp only [UInt8.le_iff_toNat_le, UInt8.toNat_ofNat', Nat.reducePow, hn]
    exact ⟨hlo, hhi⟩
  unfold String.utf8EncodeChar
  simp only [hmin, ↓reduceIte]
  split
  · exact ⟨_, _, rfl, hbounds (by omega) (by omega)⟩
  · split
    · exact ⟨_, _, rfl, hbounds (by omega) (by omega)⟩
    · exact ⟨_, _, rfl, hbounds (by omega) (by omega)⟩

/-- The first character outside ASCII begins with the first byte outside ASCII. What stands in front
of it has one byte for each character. -/
theorem IsFirst.lead {cs : List Char} {i : Nat} {c : Char} (h : IsFirst (0x7f < ·.toNat) cs i c) :
    ∃ lead, (String.utf8EncodeChar c).head? = some lead ∧ 0xc2 ≤ lead ∧ lead ≤ 0xf4 ∧
      IsFirst (0x80 ≤ ·) (utf8 cs) i lead := by
  obtain ⟨front, back, rfl, rfl, hc, hfront⟩ := h
  have hascii : ∀ d ∈ front, isAscii d = true := fun d hd =>
    isAscii_iff.mpr (Nat.le_of_not_lt (hfront d hd))
  obtain ⟨lead, rest, hencoded, hlo, hhi⟩ := utf8EncodeChar_lead hc
  have hsplit : utf8 (front ++ c :: back) = utf8 front ++ lead :: (rest ++ utf8 back) := by
    simp only [utf8, List.flatMap_append, List.flatMap_cons, hencoded, List.cons_append]
  have hlength : (utf8 front).length = front.length := by rw [utf8_ascii hascii, List.length_map]
  refine ⟨lead, by rw [hencoded, List.head?_cons], hlo, hhi, utf8 front, _, hsplit, hlength,
    UInt8.le_trans (by decide) hlo, ?_⟩
  intro b hb
  exact UInt8.not_le.mpr (utf8_lt hascii b hb)

namespace Payload

/-- The error names the first byte outside ASCII and counts those in front of it. -/
theorem decode_eq_error_iff {bytes : Bytes} {e : Error} :
    decode bytes = .error e ↔ ∃ i b, e = .decoding i b ∧ IsFirst (0x80 ≤ ·) bytes i b := by
  have hfirst (i : Nat) (b : UInt8) :
      bytes.zipIdx.find? (fun d => decide (0x80 ≤ d.1)) = some (b, i) ↔
        IsFirst (0x80 ≤ ·) bytes i b := by
    rw [find?_zipIdx_eq_some_iff (p := fun d => decide (0x80 ≤ d))]
    simp only [IsFirst, decide_eq_true_eq, decide_eq_false_iff_not, eq_comm (a := i)]
  unfold decode
  split
  · rename_i b i hfind
    have hb := (hfirst i b).mp hfind
    simp only [Except.error.injEq]
    constructor
    · rintro rfl
      exact ⟨i, b, rfl, hb⟩
    · rintro ⟨j, d, rfl, hd⟩
      cases hfind.symm.trans ((hfirst j d).mpr hd)
      rfl
  · rename_i hfind
    simp only [reduceCtorEq, false_iff]
    rintro ⟨j, d, -, hd⟩
    cases hfind.symm.trans ((hfirst j d).mpr hd)

/-- Exactly bytes of ASCII are decoded, each as the character of that code point. -/
theorem decode_eq_ok_iff {bytes : Bytes} {text : String} :
    decode bytes = .ok text ↔
      (∀ b ∈ bytes, b < 0x80) ∧ text.toList = bytes.map fun b => Char.ofNat b.toNat := by
  unfold decode
  split
  · rename_i b i hfind
    have hb := List.mem_of_find?_eq_some hfind
    have hhigh : 0x80 ≤ b := by simpa using List.find?_some hfind
    simp only [reduceCtorEq, false_iff, not_and]
    intro hall
    exact absurd (hall b (List.fst_mem_of_mem_zipIdx hb)) (UInt8.not_lt.mpr hhigh)
  · rename_i hfind
    have hall : ∀ b ∈ bytes, b < 0x80 := by
      intro b hb
      obtain ⟨i, hi⟩ := List.mem_iff_getElem?.mp hb
      simpa using List.find?_eq_none.mp hfind (b, i) (by simpa [List.mem_zipIdx_iff_getElem?])
    simp only [Except.ok.injEq]
    constructor
    · rintro rfl
      exact ⟨hall, String.toList_ofList⟩
    · rintro ⟨-, htext⟩
      rw [← htext, String.ofList_toList]

/-- Decoding says what code points a text has, and none of them is outside ASCII. -/
theorem decode_eq_ok_iff_codes {bytes : Bytes} {text : String} :
    decode bytes = .ok text ↔ (∀ c ∈ text.toList, c.toNat ≤ 0x7f) ∧
      bytes.map UInt8.toNat = text.toList.map Char.toNat := by
  rw [decode_eq_ok_iff]
  constructor
  · rintro ⟨hall, htext⟩
    refine ⟨?_, ?_⟩
    · intro c hc
      obtain ⟨b, hb, rfl⟩ := List.mem_map.mp (htext ▸ hc)
      rw [toNat_ofNat_byte]
      exact Nat.le_of_lt_succ (UInt8.lt_iff_toNat_lt.mp (hall b hb))
    · simp only [htext, List.map_map, Function.comp_def, toNat_ofNat_byte]
  · rintro ⟨hall, hcodes⟩
    refine ⟨?_, ?_⟩
    · intro b hb
      obtain ⟨c, hc, hcb⟩ := List.mem_map.mp (hcodes ▸ List.mem_map_of_mem hb)
      rw [UInt8.lt_iff_toNat_lt, ← hcb]
      exact Nat.lt_succ_of_le (hall c hc)
    · have hchars := congrArg (List.map Char.ofNat) hcodes
      simpa only [List.map_map, Function.comp_def, Char.ofNat_toNat, List.map_id'] using
        hchars.symm

theorem exists_encode {text : String} (h : ∀ c ∈ text.toList, c.toNat ≤ 0x7f) :
    ∃ p, encode text = .ok p ∧ p.bytes = utf8 text.toList := by
  have hascii : ∀ c ∈ text.toList, isAscii c = true := fun c hc => isAscii_iff.mpr (h c hc)
  exact ⟨⟨utf8 text.toList, utf8_lt hascii⟩, encode_eq_ok_iff.mpr ⟨hascii, rfl⟩, rfl⟩

/-- The bytes of an encoded text say what its code points are, and none of them is outside ASCII. -/
theorem map_encode_eq_ok_iff_codes {text : String} {bytes : Bytes} :
    (encode text).map Payload.bytes = .ok bytes ↔ (∀ c ∈ text.toList, c.toNat ≤ 0x7f) ∧
      bytes.map UInt8.toNat = text.toList.map Char.toNat := by
  constructor
  · intro h
    cases hp : encode text with
    | error e => simp [hp, Except.map] at h
    | ok p =>
      obtain ⟨hascii, hbytes⟩ := encode_eq_ok_iff.mp hp
      have hall : ∀ c ∈ text.toList, c.toNat ≤ 0x7f := fun c hc => isAscii_iff.mp (hascii c hc)
      simp only [hp, Except.map, Except.ok.injEq] at h
      refine ⟨hall, ?_⟩
      rw [← h, hbytes, map_toNat_utf8 hall]
  · rintro ⟨hall, hcodes⟩
    obtain ⟨p, hp, hbytes⟩ := exists_encode hall
    have hsame : p.bytes = bytes := by
      apply (List.map_inj_right fun _ _ => UInt8.toNat_inj.mp).mp
      rw [hbytes, map_toNat_utf8 hall, hcodes]
    rw [hp, Except.map, hsame]

theorem encode_of_isFirst {text : String} {i : Nat} {c : Char}
    (h : IsFirst (0x7f < ·.toNat) text.toList i c) : encode text = .error (.encoding i c) := by
  obtain ⟨front, back, hsplit, rfl, hc, hfront⟩ := h
  refine encode_eq_error_iff.mpr ⟨front, c, back, hsplit, rfl, isAscii_eq_false_iff.mpr hc, ?_⟩
  intro d hd
  exact isAscii_iff.mpr (Nat.le_of_not_lt (hfront d hd))

/-- A text is encoded, or its first character outside ASCII is what the error is about. -/
theorem encode_cases (text : String) :
    (∃ p, encode text = .ok p ∧ (∀ c ∈ text.toList, c.toNat ≤ 0x7f) ∧
      p.bytes = text.toUTF8.data.toList ∧ p.length = text.length) ∨
    ∃ i c, encode text = .error (.encoding i c) ∧ IsFirst (0x7f < ·.toNat) text.toList i c := by
  cases hp : encode text with
  | ok p =>
    left
    obtain ⟨hascii, hbytes⟩ := encode_eq_ok_iff.mp hp
    refine ⟨p, rfl, fun c hc => isAscii_iff.mp (hascii c hc), ?_, ?_⟩
    · rw [hbytes, utf8_toList]
    · rw [length, hbytes, utf8_ascii hascii, List.length_map, String.length_toList]
  | error e =>
    right
    obtain ⟨front, c, back, hsplit, rfl, hc, hfront⟩ := encode_eq_error_iff.mp hp
    refine ⟨_, c, rfl, front, back, hsplit, rfl, isAscii_eq_false_iff.mp hc, ?_⟩
    intro d hd
    exact Nat.not_lt_of_le (isAscii_iff.mp (hfront d hd))

/-- Bytes are decoded, or the first of them outside ASCII is what the error is about. -/
theorem decode_cases (bytes : Bytes) :
    (∃ text, decode bytes = .ok text ∧ ∀ b ∈ bytes, b < 0x80) ∨
    ∃ i b, decode bytes = .error (.decoding i b) ∧ IsFirst (0x80 ≤ ·) bytes i b := by
  cases hd : decode bytes with
  | ok text => exact .inl ⟨text, rfl, (decode_eq_ok_iff.mp hd).1⟩
  | error e =>
    obtain ⟨i, b, rfl, hb⟩ := decode_eq_error_iff.mp hd
    exact .inr ⟨i, b, rfl, hb⟩

/-- Encoding and decoding undo each other, between the texts and the bytes of ASCII that have the
same code points. Each of them fails on everything else, and tells where it begins. -/
theorem encodes_iff_decodes (text : String) (bytes : Bytes) :
    ((encode text).map Payload.bytes = .ok bytes ↔ decode bytes = .ok text) ∧
    (decode bytes = .ok text ↔ (∀ c ∈ text.toList, c.toNat ≤ 0x7f) ∧
      bytes.map UInt8.toNat = text.toList.map Char.toNat) ∧
    ((∃ p, encode text = .ok p ∧ (∀ c ∈ text.toList, c.toNat ≤ 0x7f) ∧
        p.bytes = text.toUTF8.data.toList ∧ p.length = text.length) ∨
      ∃ i c, encode text = .error (.encoding i c) ∧ IsFirst (0x7f < ·.toNat) text.toList i c) ∧
    ((∃ text, decode bytes = .ok text ∧ ∀ b ∈ bytes, b < 0x80) ∨
      ∃ i b, decode bytes = .error (.decoding i b) ∧ IsFirst (0x80 ≤ ·) bytes i b) := by
  refine ⟨?_, decode_eq_ok_iff_codes, encode_cases text, decode_cases bytes⟩
  rw [map_encode_eq_ok_iff_codes, decode_eq_ok_iff_codes]

/-- The UTF-8 bytes of a text are refused just when the text is, and at the same place, where the
first character outside ASCII begins. -/
theorem decode_utf8_agrees (text : String) :
    ((∃ e, decode text.toUTF8.data.toList = .error e) ↔ ∃ e, encode text = .error e) ∧
    ((∃ p, encode text = .ok p ∧ decode text.toUTF8.data.toList = .ok text ∧
        p.bytes = text.toUTF8.data.toList) ∨
      ∃ i c b, encode text = .error (.encoding i c) ∧
        decode text.toUTF8.data.toList = .error (.decoding i b) ∧
        (String.utf8EncodeChar c).head? = some b ∧ 0xc2 ≤ b ∧ b ≤ 0xf4) := by
  rcases encode_cases text with ⟨p, hp, hall, hbytes, -⟩ | ⟨i, c, he, hfirst⟩
  · have hd : decode text.toUTF8.data.toList = .ok text := by
      rw [← utf8_toList]
      exact decode_eq_ok_iff_codes.mpr ⟨hall, map_toNat_utf8 hall⟩
    refine ⟨?_, .inl ⟨p, hp, hd, hbytes⟩⟩
    simp only [hp, hd, reduceCtorEq, exists_false]
  · obtain ⟨b, hhead, hlo, hhi, hb⟩ := hfirst.lead
    have hd : decode text.toUTF8.data.toList = .error (.decoding i b) := by
      rw [← utf8_toList]
      exact decode_eq_error_iff.mpr ⟨i, b, rfl, hb⟩
    refine ⟨?_, .inr ⟨i, c, b, he, hd, hhead, hlo, hhi⟩⟩
    simp only [he, hd, Except.error.injEq, exists_eq']

/-- The second character takes two bytes, of which the first is named. -/
example : encode "aéb" = .error (.encoding 1 'é') ∧
    decode "aéb".toUTF8.data.toList = .error (.decoding 1 0xc3) := ⟨rfl, rfl⟩

end Payload

end UdpBench
