import UdpBench.Error

namespace UdpBench

/-- The body of a datagram: one byte of ASCII for each character of a text. -/
structure Payload where
  bytes : Bytes
  ascii : ∀ b ∈ bytes, b < 0x80
  deriving DecidableEq

def utf8 (cs : List Char) : Bytes := cs.flatMap String.utf8EncodeChar

def isAscii (c : Char) : Bool := c.toNat < 0x80

theorem utf8EncodeChar_ascii {c : Char} (h : c.toNat < 0x80) :
    String.utf8EncodeChar c = [c.toNat.toUInt8] := by
  have h : c.val.toNat ≤ 0x7f := Nat.le_of_lt_succ h
  rw [String.utf8EncodeChar]
  simp only [h, ↓reduceIte]
  rfl

theorem utf8_ascii {cs : List Char} (h : ∀ c ∈ cs, isAscii c = true) :
    utf8 cs = cs.map (·.toNat.toUInt8) := by
  induction cs with
  | nil => rfl
  | cons c cs ih =>
    have hc : c.toNat < 0x80 := by simpa [isAscii] using h c (by simp)
    have ht := ih fun d hd => h d (List.mem_cons_of_mem _ hd)
    simp only [utf8] at ht ⊢
    rw [List.flatMap_cons, utf8EncodeChar_ascii hc, ht]
    rfl

theorem utf8_lt {cs : List Char} (h : ∀ c ∈ cs, isAscii c = true) :
    ∀ b ∈ utf8 cs, b < 0x80 := by
  rw [utf8_ascii h]
  intro b hb
  obtain ⟨c, hc, rfl⟩ := List.mem_map.mp hb
  have hc : c.toNat < 0x80 := by simpa [isAscii] using h c hc
  simp only [UInt8.lt_iff_toNat_lt]
  simp
  omega

namespace Payload

/-- Fails on the first character outside ASCII. Its index counts characters, not bytes. -/
def encode (text : String) : Except Error Payload :=
  match h : text.toList.zipIdx.find? fun (c, _) => !isAscii c with
  | some (c, index) => .error (.encoding index c)
  | none =>
    .ok ⟨utf8 text.toList, utf8_lt fun c hc => by
      obtain ⟨i, hi, he⟩ := List.mem_iff_getElem.mp hc
      have := List.find?_eq_none.mp h (c, i) (by
        rw [List.mem_zipIdx_iff_getElem?]
        simp [he, hi])
      simpa using this⟩

def length (p : Payload) : Nat := p.bytes.length

/-- Reads bytes back as text, one character for each. -/
def decode (bytes : Bytes) : Except Error String :=
  match bytes.zipIdx.find? fun (b, _) => 0x80 ≤ b with
  | some (b, index) => .error (.decoding index b)
  | none => .ok (String.ofList (bytes.map fun b => Char.ofNat b.toNat))

end Payload

end UdpBench
