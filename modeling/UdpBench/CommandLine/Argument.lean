import UdpBench.Error

namespace UdpBench

/-- A piece of a program's argument, which need not be text throughout. -/
inductive Piece
  | char (c : Char)
  | undecodable
  deriving DecidableEq, Repr

abbrev Argument := List Piece

namespace Piece

/-- The number of bytes that have to follow the first byte of a character. -/
def width? (b : UInt8) : Option Nat :=
  if b < 0x80 then some 0
  else if 0xc2 ≤ b ∧ b < 0xe0 then some 1
  else if 0xe0 ≤ b ∧ b < 0xf0 then some 2
  else if 0xf0 ≤ b ∧ b < 0xf5 then some 3
  else none

/-- The bounds of a byte that follows `first`. They keep out characters beyond the last one, halves
of surrogate pairs and what fewer bytes would hold. -/
def secondBounds (first : UInt8) : UInt8 × UInt8 :=
  if first = 0xe0 then (0xa0, 0xbf)
  else if first = 0xed then (0x80, 0x9f)
  else if first = 0xf0 then (0x90, 0xbf)
  else if first = 0xf4 then (0x80, 0x8f)
  else (0x80, 0xbf)

/-- How many bytes, at most `room`, carry a character on. -/
def carried : (room : Nat) → UInt8 × UInt8 → Bytes → Nat
  | room + 1, (lo, hi), b :: bs =>
    if lo ≤ b ∧ b ≤ hi then carried room (0x80, 0xbf) bs + 1 else 0
  | _, _, _ => 0

def codePoint (first : UInt8) (others : Bytes) : Nat :=
  let lead := match others.length with
    | 0 => first.toNat
    | n => first.toNat % (1 <<< (6 - n))
  others.foldl (fun v b => v * 64 + b.toNat % 64) lead

/-- The first piece of some bytes, and how many bytes it takes besides the first. What begins a
character and does not end it is one piece. -/
def first (b : UInt8) (bs : Bytes) : Piece × Nat :=
  match width? b with
  | none => (undecodable, 0)
  | some width =>
    let n := carried width (secondBounds b) bs
    if n = width then (char (Char.ofNat (codePoint b (bs.take n))), n) else (undecodable, n)

/-- The argument `skip` counts the bytes still to be dropped. -/
def ofBytesAfter : (skip : Nat) → Bytes → Argument
  | _, [] => []
  | skip + 1, _ :: bs => ofBytesAfter skip bs
  | 0, b :: bs => (first b bs).1 :: ofBytesAfter (first b bs).2 bs

def toChar : Piece → Char
  | char c => c
  | undecodable => '\ufffd'

def toChar? : Piece → Option Char
  | char c => some c
  | undecodable => none

end Piece

namespace Argument

def ofBytes (bs : Bytes) : Argument := Piece.ofBytesAfter 0 bs

def ofText (s : String) : Argument := s.toList.map Piece.char

/-- The argument as text, with a mark in place of what cannot be decoded. -/
def shown (a : Argument) : String := String.ofList (a.map Piece.toChar)

def text? (a : Argument) : Option String := (a.mapM Piece.toChar?).map String.ofList

/-- The argument behind an equals sign in front, if there is one. -/
def afterEquals : Argument → Argument
  | .char '=' :: rest => rest
  | a => a

/-- The parts before and behind the first equals sign. -/
def splitEquals (a : Argument) : Argument × Option Argument :=
  match a.dropWhile (· != .char '=') with
  | [] => (a, none)
  | _ :: value => (a.takeWhile (· != .char '='), some value)

end Argument

end UdpBench
