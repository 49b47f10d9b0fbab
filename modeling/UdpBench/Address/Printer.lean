import UdpBench.Address.Basic
import UdpBench.Text.Numeral

namespace UdpBench

namespace Ipv4

def chars (ip : Ipv4) : List Char :=
  decimal ip.a.toNat ++ '.' :: decimal ip.b.toNat ++ '.' :: decimal ip.c.toNat
    ++ '.' :: decimal ip.d.toNat

end Ipv4

namespace Ipv6

def zerosAhead (groups : List UInt16) : Nat := (groups.takeWhile (· == 0)).length

/-- The start and length of the longest run of zero groups, the first of equally long ones. -/
def longestZeros : List UInt16 → Nat × Nat
  | [] => (0, 0)
  | g :: gs =>
    let here := zerosAhead (g :: gs)
    let (start, length) := longestZeros gs
    if length ≤ here then (0, here) else (start + 1, length)

def groupChars : List UInt16 → List Char
  | [] => []
  | [g] => hexadecimal g.toNat
  | g :: gs => hexadecimal g.toNat ++ ':' :: groupChars gs

/-- Two colons stand for the longest run of zero groups, if that has more than one. -/
def compressed (groups : List UInt16) : List Char :=
  let (start, length) := longestZeros groups
  if length ≤ 1 then groupChars groups
  else groupChars (groups.take start) ++ ':' :: ':' :: groupChars (groups.drop (start + length))

def chars (ip : Ipv6) : List Char :=
  match ip.mapped? with
  | some inner => [':', ':', 'f', 'f', 'f', 'f', ':'] ++ inner.chars
  | none => compressed ip.groups

end Ipv6

namespace Address

def chars : Address → List Char
  | v4 ip port => ip.chars ++ ':' :: decimal port.toNat
  | v6 ip port scope =>
    '[' :: ip.chars ++ (if scope = 0 then [] else '%' :: decimal scope.toNat)
      ++ ']' :: ':' :: decimal port.toNat

def text (a : Address) : String := String.ofList a.chars

end Address

end UdpBench
