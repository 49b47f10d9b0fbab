import UdpBench.Address.Basic
import UdpBench.Text.Numeral

namespace UdpBench

/-- Reads one given character. -/
def readMark (mark : Char) : List Char → Option (List Char)
  | c :: cs => if c = mark then some cs else none
  | [] => none

namespace Ipv4

/-- At most three digits, without a zero in front of others. -/
def octetForm (ds : List Char) : Bool :=
  ds.length ≤ 3 && (ds.length == 1 || ds.head? != some '0')

def readOctet (cs : List Char) : Option (UInt8 × List Char) :=
  (readNumeral 10 256 octetForm cs).map fun (n, cs) => (n.toUInt8, cs)

def read (cs : List Char) : Option (Ipv4 × List Char) := do
  let (a, cs) ← readOctet cs
  let (b, cs) ← readOctet (← readMark '.' cs)
  let (c, cs) ← readOctet (← readMark '.' cs)
  let (d, cs) ← readOctet (← readMark '.' cs)
  return (⟨a, b, c, d⟩, cs)

end Ipv4

namespace Ipv6

def readGroup (cs : List Char) : Option (UInt16 × List Char) :=
  (readNumeral 16 65536 (·.length ≤ 4) cs).map fun (n, cs) => (n.toUInt16, cs)

/-- A colon separates a group from the one before it. -/
def afterColon (isFirst : Bool) (cs : List Char) : Option (List Char) :=
  if isFirst then some cs else readMark ':' cs

/-- Groups as far as they go. -/
structure Groups where
  groups : List UInt16
  endsInQuad : Bool
  rest : List Char

/-- Reads at most `room` groups. The last two may be written as an IPv4 address. -/
def readGroups (isFirst : Bool) : (room : Nat) → List Char → Groups
  | 0, cs => ⟨[], false, cs⟩
  | room + 1, cs =>
    match if room = 0 then none else afterColon isFirst cs >>= Ipv4.read with
    | some (ip, rest) => ⟨quadGroups ip, true, rest⟩
    | none =>
      match afterColon isFirst cs >>= readGroup with
      | none => ⟨[], false, cs⟩
      | some (g, rest) =>
        let more := readGroups false room rest
        { more with groups := g :: more.groups }

/-- Two colons stand for the groups that are missing, of which there must be one at least. -/
def read (cs : List Char) : Option (Ipv6 × List Char) :=
  let front := readGroups true 8 cs
  if front.groups.length = 8 then (ofGroups? front.groups).map (·, front.rest)
  else if front.endsInQuad then none
  else do
    let cs ← readMark ':' front.rest
    let cs ← readMark ':' cs
    let back := readGroups true (7 - front.groups.length) cs
    let zeros := 8 - front.groups.length - back.groups.length
    let ip ← ofGroups? (front.groups ++ List.replicate zeros 0 ++ back.groups)
    return (ip, back.rest)

/-- The scope, or 0 where none can be read. -/
def readScope (cs : List Char) : UInt32 × List Char :=
  match readMark '%' cs >>= readNumeral 10 0x100000000 (fun _ => true) with
  | some (n, rest) => (n.toUInt32, rest)
  | none => (0, cs)

end Ipv6

namespace Address

def readPort (cs : List Char) : Option (Port × List Char) := do
  let cs ← readMark ':' cs
  let (n, cs) ← readNumeral 10 65536 (fun _ => true) cs
  return (n.toUInt16, cs)

def readV4 (cs : List Char) : Option (Address × List Char) := do
  let (ip, cs) ← Ipv4.read cs
  let (port, cs) ← readPort cs
  return (v4 ip port, cs)

def readV6 (cs : List Char) : Option (Address × List Char) := do
  let (ip, cs) ← Ipv6.read (← readMark '[' cs)
  let (scope, cs) := Ipv6.readScope cs
  let (port, cs) ← readPort (← readMark ']' cs)
  return (v6 ip port scope, cs)

/-- An address fills the whole text. -/
def ofChars? (cs : List Char) : Option Address :=
  match readV4 cs <|> readV6 cs with
  | some (a, []) => some a
  | _ => none

def parse? (s : String) : Option Address := ofChars? s.toList

/-- What is said of a text that is no address. -/
def syntaxMessage : String := "invalid socket address syntax"

end Address

end UdpBench
