namespace UdpBench

def decimal (n : Nat) : List Char := Nat.toDigits 10 n

def decimalText (n : Nat) : String := String.ofList (decimal n)

def hexadecimal (n : Nat) : List Char := Nat.toDigits 16 n

/-- The value of a digit or letter as a digit of base 36, and 36 for every other character. -/
def digitValue (c : Char) : Nat :=
  if '0' ≤ c ∧ c ≤ '9' then c.toNat - '0'.toNat
  else if 'a' ≤ c ∧ c ≤ 'z' then c.toNat - 'a'.toNat + 10
  else if 'A' ≤ c ∧ c ≤ 'Z' then c.toNat - 'A'.toNat + 10
  else 36

def isDigitOf (base : Nat) (c : Char) : Bool := digitValue c < base

def numeralValue (base : Nat) (ds : List Char) : Nat :=
  ds.foldl (fun n d => n * base + digitValue d) 0

/-- Reads the longest run of digits in front of a text. The run must not be empty, must be of an
allowed form and must stay below the bound. -/
def readNumeral (base bound : Nat) (allowed : List Char → Bool) (cs : List Char) :
    Option (Nat × List Char) :=
  let ds := cs.takeWhile (isDigitOf base)
  if !ds.isEmpty && allowed ds && numeralValue base ds < bound then
    some (numeralValue base ds, cs.dropWhile (isDigitOf base))
  else none

end UdpBench
