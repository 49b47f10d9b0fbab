import UdpBench.Text.Numeral
import UdpBench.Text.Unprintable

namespace UdpBench

def hexByte (b : UInt8) : List Char :=
  [Nat.digitChar (b.toNat / 16), Nat.digitChar (b.toNat % 16)]

/-- A byte as printable ASCII: quotes, backslashes and all that is not graphic are escaped. -/
def escapeByte (b : UInt8) : List Char :=
  if b = 0x09 then ['\\', 't']
  else if b = 0x0a then ['\\', 'n']
  else if b = 0x0d then ['\\', 'r']
  else if b = 0x22 then ['\\', '\x22']
  else if b = 0x27 then ['\\', '\x27']
  else if b = 0x5c then ['\\', '\\']
  else if 0x20 ≤ b ∧ b < 0x7f then [Char.ofNat b.toNat]
  else '\\' :: 'x' :: hexByte b

/-- A character as it stands between single quotes. -/
def escapeChar (c : Char) : List Char :=
  if c = '\x00' then ['\\', '0']
  else if c = '\t' then ['\\', 't']
  else if c = '\n' then ['\\', 'n']
  else if c = '\r' then ['\\', 'r']
  else if c = '\x27' then ['\\', '\x27']
  else if c = '\\' then ['\\', '\\']
  else if c < ' ' ∨ c = '\x7f' ∨ CharSet.unprintable.contains c = true then
    '\\' :: 'u' :: '\x7b' :: hexadecimal c.toNat ++ ['\x7d']
  else [c]

/-- A character between single quotes. -/
def quoteChar (c : Char) : String := String.ofList ('\x27' :: escapeChar c ++ ['\x27'])

end UdpBench
