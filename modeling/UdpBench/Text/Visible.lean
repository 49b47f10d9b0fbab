namespace UdpBench

/-- Where a text stands among the sequences that control a terminal. -/
inductive Control
  /-- Outside all of them. -/
  | outside
  | escape
  /-- Behind an escape that has to be completed. -/
  | intermediate
  | sequence
  /-- Inside a command to the system, which a bell ends. -/
  | command
  /-- Inside any other string, which its terminator ends. -/
  | string
  deriving DecidableEq, Repr

namespace Control

def isBlank (c : Char) : Bool := c = '\t' || c = '\n' || c = '\x0c' || c = '\r'

/-- A string ends at this byte, also where it is a part of a character. -/
def terminator : UInt8 := 0x9c

/-- What a character of ASCII that is no control makes of a sequence. -/
def after : Control → Char → Control
  | escape, '[' => sequence
  | escape, ']' => command
  | escape, 'P' | escape, 'X' | escape, '^' | escape, '_' => string
  | escape, c | intermediate, c => if c < '0' then intermediate else outside
  | sequence, c => if c < '@' then sequence else outside
  | s, _ => s

/-- The place behind a character, and whether the character is seen. -/
def step (s : Control) (c : Char) : Control × Bool :=
  if c = '\x1b' then (escape, false)
  else if c = '\x18' ∨ c = '\x1a' then (outside, false)
  else match s with
    | outside => (outside, isBlank c || (decide (' ' ≤ c) && c != '\x7f'))
    | command => (if c = '\x07' then outside else command, false)
    | string => (if terminator ∈ String.utf8EncodeChar c then outside else string, false)
    | escape | intermediate | sequence =>
      if isBlank c then (outside, true)
      else if c < ' ' ∨ '\x7e' < c then (s, false)
      else (s.after c, false)

/-- The characters of a text that are seen. -/
def seen : Control → List Char → List Char
  | _, [] => []
  | s, c :: cs => if (s.step c).2 then c :: seen (s.step c).1 cs else seen (s.step c).1 cs

end Control

/-- A text without what would control a terminal. -/
def visible (s : String) : String := String.ofList (Control.outside.seen s.toList)

end UdpBench
