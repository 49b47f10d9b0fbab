import UdpBench.Datagram
import UdpBench.Level

namespace UdpBench

/-- What the programs log. -/
inductive Event
  | loggingStarted (level : Level)
  | associated (source target : Address)
  | sent (length : Nat) (target : Address)
  | bound (requested : Address)
  | received (length : Nat) (source : Address)
  | listening (own : Address)
  | datagram (number : Nat) (datagram : Datagram)
  | idle (seconds : Nat)
  | echoFailed (error : Error)
  | sendFailed (error : Error)
  | sinkFailed (error : Error)
  deriving DecidableEq

namespace Event

def level : Event → Level
  | received .. => .trace
  | associated .. | bound .. => .debug
  | loggingStarted .. | sent .. | listening .. | datagram .. | idle .. => .info
  | echoFailed .. => .warn
  | sendFailed .. | sinkFailed .. => .error

/-- A whole number of seconds, where no time at all is written in nanoseconds. -/
def secondsText (n : Nat) : String := if n = 0 then "0ns" else decimalText n ++ "s"

/-- The log shows this many bytes of a datagram. -/
def previewLength : Nat := 96

def message : Event → String
  | loggingStarted level => "console logging initialized with level: " ++ level.name
  | associated source target => "socket " ++ source.text ++ " associated with " ++ target.text
  | sent length target => "sent " ++ decimalText length ++ " byte datagram to " ++ target.text
  | bound requested => "packet sink bound to " ++ requested.text
  | received length source => "received " ++ decimalText length ++ " bytes from " ++ source.text
  | listening own => "listening on " ++ own.text
  | datagram number d =>
    "[" ++ decimalText number ++ "] " ++ decimalText d.length ++ " bytes from " ++ d.source.text
      ++ ": \"" ++ d.preview previewLength ++ "\""
  | idle seconds => "idle for " ++ secondsText seconds ++ ", stopping"
  | echoFailed e => "echo failed: " ++ e.message
  | sendFailed e => "send failed: " ++ e.message
  | sinkFailed e => "sink error: " ++ e.message

def line (e : Event) : String := e.level.name ++ " " ++ e.message

end Event

/-- The lines that a log kept at a level shows. -/
def logLines (kept : Level) (events : List Event) : List String :=
  (events.filter fun e => kept.shows e.level).map Event.line

end UdpBench
