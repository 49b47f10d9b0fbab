import UdpBench.Address.Printer
import UdpBench.IoError
import UdpBench.Text.Escape

namespace UdpBench

abbrev Bytes := List UInt8

/-- Why an operation on payloads or sockets failed. Nothing is retried. -/
inductive Error
  /-- The text has a character outside ASCII, behind `index` others. -/
  | encoding (index : Nat) (character : Char)
  | decoding (index : Nat) (byte : UInt8)
  /-- No socket could be opened or bound. -/
  | resource (cause : IoError)
  /-- The local stack rejected a connect or a send. -/
  | transport (target : Address) (cause : IoError)
  | shortSend (target : Address) (sent expected : Nat)
  | io (cause : IoError)
  deriving DecidableEq

namespace Error

def message : Error → String
  | encoding index character =>
    "payload is not ASCII: " ++ quoteChar character ++ " at index " ++ decimalText index
  | decoding index byte =>
    "byte 0x" ++ String.ofList (hexByte byte) ++ " at offset " ++ decimalText index
      ++ " is not ASCII"
  | resource cause => "socket acquisition failed: " ++ cause.message
  | transport target cause => "transport error towards " ++ target.text ++ ": " ++ cause.message
  | shortSend target sent expected =>
    "short send towards " ++ target.text ++ ": " ++ decimalText sent ++ " of "
      ++ decimalText expected ++ " bytes"
  | io cause => "IO error: " ++ cause.message

def cause? : Error → Option IoError
  | encoding .. | decoding .. | shortSend .. => none
  | resource cause | transport _ cause | io cause => some cause

end Error

end UdpBench
