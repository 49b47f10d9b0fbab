import UdpBench.Text.Numeral

namespace UdpBench

/-- Why the operating system or the runtime refused an operation. -/
inductive IoError
  | os (code : Nat)
  | other (text : String)
  deriving DecidableEq, Repr

namespace IoError

/-- What the error numbers of the system mean. -/
def meanings : List (Nat × String) := [
  (0, "Success"),
  (1, "Operation not permitted"),
  (2, "No such file or directory"),
  (4, "Interrupted system call"),
  (9, "Bad file descriptor"),
  (11, "Resource temporarily unavailable"),
  (12, "Cannot allocate memory"),
  (13, "Permission denied"),
  (19, "No such device"),
  (22, "Invalid argument"),
  (24, "Too many open files"),
  (32, "Broken pipe"),
  (88, "Socket operation on non-socket"),
  (90, "Message too long"),
  (92, "Protocol not available"),
  (95, "Operation not supported"),
  (97, "Address family not supported by protocol"),
  (98, "Address already in use"),
  (99, "Cannot assign requested address"),
  (100, "Network is down"),
  (101, "Network is unreachable"),
  (103, "Software caused connection abort"),
  (104, "Connection reset by peer"),
  (105, "No buffer space available"),
  (106, "Transport endpoint is already connected"),
  (107, "Transport endpoint is not connected"),
  (110, "Connection timed out"),
  (111, "Connection refused"),
  (112, "Host is down"),
  (113, "No route to host"),
  (115, "Operation now in progress")]

def meaning (code : Nat) : String :=
  match meanings.lookup code with
  | some text => text
  | none => "Unknown error " ++ decimalText code

def message : IoError → String
  | os code => meaning code ++ " (os error " ++ decimalText code ++ ")"
  | other text => text

def permissionDenied : IoError := os 13
def noSuchDevice : IoError := os 19
def invalidArgument : IoError := os 22
def messageTooLong : IoError := os 90
def familyNotSupported : IoError := os 97
def addressInUse : IoError := os 98
def addressNotAvailable : IoError := os 99
def networkUnreachable : IoError := os 101

end IoError

end UdpBench
