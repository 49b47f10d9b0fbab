import UdpBench.Text.Lowercase

namespace UdpBench

/-- How much a log line matters, from the least to the most severe. -/
inductive Level
  | trace
  | debug
  | info
  | warn
  | error
  deriving DecidableEq, Repr

namespace Level

def severity : Level → Nat
  | trace => 0
  | debug => 1
  | info => 2
  | warn => 3
  | error => 4

def name : Level → String
  | trace => "TRACE"
  | debug => "DEBUG"
  | info => "INFO"
  | warn => "WARN"
  | error => "ERROR"

/-- Reads a level's name in any case. Every other text means `info`. -/
def parse (s : String) : Level :=
  match lowercase s with
  | "trace" => trace
  | "debug" => debug
  | "info" => info
  | "warn" => warn
  | "error" => error
  | _ => info

/-- A log kept at a level shows what is at least as severe. -/
def shows (kept event : Level) : Bool := kept.severity ≤ event.severity

theorem shows_info_iff (kept : Level) :
    kept.shows info = true ↔ kept ∈ [trace, debug, info] := by
  cases kept <;> decide

end Level

end UdpBench
