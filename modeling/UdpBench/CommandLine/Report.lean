import UdpBench.CommandLine.Parser
import UdpBench.Log

namespace UdpBench

/-- What a program that ended leaves to be seen. Each line of `errors` ends with a line feed. -/
structure Report where
  exitCode : Nat
  output : String
  errors : List String
  deriving DecidableEq, Repr

namespace Report

/-- The text on the error stream. -/
def errorText (r : Report) : String := String.join (r.errors.map (· ++ "\n"))

end Report

/-- The option that sets how much is logged. -/
def Opt.logLevel (set : String → σ → σ) : Opt σ :=
  ⟨"log-level", none, "", .takeValue "LEVEL" (some "info") fun v s => .ok (set v s)⟩

/-- Settings to run a program with, or the report of one that is not run. -/
def Grammar.settings (g : Grammar σ) (arguments : List Argument) : Except Report σ :=
  match g.request arguments with
  | .run settings => .ok settings
  | .help => .error ⟨0, g.helpText, []⟩
  | .version => .error ⟨0, g.versionText, []⟩
  | .refused e => .error ⟨2, "", e.lines g⟩

end UdpBench
