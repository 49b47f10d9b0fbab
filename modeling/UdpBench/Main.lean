import UdpBench.Bench.Trial

open UdpBench

/-- Writes what a program leaves, and hands on its exit code. -/
def emit (report : Report) : IO UInt32 := do
  IO.print report.output
  IO.eprint report.errorText
  return report.exitCode.toUInt32

/-- Runs a program on a host of its own, where it meets nobody: `packet_sink` by that name in front,
and `packettest` otherwise. -/
def main (args : List String) : IO UInt32 := do
  let host := Network.empty .up
  match args with
  | "packet_sink" :: args =>
    let arguments := args.map Argument.ofText
    let timeline : Timeline := ⟨.ofSeconds 1, []⟩
    match (Listen.command host {} (ephemeralPort 0) timeline Trial.patience "0.0s" arguments).1 with
    | .done report => emit report
    | .listening => return 0
  | "packettest" :: args | args =>
    emit (Fire.command host ephemeralPort (args.map Argument.ofText)).1
