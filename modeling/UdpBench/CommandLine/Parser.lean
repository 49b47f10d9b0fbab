import UdpBench.CommandLine.Grammar
import UdpBench.CommandLine.Similarity
import UdpBench.Text.Visible

namespace UdpBench

/-- Why arguments are refused. Options are named as messages show them, and what was given stands in
messages as far as it is visible. -/
inductive UsageError
  | missingValue (option : String)
  | repeated (option : String)
  | invalidValue (value option why : String)
  | unexpectedValue (value option : String) (mentions : List Mention)
  | undecodable
  /-- With the option that may have been meant, and whether it could be an operand. -/
  | unexpectedArgument (argument : String) (similar : Option String) (mentions : List Mention)
      (couldBeOperand : Bool)
  deriving DecidableEq

namespace UsageError

def reason : UsageError → String
  | missingValue option =>
    "a value is required for '" ++ option ++ "' but none was supplied"
  | repeated option => "the argument '" ++ option ++ "' cannot be used multiple times"
  | invalidValue value option why =>
    "invalid value '" ++ visible value ++ "' for '" ++ option ++ "': " ++ why
  | unexpectedValue value option _ =>
    "unexpected value '" ++ visible value ++ "' for '" ++ option ++ "' found; no more were expected"
  | undecodable => "invalid UTF-8 was detected in one or more arguments"
  | unexpectedArgument argument .. => "unexpected argument '" ++ visible argument ++ "' found"

def tips : UsageError → List String
  | unexpectedArgument _ (some similar) _ _ =>
    ["  tip: a similar argument exists: '--" ++ similar ++ "'"]
  | unexpectedArgument argument none _ true =>
    ["  tip: to pass '" ++ visible argument ++ "' as a value, use '-- " ++ visible argument
      ++ "'"]
  | _ => []

def usages (g : Grammar σ) : UsageError → List String
  | missingValue .. | invalidValue .. => []
  | repeated .. | undecodable => [g.usage []]
  | unexpectedValue _ _ mentions | unexpectedArgument _ _ mentions _ => [g.usage mentions]

/-- The lines of the message. Empty ones stand between its parts. -/
def lines (g : Grammar σ) (e : UsageError) : List String :=
  (["error: " ++ e.reason] ++ e.tips ++ e.usages g
    ++ ["For more information, try '--help'."]).intersperse ""

end UsageError

/-- What the arguments ask for. -/
inductive Request (σ : Type)
  | run (settings : σ)
  | help
  | version
  | refused (e : UsageError)

/-- Why reading arguments ends before their end. -/
inductive Halt
  | help
  | version
  | refused (e : UsageError)

/-- Values that have been read, and settle into the settings with the next argument that has none to
add. -/
inductive Pending (σ : Type)
  | nothing
  | awaiting (o : Opt σ)
  | given (o : Opt σ) (value : Argument)
  | operands (values : List Argument)

structure Parser (σ : Type) where
  grammar : Grammar σ
  settings : σ
  /-- What has been settled, in order. -/
  mentions : List Mention
  pending : Pending σ
  /-- Behind two dashes that stand alone nothing is an option. -/
  onlyOperands : Bool

namespace Parser

def start (g : Grammar σ) : Parser σ := ⟨g, g.initial, [], .nothing, false⟩

def refuse (e : UsageError) : Except Halt α := .error (.refused e)

/-- An option may be named only once. -/
def checkFirst (p : Parser σ) (o : Opt σ) : Except Halt Unit :=
  if .option o.long ∈ p.mentions then refuse (.repeated o.shown) else .ok ()

def mention (p : Parser σ) (m : Mention) : Parser σ :=
  { p with mentions := if m ∈ p.mentions then p.mentions else p.mentions ++ [m] }

def decode (a : Argument) : Except Halt String :=
  match a.text? with
  | some s => .ok s
  | none => refuse .undecodable

def setValue (p : Parser σ) (o : Opt σ) (value : Argument) : Except Halt (Parser σ) := do
  p.checkFirst o
  let text ← decode value
  match o.action with
  | .takeValue _ _ set =>
    match set text p.settings with
    | .ok settings => return { p with settings }.mention (.option o.long)
    | .error why => refuse (.invalidValue text o.shown why)
  | _ => return p

def addOperands (p : Parser σ) (values : List Argument) : Except Halt (Parser σ) := do
  let texts ← values.mapM decode
  match p.grammar.operands with
  | some operands =>
    return { p with settings := texts.foldl (fun s v => operands.add v s) p.settings }.mention
      .operands
  | none => return p

def settle (p : Parser σ) : Except Halt (Parser σ) :=
  let settled := { p with pending := .nothing }
  match p.pending with
  | .nothing => .ok settled
  | .awaiting o => refuse (.missingValue o.shown)
  | .given o value => settled.setValue o value
  | .operands values => settled.addOperands values

/-- The mentions as they are after an attempt to settle, successful or not. -/
def attempted (p : Parser σ) : List Mention :=
  match p.pending with
  | .nothing | .awaiting _ => p.mentions
  | .given o _ =>
    if .option o.long ∈ p.mentions then p.mentions.erase (.option o.long)
    else p.mentions ++ [.option o.long]
  | .operands _ => (p.mention .operands).mentions

/-- Does what an option without a value asks for. -/
def act (p : Parser σ) (o : Opt σ) : Except Halt (Parser σ) := do
  let p ← p.settle
  match o.action with
  | .switch set =>
    p.checkFirst o
    return { p with settings := set p.settings }.mention (.option o.long)
  | .help => throw .help
  | .version => throw .version
  | .takeValue .. => return { p with pending := .awaiting o }

def couldBeOperand (p : Parser σ) : Bool := p.grammar.operands.isSome && !p.onlyOperands

def unknownLong (p : Parser σ) (name : String) : UsageError :=
  let similar := mostSimilar name (p.grammar.options.map Opt.long)
  let mentions := match similar with
    | some other => p.attempted ++ [.option other]
    | none => p.attempted
  .unexpectedArgument ("--" ++ name) similar mentions p.couldBeOperand

/-- An option by its long name, with what stands behind an equals sign. -/
def long (p : Parser σ) (name : Argument) (value : Option Argument) : Except Halt (Parser σ) :=
  match p.grammar.byLong name.shown, value with
  | none, _ => refuse (p.unknownLong name.shown)
  | some o, none => p.act o
  | some o, some value =>
    match o.action with
    | .takeValue .. => do (← p.settle).setValue o value
    | _ => refuse (.unexpectedValue value.shown o.shown (p.mentions ++ [.option o.long]))

/-- Options by their short names in one argument. What follows one that takes a value is the
value. -/
def cluster (p : Parser σ) : Argument → Except Halt (Parser σ)
  | [] => .ok p
  | .undecodable :: rest =>
    refuse (.unexpectedArgument ("-" ++ Argument.shown (.undecodable :: rest)) none []
      p.couldBeOperand)
  | .char c :: rest =>
    match p.grammar.byShort c with
    | none => refuse (.unexpectedArgument ("-" ++ c.toString) none [] p.couldBeOperand)
    | some o =>
      match o.action with
      | .takeValue .. =>
        if rest.isEmpty then p.act o
        else do (← p.settle).setValue o (Argument.afterEquals rest)
      | _ => do (← p.act o).cluster rest

def operand (p : Parser σ) (a : Argument) : Except Halt (Parser σ) :=
  match p.grammar.operands, p.pending with
  | none, _ => refuse (.unexpectedArgument a.shown none [] false)
  | some _, .operands values => .ok { p with pending := .operands (values ++ [a]) }
  | some _, _ => do return { ← p.settle with pending := .operands [a] }

/-- An argument that names no option: a value that is awaited, or an operand. -/
def plain (p : Parser σ) (a : Argument) : Except Halt (Parser σ) :=
  match p.pending with
  | .awaiting o => .ok { p with pending := .given o a }
  | _ => p.operand a

def step (p : Parser σ) (a : Argument) : Except Halt (Parser σ) :=
  if p.onlyOperands then p.operand a
  else match a with
    | [.char '-', .char '-'] => .ok { p with onlyOperands := true }
    | .char '-' :: .char '-' :: rest =>
      let (name, value) := Argument.splitEquals rest
      p.long name value
    | [.char '-'] => p.plain a
    | .char '-' :: rest => p.cluster rest
    | _ => p.plain a

def steps (p : Parser σ) (arguments : List Argument) : Except Halt (Parser σ) :=
  arguments.foldlM step p

end Parser

/-- Reads arguments from left to right. The first error or request for help or the version
counts. -/
def Grammar.request (g : Grammar σ) (arguments : List Argument) : Request σ :=
  match (Parser.start g).steps arguments >>= Parser.settle with
  | .ok p => .run p.settings
  | .error .help => .help
  | .error .version => .version
  | .error (.refused e) => .refused e

end UdpBench
