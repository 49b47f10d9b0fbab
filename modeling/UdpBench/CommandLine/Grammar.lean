import UdpBench.CommandLine.Argument

namespace UdpBench

/-- What an option does with the settings. -/
inductive Action (σ : Type)
  /-- Takes a value, which it may refuse, saying why. -/
  | takeValue (placeholder : String) (preset : Option String) (set : String → σ → Except String σ)
  | switch (set : σ → σ)
  | help
  | version

structure Opt (σ : Type) where
  long : String
  short : Option Char
  about : String
  action : Action σ

/-- The arguments that are not options. -/
structure Operands (σ : Type) where
  placeholder : String
  about : String
  add : String → σ → σ

/-- What the arguments of a program may be, and the settings without any. -/
structure Grammar (σ : Type) where
  name : String
  about : String
  version : String
  options : List (Opt σ)
  operands : Option (Operands σ)
  initial : σ

namespace Opt

/-- An option as messages name it: with the placeholder of its value. -/
def shown (o : Opt σ) : String :=
  match o.action with
  | .takeValue placeholder .. => "--" ++ o.long ++ " <" ++ placeholder ++ ">"
  | _ => "--" ++ o.long

def helpName (o : Opt σ) : String :=
  (match o.short with
    | some c => "-" ++ c.toString ++ ", "
    | none => "    ") ++ o.shown

def helpText (o : Opt σ) : String :=
  match o.action with
  | .takeValue _ (some preset) _ =>
    if o.about = "" then "[default: " ++ preset ++ "]"
    else o.about ++ " [default: " ++ preset ++ "]"
  | _ => o.about

def help : Opt σ := ⟨"help", some 'h', "Print help", .help⟩

def version : Opt σ := ⟨"version", some 'V', "Print version", .version⟩

end Opt

namespace Operands

def optional (o : Operands σ) : String := "[" ++ o.placeholder ++ "]..."

def required (o : Operands σ) : String := "<" ++ o.placeholder ++ ">..."

end Operands

/-- What an argument has named. -/
inductive Mention
  | option (long : String)
  | operands
  deriving DecidableEq

namespace Grammar

def byLong (g : Grammar σ) (name : String) : Option (Opt σ) :=
  g.options.find? fun o => o.long == name

def byShort (g : Grammar σ) (c : Char) : Option (Opt σ) :=
  g.options.find? fun o => o.short == some c

def unique [BEq α] : List α → List α
  | [] => []
  | a :: as => a :: (unique as).filter (· != a)

/-- The usage line for some mentions. Without any it speaks of options in general. -/
def usage (g : Grammar σ) (mentions : List Mention) : String :=
  let options :=
    if mentions.isEmpty then ["[OPTIONS]"]
    else unique (mentions.filterMap fun
      | .option long => (g.byLong long).map Opt.shown
      | .operands => none)
  let operands := match g.operands with
    | some o => [if mentions.contains .operands then o.required else o.optional]
    | none => []
  "Usage: " ++ String.intercalate " " (g.name :: options ++ operands)

/-- Lines of two columns, with two spaces on both sides of the first. -/
def columns (rows : List (String × String)) : List String :=
  let width := (rows.map fun row => row.1.length).foldl max 0
  rows.map fun (name, text) =>
    "  " ++ name ++ String.ofList (List.replicate (width - name.length) ' ') ++ "  " ++ text

def helpText (g : Grammar σ) : String :=
  let arguments := match g.operands with
    | some o => ["Arguments:"] ++ columns [(o.optional, o.about)] ++ [""]
    | none => []
  let options := columns (g.options.map fun o => (o.helpName, o.helpText))
  let lines := [g.about, "", g.usage [], ""] ++ arguments ++ ["Options:"] ++ options
  String.join (lines.map (· ++ "\n"))

def versionText (g : Grammar σ) : String := g.version ++ "\n"

end Grammar

end UdpBench
