import KotestOutline.Text

/-!
# Command lines

What the arguments of a command line ask for.
-/

namespace KotestOutline

/-!
## Arguments

The commands of the command line, and the reading of arguments into one of them.

Switches may stand before and behind the positional arguments, up to an argument `--`, behind which
everything is positional. A long switch takes its value behind `=` or as the next argument, a short
one directly behind its letter, behind `=`, or as the next argument; short switches without a value
may share one hyphen. No switch may be given twice.
-/

/-- What a user may ask for. -/
inductive Command where
  | analyze (file : String) (json noResolve : Bool)
  | stub (style name : String) (spec : Option String)
  | styles
  | run (file : String) (dryRun : Bool)
  | init (directory : Option String) (force : Bool)
  deriving DecidableEq

/-- Why no command is read. -/
inductive UsageError where
  | missingSubcommand
  | invalidSubcommand
  | missingArgument
  | unknownArgument
  /-- A switch is given twice. -/
  | repeatedArgument
  /-- A switch that takes a value has none. -/
  | missingValue
  /-- A switch without a value has one. -/
  | surplusValue
  /-- The user asks for the usage. -/
  | helpRequest
  /-- The user asks for the version. -/
  | versionRequest
  deriving DecidableEq

/-- The text of a usage error. -/
def UsageError.message : UsageError → String
  | missingSubcommand | helpRequest => "usage: kospec (analyze | stub | styles | run | init) ..."
  | versionRequest => "kospec 0.1.0"
  | invalidSubcommand => "error: unrecognized subcommand"
  | missingArgument => "error: a required argument was not provided"
  | unknownArgument => "error: unexpected argument found"
  | repeatedArgument => "error: an argument cannot be used multiple times"
  | missingValue => "error: a value is required but none was supplied"
  | surplusValue => "error: unexpected value for an argument"

/-! ### Switches -/

/-- A named argument. -/
structure Switch where
  long : String
  short : Option Char
  takesValue : Bool

/-- What a command accepts. -/
structure Grammar where
  /-- How many positional arguments it has; all are required. -/
  positionals : Nat
  switches : List Switch

/-- What is read so far. -/
structure Reading where
  positionals : List String
  /-- The names of the given switches, with their values. -/
  given : List (String × String)
  /-- A switch whose value stands in an argument of its own, and the value once it is read. -/
  pending : Option (String × Option String)

namespace Reading

def empty : Reading := ⟨[], [], none⟩

/-- Adds a switch with a value, unless it is given already. -/
def give (r : Reading) (name value : String) : Except UsageError Reading :=
  if r.given.any (·.1 == name) then .error .repeatedArgument
  else .ok { r with given := r.given ++ [(name, value)] }

/-- Gives the pending switch; it must have its value by now. -/
def settle (r : Reading) : Except UsageError Reading :=
  match r.pending with
  | none => .ok r
  | some (_, none) => .error .missingValue
  | some (name, some value) => { r with pending := none }.give name value

/-- Gives a switch that takes no value. A request for help ends the reading. -/
def giveFlag (r : Reading) (name : String) : Except UsageError Reading := do
  let r ← r.settle
  if name == "help" then .error .helpRequest
  else if name == "version" then .error .versionRequest
  else r.give name ""

/-- Gives a switch with a value in the same argument. -/
def giveValue (r : Reading) (name value : String) : Except UsageError Reading := do
  (← r.settle).give name value

/-- Gives a switch whose value is the next argument. -/
def await (r : Reading) (name : String) : Except UsageError Reading := do
  return { ← r.settle with pending := some (name, none) }

/-- Adds a positional argument, if the command has another one. -/
def addPositional (g : Grammar) (r : Reading) (value : String) : Except UsageError Reading :=
  if r.positionals.length < g.positionals then do
    let r ← r.settle
    return { r with positionals := r.positionals ++ [value] }
  else .error .unknownArgument

/-- An argument that is neither `--` nor a switch: the awaited value, or a positional argument. -/
def addPlain (g : Grammar) (r : Reading) (value : String) : Except UsageError Reading :=
  match r.pending with
  | some (name, none) => .ok { r with pending := some (name, some value) }
  | _ => r.addPositional g value

/-- A long switch, with the value behind `=` if there is one. -/
def addLong (g : Grammar) (r : Reading) (name : String) (value : Option String) :
    Except UsageError Reading :=
  match g.switches.find? (·.long == name) with
  | none => .error .unknownArgument
  | some s =>
    match s.takesValue, value with
    | true, some v => r.giveValue name v
    | true, none => r.await name
    | false, some _ => .error .surplusValue
    | false, none => r.giveFlag name

/-- Short switches behind one hyphen. -/
def addShort (g : Grammar) (r : Reading) : List Char → Except UsageError Reading
  | [] => .ok r
  | c :: cs =>
    match g.switches.find? (·.short == some c) with
    | none => .error .unknownArgument
    | some s =>
      if !s.takesValue then do (← r.giveFlag s.long).addShort g cs
      else
        match cs with
        | [] => r.await s.long
        | '=' :: value => r.giveValue s.long (.ofList value)
        | value => r.giveValue s.long (.ofList value)

end Reading

/-! ### Command arguments -/

namespace Grammar

/-- Reads the arguments behind `--`. -/
def readTrailing (g : Grammar) (r : Reading) : List String → Except UsageError Reading
  | [] => r.settle
  | a :: rest => do g.readTrailing (← r.addPositional g a) rest

/-- Reads the arguments of a command. -/
def readFrom (g : Grammar) (r : Reading) : List String → Except UsageError Reading
  | [] => r.settle
  | a :: rest =>
    match a.toList with
    | ['-', '-'] => g.readTrailing r rest
    | '-' :: '-' :: cs => do
      let (name, value) := match splitAtFirst? '=' cs with
        | some (name, value) => (String.ofList name, some (String.ofList value))
        | none => (String.ofList cs, none)
      g.readFrom (← r.addLong g name value) rest
    | '-' :: c :: cs => do g.readFrom (← r.addShort g (c :: cs)) rest
    | _ => do g.readFrom (← r.addPlain g a) rest

/-- Reads the arguments of a command, with every positional argument there. -/
def read (g : Grammar) (args : List String) : Except UsageError Reading := do
  let r ← g.readFrom .empty args
  if r.positionals.length < g.positionals then .error .missingArgument else .ok r

end Grammar

/-! ### Commands -/

namespace Command

/-- The switch that asks for the usage. -/
def helpSwitch : Switch := ⟨"help", some 'h', false⟩

/-- Reads the arguments of `analyze`. -/
def readAnalyze (args : List String) : Except UsageError Command := do
  let r ← Grammar.read
    ⟨1, [⟨"json", some 'j', false⟩, ⟨"no-resolve", none, false⟩, helpSwitch]⟩ args
  return .analyze (r.positionals.headD "") (r.given.lookup "json").isSome
    (r.given.lookup "no-resolve").isSome

/-- Reads the arguments of `stub`. -/
def readStub (args : List String) : Except UsageError Command := do
  let r ← Grammar.read ⟨2, [⟨"spec", some 's', true⟩, helpSwitch]⟩ args
  return .stub (r.positionals.headD "") (r.positionals.getLastD "") (r.given.lookup "spec")

/-- Reads the arguments of `styles`. -/
def readStyles (args : List String) : Except UsageError Command := do
  let _ ← Grammar.read ⟨0, [helpSwitch]⟩ args
  return .styles

/-- Reads the arguments of `run`. -/
def readRun (args : List String) : Except UsageError Command := do
  let r ← Grammar.read ⟨1, [⟨"dry-run", some 'd', false⟩, helpSwitch]⟩ args
  return .run (r.positionals.headD "") (r.given.lookup "dry-run").isSome

/-- Reads the arguments of `init`. -/
def readInit (args : List String) : Except UsageError Command := do
  let r ← Grammar.read
    ⟨0, [⟨"cwd", some 'c', true⟩, ⟨"force", some 'f', false⟩, helpSwitch]⟩ args
  return .init (r.given.lookup "cwd") (r.given.lookup "force").isSome

/-- The reader of the arguments of a command with a name. -/
def reader? (name : String) : Option (List String → Except UsageError Command) :=
  if name == "analyze" || name == "a" then some readAnalyze
  else if name == "stub" then some readStub
  else if name == "styles" then some readStyles
  else if name == "run" || name == "r" then some readRun
  else if name == "init" then some readInit
  else none

/-- Whether a word names a command, the help command included. -/
def isName (name : String) : Bool := (reader? name).isSome || name == "help"

/-- The answer to the help command, which takes the name of at most one command. -/
def readHelp : List String → UsageError
  | [] => .helpRequest
  | [name] => if isName name then .helpRequest else .invalidSubcommand
  | _ => .invalidSubcommand

/-- The answer to a first argument that names no command. -/
def readOther (first : String) (rest : List String) : UsageError :=
  match first.toList with
  | ['-', '-'] =>
    match rest with
    | [] => .missingSubcommand
    | name :: _ => if isName name then .unknownArgument else .invalidSubcommand
  | '-' :: '-' :: cs =>
    if cs == "help".toList then .helpRequest
    else if cs == "version".toList then .versionRequest
    else if "help=".toList.isPrefixOf cs || "version=".toList.isPrefixOf cs then .surplusValue
    else .unknownArgument
  | '-' :: 'h' :: _ => .helpRequest
  | '-' :: 'V' :: _ => .versionRequest
  | '-' :: _ :: _ => .unknownArgument
  | _ => .invalidSubcommand

/-- The command that the arguments behind the name of the program ask for. -/
def ofArguments : List String → Except UsageError Command
  | [] => .error .missingSubcommand
  | name :: rest =>
    match reader? name with
    | some read => read rest
    | none => if name == "help" then .error (readHelp rest) else .error (readOther name rest)

end Command

/-!
## Locations

A file on the command line, with a line behind a colon if one is meant. Lines are written from 1 on
and kept from 0 on.
-/

/-- The number that decimal digits write, with an optional plus sign, if it fits 64 bits. -/
def lineNumber? (cs : List Char) : Option Nat :=
  let digits := if cs.head? == some '+' then cs.drop 1 else cs
  let n := digits.foldl (fun n d => n * 10 + (d.toNat - '0'.toNat)) 0
  if !digits.isEmpty && digits.all Char.isDigit && n < UInt64.size then some n else none

/-- A path, and the line index behind it if there is one. Line 0 means line 1. -/
structure Location where
  path : String
  line : Option Nat
  deriving DecidableEq

namespace Location

/-- The location that an argument writes: the text behind the last colon is a line if it is a
number, else the whole argument is a path. -/
def ofArgument (argument : String) : Location :=
  match splitAtLast? ':' argument.toList with
  | none => ⟨argument, none⟩
  | some (path, line) =>
    match lineNumber? line with
    | some n => ⟨.ofList path, some (n - 1)⟩
    | none => ⟨argument, none⟩

end Location

/-- A line index as a 32-bit number that has a successor, or the text that says it is too large. -/
def lineIndex (line : Nat) : Except String UInt32 :=
  if line < UInt32.size - 1 then .ok (.ofNat line)
  else .error s!"Line number {min (line + 1) (UInt64.size - 1)} is out of range"

end KotestOutline
