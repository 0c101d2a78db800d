import Calculator.CommandLine.Switch
import Calculator.Session.Settings

/-!
# Reading the command line

Arguments are read from left to right and the first thing that stops the reading
is the answer.  A value may be attached to its switch or follow as the next
argument.  In the second case the switch stays pending, and is only accepted, or
refused, when the next switch is met or the arguments end; an argument that fits
nowhere is refused before that.
-/

namespace Calculator

inductive UsageError where
  | unknownArgument
  | invalidValue
  | unwantedValue
  | repeated
deriving DecidableEq, Repr, Inhabited

/-- Why there is nothing to run: a request for information, or a mistake. -/
inductive Stop where
  | help
  | version
  | misuse (error : UsageError)
deriving DecidableEq, Repr, Inhabited

/-- What has been accepted from the command line. -/
structure CommandLine where
  expression : Option String := none
  file : Option String := none
  grammar : Option Grammar := none
  flags : List Flag := []
deriving DecidableEq, Repr, Inhabited

namespace CommandLine

def settings (line : CommandLine) : Settings :=
  { grammar := line.grammar.getD .precedence
    printTokens := line.flags.contains .printTokens
    printTree := line.flags.contains .printTree
    printCode := line.flags.contains .printCode
    json := line.flags.contains .json }

/-- Accepts a text given at most once. -/
def once (present : Option String) (value : String) : Except Stop (Option String) :=
  if present.isSome then .error (.misuse .repeated) else .ok (some value)

/-- Accepts a value for a parameter. -/
def assign (line : CommandLine) (value : String) : Parameter → Except Stop CommandLine
  | .expression => (once line.expression value).map fun expression => { line with expression }
  | .file => (once line.file value).map fun file => { line with file }
  | .grammar =>
      if line.grammar.isSome then .error (.misuse .repeated)
      else
        match Grammar.ofName? value with
        | some grammar => .ok { line with grammar := some grammar }
        | none => .error (.misuse .invalidValue)

def raise (line : CommandLine) (flag : Flag) : Except Stop CommandLine :=
  if line.flags.contains flag then .error (.misuse .repeated)
  else .ok { line with flags := flag :: line.flags }

/-- A parameter whose value, if it is there yet, has not been accepted. -/
structure Pending where
  parameter : Parameter
  value : Option String := none
deriving DecidableEq, Repr, Inhabited

/-- A command line read in part. -/
structure Reading where
  line : CommandLine := {}
  pending : Option Pending := none
deriving DecidableEq, Repr, Inhabited

namespace Reading

/-- Accepts what is pending. -/
def settle (reading : Reading) : Except Stop CommandLine :=
  match reading.pending with
  | none => .ok reading.line
  | some ⟨_, none⟩ => .error (.misuse .invalidValue)
  | some ⟨parameter, some value⟩ => reading.line.assign value parameter

/-- Meets a switch without an attached value. -/
def meet (reading : Reading) (switch : Switch) : Except Stop Reading := do
  let line ← reading.settle
  match switch with
  | .parameter parameter => .ok ⟨line, some ⟨parameter, none⟩⟩
  | .flag flag => .ok ⟨← line.raise flag, none⟩
  | .help => .error .help
  | .version => .error .version

/-- Meets a switch with an attached value. -/
def meetWithValue (reading : Reading) (switch : Switch) (value : List Char) :
    Except Stop Reading :=
  match switch with
  | .parameter parameter => do
      let line ← reading.settle
      .ok ⟨← line.assign (String.ofList value) parameter, none⟩
  | _ => .error (.misuse .unwantedValue)

/-- An argument that is no switch must be the value of a pending parameter. -/
def takeValue (reading : Reading) (value : List Char) : Except Stop Reading :=
  match reading.pending with
  | some ⟨parameter, none⟩ =>
      .ok { reading with pending := some ⟨parameter, some (String.ofList value)⟩ }
  | _ => .error (.misuse .unknownArgument)

/-- A long name, with a value attached to it by an equals sign or without. -/
def takeLong (reading : Reading) (argument : List Char) : Except Stop Reading :=
  let name := String.ofList (argument.takeWhile (· != '='))
  match Switch.ofLongName? name, argument.dropWhile (· != '=') with
  | none, _ => .error (.misuse .unknownArgument)
  | some switch, [] => reading.meet switch
  | some switch, _ :: value => reading.meetWithValue switch value

/-- Short names in a row.  A parameter takes what follows it as its value, less
one equals sign; only as the last one it has none attached. -/
def takeShort (reading : Reading) : List Char → Except Stop Reading
  | [] => .ok reading
  | name :: names =>
      match Switch.ofShortName? name, names with
      | none, _ => .error (.misuse .unknownArgument)
      | some (.parameter parameter), '=' :: value =>
          reading.meetWithValue (.parameter parameter) value
      | some (.parameter parameter), first :: value =>
          reading.meetWithValue (.parameter parameter) (first :: value)
      | some switch, names =>
          match reading.meet switch with
          | .ok after => after.takeShort names
          | .error stop => .error stop

def take (reading : Reading) (argument : List Char) : Except Stop Reading :=
  match argument with
  | '-' :: '-' :: long => reading.takeLong long
  | '-' :: name :: names => reading.takeShort (name :: names)
  | value => reading.takeValue value

/-- Reads all arguments.  Nothing may follow two hyphens that stand alone. -/
def takeAll (reading : Reading) : List String → Except Stop CommandLine
  | [] => reading.settle
  | argument :: arguments =>
      if argument = "--" then
        if arguments = [] then reading.settle else .error (.misuse .unknownArgument)
      else
        match reading.take argument.toList with
        | .ok after => after.takeAll arguments
        | .error stop => .error stop

end Reading

/-- Reads the arguments of the program. -/
def read (arguments : List String) : Except Stop CommandLine :=
  Reading.takeAll {} arguments

end CommandLine

end Calculator
