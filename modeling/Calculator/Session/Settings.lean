import Calculator.Code.Basic
import Calculator.Grammar.Basic
import Calculator.Number.Text
import Calculator.Token.Basic
import Calculator.Tree.Json

/-!
# Settings and dumps

An evaluation passes through three stages: tokens, tree and code.  The settings
say which of them are dumped and whether dumps and results are written as JSON,
in which case the fields of every object are in ascending order.
-/

namespace Calculator

structure Settings where
  grammar : Grammar := .precedence
  printTokens : Bool := false
  printTree : Bool := false
  printCode : Bool := false
  json : Bool := false
deriving DecidableEq, Repr, Inhabited

def Token.json (token : Token) : Json :=
  .object [("kind", .string token.kind.name), ("text", .string token.text),
    ("start_offset", .count token.start)]

/-- The product of a stage. -/
inductive Stage where
  | tokens (tokens : List Token)
  | tree (program : Program)
  | code (code : Code)

namespace Stage

def label : Stage → String
  | tokens _ => "Tokens"
  | tree _ => "AST"
  | code _ => "Postfix"

def key : Stage → String
  | tokens _ => "tokens"
  | tree _ => "ast"
  | code _ => "postfix"

def text : Stage → String
  | tokens list =>
      "[" ++ ", ".intercalate (list.map fun token =>
        token.kind.name ++ "(" ++ token.text ++ ")") ++ "]"
  | tree program => program.text
  | code instructions => Code.text instructions

def json : Stage → Json
  | tokens list => .array (list.map Token.json)
  | tree program => program.json
  | code instructions => Code.json instructions

end Stage

namespace Settings

def shows (settings : Settings) : Stage → Bool
  | .tokens _ => settings.printTokens
  | .tree _ => settings.printTree
  | .code _ => settings.printCode

def write (settings : Settings) (stage : Stage) : String :=
  if settings.json then (Json.object [(stage.key, stage.json)]).sorted.render
  else stage.label ++ ": " ++ stage.text

/-- The dumps of those stages that the settings ask for. -/
def dumps (settings : Settings) (stages : List Stage) : List String :=
  (stages.filter settings.shows).map settings.write

/-- Dumps a stage that has just been reached behind what was dumped before it. -/
def emit (settings : Settings) (dumped : List String) (stage : Stage) : List String :=
  if settings.shows stage then dumped ++ [settings.write stage] else dumped

/-- Dumping one stage after the other comes to the dumps of all of them. -/
theorem emit_dumps (settings : Settings) (stages : List Stage) (stage : Stage) :
    settings.emit (settings.dumps stages) stage = settings.dumps (stages ++ [stage]) := by
  rw [emit, dumps, dumps, List.filter_append, List.map_append]
  cases hshows : settings.shows stage <;> simp [hshows]

theorem emit_nil (settings : Settings) (stage : Stage) :
    settings.emit [] stage = settings.dumps [stage] :=
  settings.emit_dumps [] stage

/-- The results of an evaluation, one to a line unless they are written as JSON. -/
def results (settings : Settings) (values : List Float) : String :=
  let texts := values.map Number.text
  if settings.json then
    (Json.object [("values", .array (texts.map Json.string))]).sorted.render
  else "\n".intercalate texts

end Settings

end Calculator
