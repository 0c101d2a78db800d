import Calculator.Code.Basic
import Calculator.Code.Lowering
import Calculator.CommandLine.Basic
import Calculator.CommandLine.Switch
import Calculator.CommandLine.Task
import Calculator.Console.Basic
import Calculator.Console.Command
import Calculator.Console.Conversation
import Calculator.Console.Line
import Calculator.Console.Output
import Calculator.Grammar.Basic
import Calculator.Grammar.Outcome
import Calculator.Grammar.Problem
import Calculator.Grammar.Production
import Calculator.Grammar.Reader
import Calculator.Machine.Basic
import Calculator.Machine.Fault
import Calculator.Machine.Tape
import Calculator.Main
import Calculator.Number.Decimal
import Calculator.Number.Literal
import Calculator.Number.Shortest
import Calculator.Number.Text
import Calculator.Operator
import Calculator.Proofs.Code.Contexts
import Calculator.Proofs.Code.Postorder
import Calculator.Proofs.Code.Readability
import Calculator.Proofs.Code.StackHeight
import Calculator.Proofs.Console.Blocks
import Calculator.Proofs.Console.Buffering
import Calculator.Proofs.Console.Conversation
import Calculator.Proofs.Console.Readiness
import Calculator.Proofs.Grammar.Acceptance
import Calculator.Proofs.Grammar.Balance
import Calculator.Proofs.Grammar.Blame
import Calculator.Proofs.Grammar.Call
import Calculator.Proofs.Grammar.CallTree
import Calculator.Proofs.Grammar.Chain
import Calculator.Proofs.Grammar.Completeness
import Calculator.Proofs.Grammar.Completion
import Calculator.Proofs.Grammar.Crowding
import Calculator.Proofs.Grammar.Descent
import Calculator.Proofs.Grammar.Ending
import Calculator.Proofs.Grammar.Finality
import Calculator.Proofs.Grammar.Incompleteness
import Calculator.Proofs.Grammar.Limit
import Calculator.Proofs.Grammar.Lockstep
import Calculator.Proofs.Grammar.Reading
import Calculator.Proofs.Grammar.Regrouping
import Calculator.Proofs.Grammar.Relocation
import Calculator.Proofs.Grammar.Rereading
import Calculator.Proofs.Grammar.Simulation
import Calculator.Proofs.Grammar.Soundness
import Calculator.Proofs.Grammar.Stopping
import Calculator.Proofs.Machine.Composition
import Calculator.Proofs.Machine.Frame
import Calculator.Proofs.Machine.Meaning
import Calculator.Proofs.Machine.Prediction
import Calculator.Proofs.Machine.Reuse
import Calculator.Proofs.Number.Literal
import Calculator.Proofs.Session.Evaluation
import Calculator.Proofs.Session.Juxtaposition
import Calculator.Proofs.Session.StackLimit
import Calculator.Proofs.Source.Excerpt
import Calculator.Proofs.Source.Position
import Calculator.Proofs.Source.Report
import Calculator.Proofs.Text.Json
import Calculator.Proofs.Text.Legible
import Calculator.Proofs.Token.Append
import Calculator.Proofs.Token.Locality
import Calculator.Proofs.Token.Restoration
import Calculator.Proofs.Token.Segmentation
import Calculator.Proofs.Tree.Form
import Calculator.Proofs.Tree.Json
import Calculator.Proofs.Tree.Loop
import Calculator.Proofs.Tree.Text
import Calculator.Proofs.Tree.Traversal
import Calculator.Session.Basic
import Calculator.Session.Failure
import Calculator.Session.File
import Calculator.Session.Folder
import Calculator.Session.Settings
import Calculator.Source.Excerpt
import Calculator.Source.Position
import Calculator.SyntaxError
import Calculator.Text.Blank
import Calculator.Text.Json
import Calculator.Token.Basic
import Calculator.Token.CharClass
import Calculator.Token.Lexer
import Calculator.Token.Reconstruct
import Calculator.Tree.Basic
import Calculator.Tree.Json
import Calculator.Tree.Node
import Calculator.Tree.Walk
