import Calculator.CommandLine.Task

/-!
# The program

Arguments, files and the console meet the outside world here and nowhere else.
-/

namespace Calculator

def Output.emit : Output → IO Unit
  | .result text => do
      let stream ← IO.getStdout
      stream.putStr text
      stream.flush
  | .diagnostic text => do
      let stream ← IO.getStderr
      stream.putStr text
      stream.flush

def Response.emit (response : Response) : IO UInt32 := do
  response.outputs.forM Output.emit
  return response.exit.toUInt32

/-- An error by its number, which may arrive negated in 32 bits. -/
def FileError.ofNumber (number : UInt32) (message : String) : FileError :=
  let positive := if number < 0x80000000 then number.toNat else (0 - number).toNat
  match [notDirectory, directory, nameTooLong].find? fun error => error.number? = some positive with
  | some error => error
  | none => .system message positive

def FileError.ofSystem : IO.Error → FileError
  | .noFileOrDirectory .. => .missing
  | .inappropriateType _ number message => .ofNumber number message
  | .invalidArgument _ number message => .ofNumber number message
  | .permissionDenied _ number message => .ofNumber number message
  | error => .system (toString error) 5

def readContent (path : String) : IO (Except FileError ByteArray) := do
  try
    return .ok (← IO.FS.readBinFile path)
  catch error =>
    return .error (.ofSystem error)

/-- The bytes of the next line with what ended it; empty at the end of the input. -/
partial def readLine (input : IO.FS.Stream) (line : List UInt8) : IO (List UInt8) := do
  match (← input.read 1).toList with
  | [] => return line.reverse
  | byte :: _ =>
      if byte = Line.lineFeed then return (byte :: line).reverse
      else readLine input (byte :: line)

/-- Takes lines as they are typed. -/
partial def converse (input : IO.FS.Stream) (console : Console) : IO UInt32 := do
  console.prompt.emit
  let bytes ← readLine input []
  match Line.ofBytes ⟨bytes.toArray⟩ with
  | [] =>
      Conversation.farewell.emit
      return 0
  | none :: _ =>
      (Response.consoleFailure Conversation.unreadable).emit
      return 1
  | some line :: _ =>
      let turn := console.take line
      turn.outputs.forM Output.emit
      if turn.closed then return 0 else converse input turn.console

def CommandLine.carryOut (line : CommandLine) : IO UInt32 := do
  let session : Session := { settings := line.settings }
  match line.task with
  | .evaluateFile path =>
      let content ← readContent path
      (Response.ofFile line.settings path (session.evaluateFile content).1).emit
  | .evaluate source => (Response.ofEvaluation line.settings (session.evaluate source).1).emit
  | .converse =>
      Console.banner.emit
      converse (← IO.getStdin) { session }
  | .showUsage => Response.usage.emit

end Calculator

def main (arguments : List String) : IO UInt32 :=
  match Calculator.CommandLine.read arguments with
  | .error stop => (Calculator.Response.ofStop stop).emit
  | .ok line => line.carryOut
