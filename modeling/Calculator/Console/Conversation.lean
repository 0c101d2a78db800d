import Calculator.Console.Basic
import Calculator.Console.Line

/-!
# Conversations

A conversation is what the console does over a whole input.  It ends when the
console is closed, at the end of the input, or at a line that is no text.  What
is still held back at the end is dropped.
-/

namespace Calculator

structure Conversation where
  outputs : List Output
  session : Session
  failure : Option Failure := none
deriving Inhabited

namespace Conversation

def preceded (conversation : Conversation) (outputs : List Output) : Conversation :=
  { conversation with outputs := outputs ++ conversation.outputs }

def farewell : Output :=
  .result "\nGoodbye!\n"

def unreadable : Failure :=
  .console ("Readline error: " ++ FileError.notText.text)

/-- Takes the lines in order, each after a prompt. -/
def ofLines (console : Console) : List (Option String) → Conversation
  | [] => { outputs := [console.prompt, farewell], session := console.session }
  | none :: _ =>
      { outputs := [console.prompt], session := console.session, failure := some unreadable }
  | some line :: lines =>
      let turn := console.take line
      if turn.closed then
        { outputs := console.prompt :: turn.outputs, session := turn.console.session }
      else (ofLines turn.console lines).preceded (console.prompt :: turn.outputs)

end Conversation

namespace Session

/-- The conversation over an input, from the banner on. -/
def converse (session : Session) (input : ByteArray) : Conversation :=
  (Conversation.ofLines { session } (Line.ofBytes input)).preceded [Console.banner]

end Session

end Calculator
