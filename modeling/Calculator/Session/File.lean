/-!
# Source files

A file is read as a whole and must be UTF-8 text.  What the system has to say
about a file that cannot be read is kept with its number.
-/

namespace Calculator

inductive FileError where
  | system (message : String) (number : Nat)
  | notText
deriving DecidableEq, Repr, Inhabited

namespace FileError

def missing : FileError :=
  system "No such file or directory" 2

def notDirectory : FileError :=
  system "Not a directory" 20

def directory : FileError :=
  system "Is a directory" 21

def nameTooLong : FileError :=
  system "File name too long" 36

def number? : FileError → Option Nat
  | system _ number => some number
  | notText => none

def text : FileError → String
  | system message number => message ++ " (os error " ++ toString number ++ ")"
  | notText => "stream did not contain valid UTF-8"

end FileError

/-- The text of a file, given what reading its bytes came to. -/
def FileError.decode (content : Except FileError ByteArray) : Except FileError String :=
  match content with
  | .error error => .error error
  | .ok bytes =>
      match String.fromUTF8? bytes with
      | some text => .ok text
      | none => .error .notText

end Calculator
