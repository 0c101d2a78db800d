import Calculator.Session.File

/-!
# Folders and paths

The program runs in a folder, and a path says from there, or from the root of
the system, which file to read.  A path is followed component by component.  Of
the system around the folder only what is to be found everywhere is known: the
usual directories of its root, and the devices that stand for no data and for
the input of the program.
-/

namespace Calculator

/-- Files by their paths from the folder, and directories that may hold none. -/
structure Folder where
  files : List (String × ByteArray)
  directories : List String := []
deriving Inhabited

inductive Entry where
  | file (content : ByteArray)
  | directory
  | absent
deriving Inhabited

namespace Folder

/-- What a path from the folder leads to, its components innermost first. -/
def entry (folder : Folder) (components : List String) : Entry :=
  let path := "/".intercalate components.reverse
  match folder.files.lookup path with
  | some content => .file content
  | none =>
      if folder.directories.contains path ||
          folder.files.any (fun file => (path ++ "/").toList.isPrefixOf file.1.toList) then
        .directory
      else .absent

/-- The root of the system, with the input that the program was given. -/
def root (input : ByteArray) : Folder where
  files := [("dev/null", .empty), ("dev/stdin", input)]
  directories :=
    ["bin", "boot", "dev", "etc", "home", "lib", "media", "mnt", "opt", "proc", "root", "run",
      "sbin", "srv", "sys", "tmp", "usr", "var"]

end Folder

/-- A directory on the way of a path, its components innermost first: below the
root, below the folder, or between the two, where nothing is known. -/
inductive Place where
  | belowRoot (components : List String)
  | belowFolder (components : List String)
  | between
deriving DecidableEq, Repr, Inhabited

namespace Place

/-- The directory around a place; the root has none but itself. -/
def parent : Place → Place
  | belowRoot components => belowRoot components.tail
  | belowFolder [] => between
  | belowFolder (_ :: components) => belowFolder components
  | between => between

def child (name : String) : Place → Place
  | belowRoot components => belowRoot (name :: components)
  | belowFolder components => belowFolder (name :: components)
  | between => between

def entry (root folder : Folder) (name : String) : Place → Entry
  | belowRoot components => root.entry (name :: components)
  | belowFolder components => folder.entry (name :: components)
  | between => .absent

/-- How many bytes the name of a file may have. -/
def nameLimit : Nat := 255

/-- Follows the components of a path.  Only the last one may name a file, and a
path that ends in a slash has an empty one at its end. -/
def follow (root folder : Folder) : Place → List String → Except FileError ByteArray
  | _, [] => .error .directory
  | place, component :: components =>
      if component = "" || component = "." then follow root folder place components
      else if component = ".." then follow root folder place.parent components
      else if nameLimit < component.utf8ByteSize then .error .nameTooLong
      else
        match place.entry root folder component, components with
        | .absent, _ => .error .missing
        | .directory, _ => follow root folder (place.child component) components
        | .file content, [] => .ok content
        | .file _, _ :: _ => .error .notDirectory

end Place

namespace Folder

/-- A path has fewer bytes than this. -/
def pathLimit : Nat := 4096

/-- What reading a path gives to a program in the folder. -/
def read (folder : Folder) (input : ByteArray) (path : String) : Except FileError ByteArray :=
  if pathLimit ≤ path.utf8ByteSize then .error .nameTooLong
  else if path = "" then .error .missing
  else
    let start : Place := if path.toList.head? = some '/' then .belowRoot [] else .belowFolder []
    start.follow (root input) folder (path.splitOn "/")

end Folder

end Calculator
