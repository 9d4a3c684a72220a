/-! Files as the tools see them: what stands at a path, what reading it gives, and which files lie below
a directory. What stands at a path can be told without reading it, also where it cannot be read. -/
namespace Dialogue.Tool

inductive FileError
  | notFound
  | notDirectory
  | isDirectory
  | nameTooLong
  | notUtf8
  | other (message : String)
  deriving DecidableEq, Repr

def FileError.message : FileError → String
  | .notFound => "No such file or directory (os error 2)"
  | .notDirectory => "Not a directory (os error 20)"
  | .isDirectory => "Is a directory (os error 21)"
  | .nameTooLong => "File name too long (os error 36)"
  | .notUtf8 => "stream did not contain valid UTF-8"
  | .other message => message

/-- The size of the longest name of a file, in bytes. -/
def greatestNameSize : Nat := 255

/-- The size of the longest path, in bytes. -/
def greatestPathSize : Nat := 4095

/-- What can stand at a path, links followed. -/
inductive Entry
  | file
  | directory
  | other
  deriving DecidableEq, Repr

structure Files where
  entry? : String → Option Entry
  read : String → Except FileError ByteArray
  /-- The paths of the files below a directory, at any depth, in any order. -/
  below : String → List String

/-- The names on a path, those that stand for the directory itself left out. -/
def components (path : String) : List String :=
  ((path.toList.splitOn '/').map String.ofList).filter fun name => name ≠ "" && name ≠ "."

/-- A directory and a path in it. -/
def join (directory path : String) : String :=
  if directory.endsWith "/" then directory ++ path else directory ++ "/" ++ path

/-- What stands behind the last point of a file name that does not begin with it. -/
def extension? (path : String) : Option String :=
  match (components path).getLast? with
  | none | some ".." => none
  | some name =>
    let tail := (name.toList.reverse.takeWhile (· != '.')).reverse
    if tail.length + 1 < name.length then some (String.ofList tail) else none

def isScript (path : String) : Bool :=
  match extension? path with
  | some ext => ext = "txt" || ext = "msg"
  | none => false

/-- Name by name, each by code points; a path stands before those that go on from it. -/
def namesLe : List String → List String → Bool
  | [], _ => true
  | _ :: _, [] => false
  | a :: as, b :: bs => a < b || (a = b && namesLe as bs)

def pathLe (a b : String) : Bool := namesLe (components a) (components b)

namespace Files

def isFile (files : Files) (path : String) : Bool := files.entry? path = some .file

def isDirectory (files : Files) (path : String) : Bool := files.entry? path = some .directory

def isPresent (files : Files) (path : String) : Bool := (files.entry? path).isSome

def readText (files : Files) (path : String) : Except FileError String := do
  match String.fromUTF8? (← files.read path) with
  | some text => return text
  | none => throw .notUtf8

/-- The path of the directory that a path lies in, slashes at its end not counted. -/
def parent (path : String) : String :=
  let front := ((path.toList.reverse.dropWhile (· == '/')).dropWhile (· != '/')).reverse
  if front.isEmpty then "." else String.ofList front

/-- Why nothing can be written to a path, if so. -/
def writeFault? (files : Files) (path : String) : Option FileError :=
  match files.read path, files.read (parent path) with
  | .ok _, _ => none
  | .error here, .error .isDirectory =>
    if path.endsWith "/" then some .isDirectory
    else if here = .notFound then none
    else some here
  | .error _, .error e => some e
  | .error _, .ok _ => some .notDirectory

/-- The script files below a directory, in the order of their paths. -/
def scriptsBelow (files : Files) (directory : String) : List String :=
  ((files.below directory).filter isScript).mergeSort pathLe

end Files

end Dialogue.Tool
