import Dialogue.Tool.Files

/-! A directory given by the files in it. Directories are there only as far as files lie in them.
Above the directory there are directories too, but nothing in them can be seen. -/
namespace Dialogue.Tool

/-- Files by the names that lead to them. -/
abbrev Listing := List (List String × ByteArray)

/-- Where a path leads. -/
inductive Place
  /-- Names that lead on from the directory. -/
  | inside (names : List String)
  /-- Some directory that the given one lies in. -/
  | above
  deriving DecidableEq, Repr

/-- The directory that a directory lies in. -/
def Place.parent : Place → Place
  | .inside [] | .above => .above
  | .inside names => .inside names.dropLast

namespace Listing

/-- The file at a place, or whether there is a directory. -/
def look (listing : Listing) : Place → Except FileError ByteArray
  | .above => .error .isDirectory
  | .inside names =>
    match listing.find? (·.1 = names) with
    | some (_, content) => .ok content
    | none =>
      if names.isEmpty || listing.any (fun f => names.isPrefixOf f.1) then .error .isDirectory
      else .error .notFound

/-- Goes from a place along names; going on from a place that is no directory fails. -/
def walk (listing : Listing) (place : Place) : List String → Except FileError Place
  | [] => .ok place
  | name :: names =>
    match listing.look place with
    | .ok _ => .error .notDirectory
    | .error .isDirectory =>
      if name = "" || name = "." then walk listing place names
      else if name = ".." then walk listing place.parent names
      else if greatestNameSize < name.utf8ByteSize then .error .nameTooLong
      else
        match place with
        | .above => .error .notFound
        | .inside front => walk listing (.inside (front ++ [name])) names
    | .error e => .error e

/-- Where a path leads from the directory, or from the topmost one if it begins with a slash. -/
def locate (listing : Listing) (path : String) : Except FileError Place :=
  if path.isEmpty then .error .notFound
  else if greatestPathSize < path.utf8ByteSize then .error .nameTooLong
  else
    listing.walk (if path.startsWith "/" then .above else .inside [])
      ((path.toList.splitOn '/').map String.ofList)

/-- What reading a path gives. -/
def read (listing : Listing) (path : String) : Except FileError ByteArray := do
  listing.look (← listing.locate path)

def entry? (listing : Listing) (path : String) : Option Entry :=
  match listing.read path with
  | .ok _ => some .file
  | .error .isDirectory => some .directory
  | .error _ => none

def files (listing : Listing) : Files where
  entry? := listing.entry?
  read := listing.read
  below directory :=
    match listing.locate directory with
    | .error _ | .ok .above => []
    | .ok (.inside names) =>
      (listing.filter fun f => names.isPrefixOf f.1 && names.length < f.1.length).map fun f =>
        join directory ("/".intercalate (f.1.drop names.length))

end Listing
end Dialogue.Tool
