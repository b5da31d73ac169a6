import ChainFeed.Text.Split
import ChainFeed.Message.Schema

/-!
# Directories of files

A directory is given by its files, each with its path below the directory. A path is walked segment
by segment; only directories can be walked through. It may lead out of the directory, to directories
above it or at the root of the file system, of which nothing is known but that they are there.

## Main definitions

- `ChainFeed.Directory`: a directory
- `ChainFeed.Directory.join`: a path below a directory
- `ChainFeed.Directory.read`: the text of the file at a path
-/

namespace ChainFeed

/-- Files by the segments of their paths. -/
structure Directory where
  files : List (List String × String)

namespace Directory

/-- The segments of a path. -/
def pathSegments (path : String) : List String :=
  (splitChars '/' path.toList).map String.ofList

/-- A path below a directory; a path from the root stays as it is. -/
def join (directory path : String) : String :=
  if directory = "" || path.toList.head? = some '/' then path
  else if directory.toList.getLast? = some '/' then directory ++ path
  else directory ++ "/" ++ path

/-- A directory of files by path. -/
def ofFiles (files : List (String × String)) : Directory :=
  ⟨files.map fun (path, text) => ((pathSegments path).filter (· != ""), text)⟩

/-- Where a path has led. -/
inductive Place where
  /-- The directory, or what is below it. -/
  | below (segments : List String)
  /-- A directory above it. -/
  | above
  /-- The root of the file system. -/
  | root
  /-- A directory at the root. -/
  | atRoot (name : String)
  /-- The device that holds nothing. -/
  | null
  deriving DecidableEq, Repr

/-- The directories at the root of a file system. -/
def namesAtRoot : List String :=
  ["bin", "boot", "dev", "etc", "home", "lib", "media", "mnt", "opt", "proc", "root", "run", "sbin",
    "srv", "sys", "tmp", "usr", "var"]

/-- Whether there is a file at a place. -/
def isFile (directory : Directory) : Place → Bool
  | .below segments => directory.files.any fun (path, _) => path = segments
  | .null => true
  | _ => false

/-- Whether there is a directory at a place. -/
def isDirectory (directory : Directory) : Place → Bool
  | .below segments =>
    segments.isEmpty || directory.files.any fun (path, _) =>
      segments.length < path.length && path.take segments.length = segments
  | .null => false
  | _ => true

/-- The directory in which a place is; the root is in itself. -/
def Place.parent : Place → Place
  | .below [] | .above => .above
  | .below segments => .below segments.dropLast
  | .root | .atRoot _ => .root
  | .null => .atRoot "dev"

/-- The place of a name in a directory. -/
def Place.child? (name : String) : Place → Option Place
  | .below segments => some (.below (segments ++ [name]))
  | .root => if namesAtRoot.contains name then some (.atRoot name) else none
  | .atRoot "dev" => if name = "null" then some .null else none
  | _ => none

/-- The greatest number of bytes in a name. -/
def maxName : Nat :=
  255

/-- The greatest number of bytes in a path. -/
def maxPath : Nat :=
  4095

/-- Walks along segments from a place. -/
def walk (directory : Directory) (place : Place) : List String → Except FileError Place
  | [] => .ok place
  | segment :: rest =>
    if directory.isFile place then .error .notDirectory
    else if !directory.isDirectory place then .error .notFound
    else if segment = "" || segment = "." then walk directory place rest
    else if segment = ".." then walk directory place.parent rest
    else if maxName < segment.utf8ByteSize then .error .nameTooLong
    else
      match place.child? segment with
      | some place => walk directory place rest
      | none => .error .notFound

/-- The text of the file at a place. -/
def textAt (directory : Directory) (place : Place) : Except FileError String :=
  if directory.isDirectory place then .error .isDirectory
  else
    match place with
    | .below segments =>
      match directory.files.find? fun (path, _) => path = segments with
      | some (_, text) => .ok text
      | none => .error .notFound
    | _ => .ok ""

/-- The text of the file at a path. -/
def read (directory : Directory) (path : String) : Except FileError String := do
  if path.toList.contains (Char.ofNat 0) then throw .zeroByte
  else if maxPath < path.utf8ByteSize then throw .nameTooLong
  else
    let start := if path.toList.head? = some '/' then .root else .below []
    directory.textAt (← directory.walk start (pathSegments path))

end Directory

end ChainFeed
