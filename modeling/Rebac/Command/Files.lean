import Rebac.Keyed

/-! # Files

The files below one directory, and what comes of reading and writing them by path. -/

namespace Rebac.Command

/-- Why a file cannot be read or written. -/
inductive FileFault where
  | missing
  | notDirectory
  | isDirectory
  | nameTooLong
  | notText
  /-- Any other reason, in the system's words. -/
  | other (message : String)
deriving DecidableEq, Repr

/-- The wording of a fault. -/
def FileFault.message : FileFault → String
  | .missing => "No such file or directory (os error 2)"
  | .notDirectory => "Not a directory (os error 20)"
  | .isDirectory => "Is a directory (os error 21)"
  | .nameTooLong => "File name too long (os error 36)"
  | .notText => "stream did not contain valid UTF-8"
  | .other message => message

/-- The names on the way to a file. The way leads down from the start directory, or down from the
root of the system when the first name is a slash, or first up by names of two dots. -/
abbrev Path := List String

/-- Files by path. Every beginning of a path is a directory. -/
abbrev Files := List (Path × ByteArray)

/-- What a path leads to. -/
inductive Place where
  | file (path : Path) (content : ByteArray)
  | directory (path : Path)
  /-- Nothing, in a directory that exists. -/
  | vacant (path : Path)

/-- The directories of every system, below its root. -/
def systemDirectories : List String :=
  ["bin", "boot", "dev", "etc", "home", "lib", "media", "mnt", "opt", "proc", "root", "run", "sbin",
    "srv", "sys", "tmp", "usr", "var"]

/-- The file of every system that is empty whatever is written to it. -/
def nullDevice : Path := ["/", "dev", "null"]

/-- The bytes that a name may have. -/
def maxNameSize : Nat := 255

/-- The bytes that a path may have. -/
def maxPathSize : Nat := 4095

namespace Files

/-- Whether a path is a directory. -/
def isDirectory (f : Files) (path : Path) : Bool :=
  path.all (· = "..") || path = ["/"] || systemDirectories.any (path = ["/", ·]) ||
    f.any fun (p, _) => path.isPrefixOf p && p ≠ path

/-- What stands at a path below an existing directory. -/
def at? (f : Files) (path : Path) : Place :=
  if path = nullDevice then .file path .empty
  else
    match Keyed.find? f path with
    | some content => .file path content
    | none => if f.isDirectory path then .directory path else .vacant path

/-- The directory above one. The root is above itself. -/
def above (path : Path) : Path :=
  if path = ["/"] then path
  else if path.all (· = "..") then path ++ [".."]
  else path.dropLast

/-- Follows names from a directory. A dot stays there, and two dots lead above it. -/
def follow (f : Files) (from' : Path) : List String → Except FileFault Place
  | [] => .ok (.directory from')
  | name :: rest =>
    if name = "." then f.follow from' rest
    else if name = ".." then f.follow (above from') rest
    else if maxNameSize < name.utf8ByteSize then .error .nameTooLong
    else
      match f.at? (from' ++ [name]) with
      | .directory path => f.follow path rest
      | .file path content => if rest = [] then .ok (.file path content) else .error .notDirectory
      | .vacant path => if rest = [] then .ok (.vacant path) else .error .missing

/-- A path in a text, taken apart. -/
structure Route where
  start : Path
  names : List String
  /-- Whether a slash ends the path, so that only a directory can be meant. -/
  closed : Bool
deriving DecidableEq, Repr

/-- Takes the path in a text apart. Slashes in a row count as one. -/
def Route.read (path : String) : Except FileFault Route :=
  if path = "" then .error .missing
  else if maxPathSize < path.utf8ByteSize then .error .nameTooLong
  else .ok
    { start := if path.toList.head? = some '/' then ["/"] else []
      names := (path.splitOn "/").filter (· ≠ "")
      closed := path.toList.getLast? = some '/' }

/-- What a path leads to, for reading. -/
def findSource (f : Files) (path : String) : Except FileFault Place := do
  let route ← Route.read path
  match ← f.follow route.start route.names with
  | .file found content => if route.closed then .error .notDirectory else .ok (.file found content)
  | place => .ok place

/-- What a path leads to, for writing. A path that a slash ends is refused as a directory, once the
directory around it is found. -/
def findTarget (f : Files) (path : String) : Except FileFault Place := do
  let route ← Route.read path
  if route.closed then do
    let _ ← f.follow route.start (route.names.dropLast ++ ["."])
    return .directory []
  else f.follow route.start route.names

/-- The text of a file. -/
def readText (f : Files) (path : String) : Except FileFault String :=
  match f.findSource path with
  | .ok (.file _ content) =>
    match String.fromUTF8? content with
    | some text => .ok text
    | none => .error .notText
  | .ok (.directory _) => .error .isDirectory
  | .ok (.vacant _) => .error .missing
  | .error e => .error e

/-- The files after a text was written to a path. -/
def writeText (f : Files) (path text : String) : Except FileFault Files :=
  match f.findTarget path with
  | .ok (.file found _) | .ok (.vacant found) =>
    .ok (if found = nullDevice then f else Keyed.put f found text.toUTF8)
  | .ok (.directory _) => .error .isDirectory
  | .error e => .error e

end Files

end Rebac.Command
