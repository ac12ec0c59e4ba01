/-!
# The directory that the viewer is run in

A `Directory` is a set of files and folders by their paths.  Every path makes folders of its
beginnings.  In a path, `.` stays where it is and `..` goes up; a place outside the directory is
written with as many `..` in front as it takes to get out.  A path from the root begins with an
empty part; nothing is known about where the directory itself lies.
-/

namespace DeskView.CommandLine

/-- Why a file cannot be written. -/
inductive WriteError where
  /-- The directory of the file is missing. -/
  | notFound
  /-- A file stands where the path needs a directory. -/
  | notADirectory
  /-- A directory stands where the file should be. -/
  | isADirectory
  /-- The path, or one of the names in it, is too long. -/
  | nameTooLong
deriving Repr, DecidableEq

namespace WriteError

/-- The text that shows how the error is built. -/
def debug : WriteError → String
  | .notFound =>
    "Os \x7b code: 2, kind: NotFound, message: \"No such file or directory\" \x7d"
  | .notADirectory =>
    "Os \x7b code: 20, kind: NotADirectory, message: \"Not a directory\" \x7d"
  | .isADirectory =>
    "Os \x7b code: 21, kind: IsADirectory, message: \"Is a directory\" \x7d"
  | .nameTooLong =>
    "Os \x7b code: 36, kind: InvalidFilename, message: \"File name too long\" \x7d"

end WriteError

/-- The parts of a path; one from the root begins with an empty part. -/
abbrev Path := List String

/-- Files and folders by their paths. -/
structure Directory where
  files : List (Path × List UInt8) := []
  /-- Folders beside those that the files are in. -/
  folders : List Path := []
deriving Repr

namespace Directory

/-- What stands at a path. -/
inductive Found where
  | file (content : List UInt8)
  | directory
  | nothing
deriving Repr

/-- The root. -/
def root : Path := [""]

/-- Whether a place is the root, the directory itself, or above it. -/
def isAbove (path : Path) : Bool := path = root || path.all (· = "..")

/-- What stands at a path that has no `.` and no `..` in it. -/
def find (d : Directory) (path : Path) : Found :=
  match d.files.find? fun entry => entry.1 = path with
  | some (_, content) => .file content
  | none =>
    if isAbove path || d.files.any (fun entry => path.isPrefixOf entry.1) ||
        d.folders.any path.isPrefixOf then .directory
    else .nothing

/-- The most bytes that a name can have. -/
def longestName : Nat := 255

/-- The most bytes that a path can have. -/
def longestPath : Nat := 4095

/-- What stands at a path, unless its last name is too long to be looked up. -/
def lookUp (d : Directory) (path : Path) : Except WriteError Found :=
  if path.getLast?.any fun name => longestName < name.utf8ByteSize then .error .nameTooLong
  else .ok (d.find path)

/-- The parts of a path as it is written. -/
def parts (path : String) : Path := path.splitOn "/"

/-- The place above another one; above the root is the root. -/
def above (here : Path) : Path :=
  if here = root then root else if here.all (· = "..") then here ++ [".."] else here.dropLast

/-- Follows the parts of a path from `here`, each of which but the last must lead to a directory. -/
def resolve (d : Directory) (here : Path) : List String → Except WriteError Path
  | [] => .ok here
  | part :: rest =>
    match d.lookUp here with
    | .error e => .error e
    | .ok .nothing => .error .notFound
    | .ok (.file _) => .error .notADirectory
    | .ok .directory =>
      if part = "" || part = "." then d.resolve here rest
      else if part = ".." then d.resolve (above here) rest
      else d.resolve (here ++ [part]) rest

/-- Where a path begins. -/
def start (path : String) : Path := if path.startsWith "/" then root else []

/-- Where a path leads that is not too long; only the parts given are followed. -/
def follow (d : Directory) (path : String) (parts : List String) : Except WriteError Path :=
  if longestPath < path.utf8ByteSize then .error .nameTooLong else d.resolve (start path) parts

/-- The content of a file, if it can be read. -/
def read (d : Directory) (path : String) : Option (List UInt8) :=
  match d.follow path (parts path) with
  | .error _ => none
  | .ok place =>
    match d.find place with
    | .file content => some content
    | _ => none

/-- The parts of a path without the empty ones at its end. -/
def trimmed (parts : List String) : List String :=
  (parts.reverse.dropWhile (· = "")).reverse

/-- The directory with a file at a place. -/
def put (d : Directory) (place : Path) (content : List UInt8) : Directory :=
  match d.find place with
  | .file _ => { d with
      files := d.files.map fun entry => if entry.1 = place then (place, content) else entry }
  | _ => { d with files := d.files ++ [(place, content)] }

/-- The directory with a file written.  A path that ends in a slash names a folder, whether there is
one or not. -/
def write (d : Directory) (path : String) (content : List UInt8) :
    Except WriteError Directory := do
  let place ← d.follow path (trimmed (parts path))
  if path.endsWith "/" then .error .isADirectory
  else
    match ← d.lookUp place with
    | .directory => .error .isADirectory
    | _ => return d.put place content

/-- The files that are not in `earlier` with the same content. -/
def changes (d earlier : Directory) : List (Path × List UInt8) :=
  d.files.filter fun entry => !earlier.files.contains entry

/-- Whether a place lies inside the directory. -/
def isInside (place : Path) : Bool := place.head? != some ".." && place.head? != some ""

/-- A directory with some files, and what is usually found from the root: folders, and a file that
is always empty. -/
def usual (files : List (Path × List UInt8)) : Directory where
  files := (parts "/dev/null", []) :: files
  folders := ["/bin", "/etc", "/home", "/lib", "/mnt", "/opt", "/proc", "/root", "/run", "/srv",
    "/sys", "/tmp", "/usr/bin", "/usr/lib", "/usr/local", "/usr/share", "/var/lib", "/var/log",
    "/var/tmp"].map parts

end Directory

end DeskView.CommandLine
