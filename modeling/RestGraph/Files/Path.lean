/-!
Paths of files. A path is the list of the segments between its slashes, so its text is kept exactly;
empty segments and points are there but name nothing, except for a point at the very start. The
operations of a file system on paths are those of the operating system: each does one thing, and a
failure changes nothing.
-/

set_option autoImplicit false

namespace RestGraph.Files

/-- A path: what stands before, between and after the slashes of its text. -/
structure Path where
  segments : List String
  deriving DecidableEq

namespace Path

def ofText (text : String) : Path :=
  ⟨(text.toList.splitOn '/').map String.ofList⟩

def text (path : Path) : String :=
  String.intercalate "/" path.segments

/-- A segment that names nothing. -/
def isIdle (segment : String) : Bool :=
  segment == "" || segment == "."

def trimIdle (segments : List String) : List String :=
  (segments.reverse.dropWhile isIdle).reverse

def isAbsolute (path : Path) : Bool :=
  match path.segments with
  | "" :: _ :: _ => true
  | _ => false

def isEmpty (path : Path) : Bool :=
  path.segments == [""]

/-- The first segment if it stands for the root or for the current directory. -/
def front (path : Path) : List String :=
  match path.segments with
  | "" :: _ :: _ => [""]
  | "." :: _ => ["."]
  | _ => []

def body (path : Path) : List String :=
  trimIdle (path.segments.drop path.front.length)

def ofParts (front body : List String) : Path :=
  match front, body with
  | [""], [] => ⟨["", ""]⟩
  | [], [] => ⟨[""]⟩
  | _, _ => ⟨front ++ body⟩

/-- A path inside a directory. An absolute path stays as it is, and a slash at the end of the
directory is not doubled. -/
def join (directory path : Path) : Path :=
  if path.isAbsolute then path
  else if directory.segments.getLast? = some "" then
    ⟨directory.segments.dropLast ++ path.segments⟩
  else ⟨directory.segments ++ path.segments⟩

def parent? (path : Path) : Option Path :=
  match path.body with
  | [] => if path.front = ["."] then some ⟨[""]⟩ else none
  | body => some (ofParts path.front (trimIdle body.dropLast))

def fileName? (path : Path) : Option String :=
  match path.body.getLast? with
  | some name => if name = ".." then none else some name
  | none => none

/-- The parts of a name around its last point. A point at the start of a name does not count. -/
def splitName (name : String) : String × Option String :=
  let chars := name.toList
  let suffix := (chars.reverse.takeWhile (· != '.')).reverse
  let stem := chars.take (chars.length - suffix.length - 1)
  if stem.isEmpty then (name, none) else (String.ofList stem, some (String.ofList suffix))

def stem? (path : Path) : Option String :=
  path.fileName?.map fun name => (splitName name).1

/-- The path of the temporary file beside a file: its name with the extension `tmp`. A path without
a name stays as it is. So does, up to its extension, a name that would turn into the parent
directory. -/
def temporary (path : Path) : Path :=
  match path.fileName? with
  | none => path
  | some name =>
    let kept := path.front ++ path.body.dropLast
    match splitName name with
    | (".", some _) =>
      if path.segments.getLast? = some name then ⟨kept ++ [".."]⟩ else ⟨kept ++ ["..tmp"]⟩
    | (stem, _) => ⟨kept ++ [stem ++ ".tmp"]⟩

def ancestors (path : Path) : Nat → List Path
  | 0 => []
  | steps + 1 =>
    if path.isEmpty then []
    else
      path :: match path.parent? with
        | some parent => parent.ancestors steps
        | none => []

/-- A path and all directories above it. Each has fewer segments than the one before it. -/
def withAncestors (path : Path) : List Path :=
  path.ancestors (path.segments.length + 1)

end Path

inductive Fault where
  | missing
  | notDirectory
  | isDirectory
  | exists
  | nameTooLong
  | badName
  | other
  deriving DecidableEq

class FileSystem (m : Type → Type) where
  /-- Creates one directory inside an existing one. -/
  makeDirectory : Path → m (Except Fault Unit)
  isDirectory : Path → m Bool
  writeFile : Path → ByteArray → m (Except Fault Unit)
  /-- Moves a file to another path, in place of a file that is there. -/
  rename : Path → Path → m (Except Fault Unit)
  removeFile : Path → m (Except Fault Unit)
  readFile : Path → m (Except Fault ByteArray)

end RestGraph.Files
