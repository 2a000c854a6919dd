import RestGraph.Files.Path
/-!
A file system held in memory: the entries by their location from the root, and the directory in
which relative paths start. There are no links, and space and permissions have no limit.
-/

set_option autoImplicit false

namespace RestGraph.Files

abbrev Location := List String

inductive Node where
  | file (content : ByteArray)
  | directory

instance : DecidableEq Node
  | .file a, .file b =>
    match ByteArray.instDecidableEq a b with
    | isTrue h => isTrue (h ▸ rfl)
    | isFalse h => isFalse fun same => h (Node.file.inj same)
  | .file _, .directory => isFalse Node.noConfusion
  | .directory, .file _ => isFalse Node.noConfusion
  | .directory, .directory => isTrue rfl

/-- The entries of a volume. The root is a directory without an entry of its own. Names and paths
may be as long as `nameLimit` and `pathLimit` bytes, if there are such limits. -/
structure Volume where
  entries : List (Location × Node)
  current : Location
  nameLimit : Option Nat := none
  pathLimit : Option Nat := none
  deriving DecidableEq

namespace Volume

def node? (volume : Volume) (location : Location) : Option Node :=
  if location = [] then some .directory
  else (volume.entries.find? fun entry => decide (entry.1 = location)).map Prod.snd

def erase (volume : Volume) (location : Location) : Volume :=
  { volume with entries := volume.entries.filter fun entry => decide (entry.1 ≠ location) }

def insert (volume : Volume) (location : Location) (node : Node) : Volume :=
  { volume with entries := (location, node) :: (volume.erase location).entries }

def checkLength (limit : Option Nat) (text : String) : Except Fault Unit :=
  match limit with
  | some limit => if limit < text.utf8ByteSize then .error .nameTooLong else .ok ()
  | none => .ok ()

def checkName (volume : Volume) (name : String) : Except Fault Unit :=
  checkLength volume.nameLimit name

def walk (volume : Volume) (location : Location) : List String → Except Fault Location
  | [] => .ok location
  | segment :: rest =>
    if Path.isIdle segment then walk volume location rest
    else if segment = ".." then walk volume location.dropLast rest
    else
      match volume.checkName segment with
      | .error fault => .error fault
      | .ok () =>
        match volume.node? (location ++ [segment]) with
        | none => .error .missing
        | some (.file _) => .error .notDirectory
        | some .directory => walk volume (location ++ [segment]) rest

/-- The location where a path starts, and the segments to follow from there. No entry has a name
with a NUL in it, the empty path leads nowhere, and the length of a path counts as it is written. -/
def start (volume : Volume) (path : Path) : Except Fault (Location × List String) := do
  if path.segments.any fun segment => segment.toList.contains '\x00' then .error .badName
  else if path.isEmpty then .error .missing
  else
    checkLength volume.pathLimit path.text
    if path.isAbsolute then return ([], path.segments.drop 1)
    else return (volume.current, path.segments)

def directoryAt (volume : Volume) (path : Path) : Except Fault Location := do
  let (location, segments) ← volume.start path
  volume.walk location segments

def nameAt (volume : Volume) (location : Location) (segments : List String) :
    Except Fault Location := do
  let directory ← volume.walk location segments.dropLast
  match segments.getLast? with
  | none => .error .isDirectory
  | some name =>
    if Path.isIdle name || name == ".." then .error .isDirectory
    else
      volume.checkName name
      return directory ++ [name]

def entryAt (volume : Volume) (path : Path) : Except Fault Location := do
  let (location, segments) ← volume.start path
  volume.nameAt location segments

/-- Creates a directory. Slashes at the end of the path do not count. -/
def makeDirectory (volume : Volume) (path : Path) : Except Fault Volume := do
  let (location, segments) ← volume.start path
  let named := (segments.reverse.dropWhile (· == "")).reverse
  match volume.nameAt location named with
  | .error .isDirectory => .error .exists
  | .error fault => .error fault
  | .ok entry =>
    match volume.node? entry with
    | some _ => .error .exists
    | none => return volume.insert entry .directory

def writeFile (volume : Volume) (path : Path) (content : ByteArray) : Except Fault Volume := do
  let entry ← volume.entryAt path
  match volume.node? entry with
  | some .directory => .error .isDirectory
  | _ => return volume.insert entry (.file content)

def rename (volume : Volume) (source target : Path) : Except Fault Volume := do
  let old ← volume.entryAt source
  let new ← volume.entryAt target
  match volume.node? old, volume.node? new with
  | none, _ => .error .missing
  | some .directory, _ => .error .isDirectory
  | some (.file _), some .directory => .error .isDirectory
  | some (.file content), _ => return (volume.erase old).insert new (.file content)

def removeFile (volume : Volume) (path : Path) : Except Fault Volume := do
  let entry ← volume.entryAt path
  match volume.node? entry with
  | none => .error .missing
  | some .directory => .error .isDirectory
  | some (.file _) => return volume.erase entry

def readFile (volume : Volume) (path : Path) : Except Fault ByteArray := do
  let entry ← volume.entryAt path
  match volume.node? entry with
  | none => .error .missing
  | some .directory => .error .isDirectory
  | some (.file content) => return content

/-- Carries out an operation; a failure leaves the volume as it was. -/
def perform (operation : Volume → Except Fault Volume) : StateM Volume (Except Fault Unit) :=
  fun volume =>
    match operation volume with
    | .ok changed => (.ok (), changed)
    | .error fault => (.error fault, volume)

instance : FileSystem (StateM Volume) where
  makeDirectory path := perform fun volume => volume.makeDirectory path
  isDirectory path := fun volume =>
    (match volume.directoryAt path with
      | .ok _ => true
      | .error _ => false, volume)
  writeFile path content := perform fun volume => volume.writeFile path content
  rename source target := perform fun volume => volume.rename source target
  removeFile path := perform fun volume => volume.removeFile path
  readFile path := fun volume => (volume.readFile path, volume)

end Volume

end RestGraph.Files
