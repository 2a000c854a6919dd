import RestGraph.Files.Path
/-!
Writing whole files. The content goes to a temporary file beside the target first, which then takes
the place of the target, so no reader ever sees half a file.
-/

set_option autoImplicit false

namespace RestGraph.Files

structure WriteFault where
  path : Path
  deriving DecidableEq

/-- The wording of a failed write, without what the system says about its cause. -/
def WriteFault.message (fault : WriteFault) : String :=
  "Failed to write output file '" ++ fault.path.text ++ "'"

variable {m : Type → Type} [Monad m] [FileSystem m]

def orExisting (path : Path) (fault : Fault) : m (Except Fault Unit) := do
  if ← FileSystem.isDirectory path then return .ok () else return .error fault

/-- Creates the first of some directories, each of which lies in the next one, and those of the
others that are missing. -/
def makeDirectories : List Path → m (Except Fault Unit)
  | [] => return .ok ()
  | path :: above => do
    match ← FileSystem.makeDirectory path with
    | .ok () => return .ok ()
    | .error .missing =>
      match ← makeDirectories above with
      | .error fault => return .error fault
      | .ok () =>
        match ← FileSystem.makeDirectory path with
        | .ok () => return .ok ()
        | .error fault => orExisting path fault
    | .error fault => orExisting path fault

def makeParents (path : Path) : m (Except WriteFault Unit) := do
  match path.parent? with
  | none => return .ok ()
  | some parent =>
    match ← makeDirectories (m := m) parent.withAncestors with
    | .ok () => return .ok ()
    | .error _ => return .error ⟨parent⟩

/-- Writes a file as a whole and creates the directories that it lies in. The temporary file does
not survive a failure to put it in place. -/
def writeWhole (path : Path) (content : String) : m (Except WriteFault Unit) := do
  match ← makeParents (m := m) path with
  | .error fault => return .error fault
  | .ok () =>
    let temporary := path.temporary
    match ← FileSystem.writeFile (m := m) temporary content.toUTF8 with
    | .error _ => return .error ⟨temporary⟩
    | .ok () =>
      match ← FileSystem.rename (m := m) temporary path with
      | .ok () => return .ok ()
      | .error _ =>
        let _ ← FileSystem.removeFile (m := m) temporary
        return .error ⟨path⟩

end RestGraph.Files
