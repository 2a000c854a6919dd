import RestGraph.Collision
import RestGraph.Declaration
import RestGraph.Files.Write
import RestGraph.Query
import RestGraph.Resolver
/-!
The three texts that are generated for an endpoint, and the files that hold them. The files are
written whole into a directory, one after another, and the first failure ends the work.
-/

set_option autoImplicit false

namespace RestGraph

structure Artifacts where
  query : String
  typeDefs : String
  resolver : String
  deriving DecidableEq

inductive GenerationFault where
  | options (fault : Options.Fault)
  | collision (collision : Collision)
  deriving DecidableEq

def GenerationFault.message : GenerationFault → String
  | .options fault => fault.message
  | .collision found => found.message

structure OutputFile where
  name : String
  content : String
  deriving DecidableEq

def resolverFile : String := "resolvers.ts"

def typeDefsFile : String := "typeDefs.ts"

def typeDefsImport : String :=
  "import \x7b Field, ObjectType, ArgsType, Float \x7d from 'type-graphql';"

namespace Endpoint

def queryText (options : Options) (endpoint : Endpoint) : String :=
  (Query.ofEndpoint options endpoint).document.render options.indent

def typeDefsText (options : Options) (endpoint : Endpoint) : String :=
  (Declaration.documentOf (Declaration.ofEndpoint endpoint)).render options.indent

def resolverText (options : Options) (endpoint : Endpoint) : String :=
  (Resolver.ofEndpoint options endpoint).document.render options.indent

def importsText (options : Options) (endpoint : Endpoint) : String :=
  (Resolver.ofEndpoint options endpoint).imports.render options.indent

def artifacts (options : Options) (endpoint : Endpoint) : Artifacts :=
  ⟨endpoint.queryText options, endpoint.typeDefsText options, endpoint.resolverText options⟩

/-- Checks the settings, then the names if the settings ask for it, and generates. -/
def generate (options : Options) (endpoint : Endpoint) : Except GenerationFault Artifacts :=
  match options.check with
  | .error fault => .error (.options fault)
  | .ok () =>
    match if options.detectCollisions then endpoint.collision? else none with
    | some found => .error (.collision found)
    | none => .ok (endpoint.artifacts options)

/-- The files for generated texts, in the order in which they are written. -/
def files (options : Options) (endpoint : Endpoint) (artifacts : Artifacts) (stem : String) :
    List OutputFile :=
  [⟨resolverFile, endpoint.importsText options ++ "\n" ++ artifacts.resolver⟩,
    ⟨typeDefsFile, typeDefsImport ++ "\n\n" ++ artifacts.typeDefs⟩,
    ⟨Naming.queryFile stem, artifacts.query⟩]

end Endpoint

/-- The texts and files of an endpoint under a file stem. The stem is checked before anything
else. -/
def Endpoint.prepare (options : Options) (endpoint : Endpoint) (stem : String) :
    Except GenerationFault (Artifacts × List OutputFile) := do
  if Text.isBlankText stem then .error (.options .emptyStem)
  else
    let artifacts ← endpoint.generate options
    return (artifacts, endpoint.files options artifacts stem)

namespace Files

variable {m : Type → Type} [Monad m] [FileSystem m]

/-- Writes files into a directory, one after another up to the first failure. The paths that were
written are returned with the outcome. -/
def writeFiles (directory : Path) : List OutputFile → m (List Path × Except WriteFault Unit)
  | [] => return ([], .ok ())
  | file :: rest => do
    let path := directory.join (Path.ofText file.name)
    match ← writeWhole (m := m) path file.content with
    | .error fault => return ([], .error fault)
    | .ok () => do
      let (paths, outcome) ← writeFiles directory rest
      return (path :: paths, outcome)

end Files

inductive EmissionFault where
  | generation (fault : GenerationFault)
  | write (fault : Files.WriteFault)
  deriving DecidableEq

def EmissionFault.message : EmissionFault → String
  | .generation fault => fault.message
  | .write fault => fault.message

def Endpoint.emit {m : Type → Type} [Monad m] [Files.FileSystem m] (options : Options)
    (endpoint : Endpoint) (directory : Files.Path) (stem : String) :
    m (Except EmissionFault Artifacts) := do
  match endpoint.prepare options stem with
  | .error fault => return .error (.generation fault)
  | .ok (artifacts, files) =>
    match (← Files.writeFiles (m := m) directory files).2 with
    | .error fault => return .error (.write fault)
    | .ok () => return .ok artifacts

end RestGraph
