import RestGraph.Artifacts
import RestGraph.Command.Arguments
import RestGraph.Command.Log.Filter
import RestGraph.Endpoint.OfText
import RestGraph.Files.Volume
/-!
A run of the program: settings and output from the arguments, the texts for help and version, and
the run itself, which reads a descriptor, generates, and writes three files or prints them.
-/

set_option autoImplicit false

namespace RestGraph

namespace Command

namespace Arguments

def options (arguments : Arguments) : Options :=
  let defaults : Options := {}
  { (defaults.withIndentSpaces (arguments.indent.getD 2)) with
    operationFromMethod := arguments.operationFromMethod
    detectCollisions := !arguments.allowCollisions
    requestModule := arguments.requestModule.getD defaults.requestModule
    contextModule := arguments.contextModule.getD defaults.contextModule }

/-- The directory of the output: the given one, or that of the input, or the current one. -/
def directory (arguments : Arguments) (input : String) : Files.Path :=
  match arguments.output with
  | some directory => Files.Path.ofText directory
  | none =>
    let here := Files.Path.ofText "."
    if input = "-" then here
    else
      match (Files.Path.ofText input).parent? with
      | some parent => if parent.isEmpty then here else parent
      | none => here

/-- The stem of the query file: the given one, or that of the input, or the endpoint's name in small
letters. -/
def stem (arguments : Arguments) (input : String) (endpoint : Endpoint) : String :=
  match arguments.name with
  | some name => name
  | none =>
    if input = "-" then Text.lower endpoint.name
    else (Files.Path.ofText input).stem?.getD (Text.lower endpoint.name)

end Arguments

namespace Style

def heading : List Char :=
  ['\x1b', '[', '1', ';', '3', '6', 'm']

def ending : List Char :=
  ['\x1b', '[', '0', 'm']

/-- Switches a style on again wherever a text ends it. -/
def resume (style : List Char) : List Char → List Char
  | '\x1b' :: '[' :: '0' :: 'm' :: rest => ending ++ style ++ resume style rest
  | c :: rest => c :: resume style rest
  | [] => []

def apply (style : List Char) (text : String) : String :=
  String.ofList (style ++ resume style text.toList ++ ending)

end Style

def versionText : String := "api2gql 0.1.0\n"

/-- The output for a question after help: the description of the package, and what each option
does. -/
def helpText : String :=
  String.join
    ["Generates GraphQL queries, type-graphql declarations and resolvers ",
      "from REST endpoint descriptors\n\n",
      "Usage: api2gql [OPTIONS] <INPUT>\n\n",
      "Arguments:\n",
      "  <INPUT>  Descriptor JSON file (use \"-\" for stdin)\n\n",
      "Options:\n",
      "  -o, --output <OUTPUT>\n",
      "          Output directory (defaults to the input file's directory)\n",
      "      --name <NAME>\n",
      "          File stem of the query document (defaults to the input file stem)\n",
      "      --dry-run\n",
      "          Print generated files without writing them\n",
      "      --indent <INDENT>\n",
      "          Spaces per indentation level [default: 2]\n",
      "      --operation-from-method\n",
      "          Emit a mutation for endpoints whose method is not GET or HEAD\n",
      "      --allow-collisions\n",
      "          Skip fragment and type name collision checks\n",
      "      --request-module <REQUEST_MODULE>\n",
      "          Module path imported for \x60requestAPI\x60\n",
      "      --context-module <CONTEXT_MODULE>\n",
      "          Module path imported for \x60Context\x60\n",
      "  -v, --verbose...\n",
      "          Increase verbosity (-v INFO, -vv DEBUG, -vvv TRACE)\n",
      "  -h, --help\n",
      "          Print help\n",
      "  -V, --version\n",
      "          Print version\n"]

/-- A place to run in: a file system and a standard input. -/
class Host (m : Type → Type) extends Files.FileSystem m where
  standardInput : m ByteArray

instance {m : Type → Type} [Monad m] [Files.FileSystem m] : Host (ReaderT ByteArray m) where
  makeDirectory path := fun _ => Files.FileSystem.makeDirectory path
  isDirectory path := fun _ => Files.FileSystem.isDirectory path
  writeFile path content := fun _ => Files.FileSystem.writeFile path content
  rename source target := fun _ => Files.FileSystem.rename source target
  removeFile path := fun _ => Files.FileSystem.removeFile path
  readFile path := fun _ => Files.FileSystem.readFile path
  standardInput := fun input => pure input

/-- The settings that a run takes from its surroundings. What a refused command line is answered
with is settled outside, and depends on all of its words. -/
structure Surroundings where
  log : Option String := none
  color : Bool := false
  refusal : List String → String := fun _ => ""

structure Report where
  status : Nat
  output : String := ""
  log : List String := []
  error : Option String := none
  deriving DecidableEq

def Halt.report (refusal : String) : Halt → Report
  | .usage => { status := 2, error := some refusal }
  | .help => { status := 0, output := helpText }
  | .version => { status := 0, output := versionText }

def generationEvents (options : Options) (endpoint : Endpoint) (artifacts : Artifacts) :
    List Event :=
  let root := Naming.responseType endpoint.name
  [.buildingQuery endpoint.name (options.operation endpoint) endpoint.parameters.length
      (endpoint.response.listPlaces root).length,
    .buildingTypes endpoint.name (endpoint.response.recordPlaces root).length,
    .generated endpoint.name artifacts.query.utf8ByteSize artifacts.typeDefs.utf8ByteSize
      artifacts.resolver.utf8ByteSize]

def heading (color : Bool) (name : String) : String :=
  let title := "=== " ++ name ++ " ==="
  if color then Style.apply Style.heading title else title

def printed (color : Bool) (files : List OutputFile) : String :=
  String.join (files.map fun file => heading color file.name ++ "\n" ++ file.content ++ "\n")

structure Outcome where
  events : List Event
  output : String := ""
  error : Option String := none

variable {m : Type → Type} [Monad m] [Host m]

/-- Reads the input as a text. Nothing is read if it is not a file of UTF-8. -/
def readInput (input : String) : m (Option String) := do
  if input = "-" then return String.fromUTF8? (← Host.standardInput)
  else
    match ← Files.FileSystem.readFile (m := m) (Files.Path.ofText input) with
    | .error _ => return none
    | .ok content => return String.fromUTF8? content

/-- The message for an input that cannot be read, without what the system says about the cause. -/
def unreadable (input : String) : String :=
  "Failed to read input file '" ++ (if input = "-" then "<stdin>" else input) ++ "'"

def generateFor (arguments : Arguments) (input : String) (color : Bool) (endpoint : Endpoint) :
    m Outcome := do
  let options := arguments.options
  let directory := arguments.directory input
  let loaded := Event.loaded endpoint.name endpoint.method endpoint.parameters.length
  match endpoint.prepare options (arguments.stem input endpoint) with
  | .error fault => return { events := [loaded], error := some fault.message }
  | .ok (artifacts, files) =>
    let events := loaded :: generationEvents options endpoint artifacts
    if arguments.dryRun then return { events, output := printed color files }
    else
      let (paths, outcome) ← Files.writeFiles (m := m) directory files
      let written := events ++ paths.map fun path => .wrote path.text
      match outcome with
      | .error fault => return { events := written, error := some fault.message }
      | .ok () => return { events := written ++ [.complete directory.text] }

def perform (arguments : Arguments) (input : String) (color : Bool) : m Outcome := do
  match ← readInput (m := m) input with
  | none => return { events := [], error := some (unreadable input) }
  | some text =>
    match Endpoint.parse text with
    | .error fault => return { events := [], error := some fault.message }
    | .ok endpoint => generateFor arguments input color endpoint

def run (surroundings : Surroundings) (words : List String) : m Report := do
  match Arguments.parse words with
  | .error halt => return halt.report (surroundings.refusal words)
  | .ok (arguments, input) =>
    let outcome ← perform (m := m) arguments input surroundings.color
    let shown := match Filter.select surroundings.log arguments.verbosity with
      | none => []
      | some filter => outcome.events.filter filter.shows
    return {
      status := if outcome.error.isSome then 1 else 0
      output := outcome.output
      log := shown.map Event.entry
      error := outcome.error.map ("Error: " ++ ·) }

def runOn (surroundings : Surroundings) (words : List String) (input : ByteArray)
    (volume : Files.Volume) : Report × Files.Volume :=
  ((run surroundings words : ReaderT ByteArray (StateM Files.Volume) Report).run input).run volume

end Command

end RestGraph
