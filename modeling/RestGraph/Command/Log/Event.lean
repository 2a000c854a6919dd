import RestGraph.Options
/-!
The events of a run. Every event has a level, a target and fields, and is one entry of the log.
-/

set_option autoImplicit false

namespace RestGraph.Command

inductive Level where
  | error
  | warn
  | info
  | debug
  | trace
  deriving DecidableEq

namespace Level

def all : List Level :=
  [.error, .warn, .info, .debug, .trace]

def name : Level → String
  | .error => "error"
  | .warn => "warn"
  | .info => "info"
  | .debug => "debug"
  | .trace => "trace"

def number : Level → Nat
  | .error => 1
  | .warn => 2
  | .info => 3
  | .debug => 4
  | .trace => 5

def label : Level → String
  | .error => "ERROR"
  | .warn => "WARN"
  | .info => "INFO"
  | .debug => "DEBUG"
  | .trace => "TRACE"

end Level

inductive Event where
  | loaded (api method : String) (parameters : Nat)
  | buildingQuery (api : String) (operation : Operation) (parameters fragments : Nat)
  | buildingTypes (api : String) (types : Nat)
  | generated (api : String) (queryBytes typeDefsBytes resolverBytes : Nat)
  | wrote (path : String)
  | complete (directory : String)
  deriving DecidableEq

namespace Event

def level : Event → Level
  | loaded .. | wrote .. | complete .. => .info
  | buildingQuery .. | buildingTypes .. | generated .. => .debug

def target : Event → String
  | loaded .. | complete .. => "api2gql"
  | buildingQuery .. => "api2gql_gen::codegen::query"
  | buildingTypes .. => "api2gql_gen::codegen::type_defs"
  | generated .. | wrote .. => "api2gql_gen::output"

def message : Event → String
  | loaded .. => "loaded descriptor"
  | buildingQuery .. => "building query document"
  | buildingTypes .. => "building type declarations"
  | generated .. => "generated artifacts"
  | wrote .. => "wrote artifact"
  | complete .. => "generation complete"

def fields : Event → List (String × String)
  | loaded api method parameters =>
    [("api", api), ("method", method), ("parameters", toString parameters)]
  | buildingQuery api operation parameters fragments =>
    [("api", api), ("operation", operation.keyword), ("parameters", toString parameters),
      ("fragments", toString fragments)]
  | buildingTypes api types => [("api", api), ("types", toString types)]
  | generated api queryBytes typeDefsBytes resolverBytes =>
    [("api", api), ("query_bytes", toString queryBytes),
      ("type_defs_bytes", toString typeDefsBytes), ("resolver_bytes", toString resolverBytes)]
  | wrote path => [("path", path)]
  | complete directory => [("dir", directory)]

/-- An event has a field of the given name. Its wording is a field too. -/
def hasField (event : Event) (name : String) : Bool :=
  name == "message" || event.fields.any fun field => field.1 == name

def entry (event : Event) : String :=
  event.level.label ++ " " ++ event.target ++ ": " ++ event.message ++
    String.join (event.fields.map fun (name, value) => " " ++ name ++ "=" ++ value)

end Event

end RestGraph.Command
