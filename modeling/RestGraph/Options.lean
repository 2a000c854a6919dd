import RestGraph.Endpoint.Basic
import RestGraph.Text.Quoted
/-!
The settings of a generation, and the checks that they have to pass.
-/

set_option autoImplicit false

namespace RestGraph

inductive Operation where
  | query
  | mutation
  deriving DecidableEq

def Operation.keyword : Operation → String
  | .query => "query"
  | .mutation => "mutation"

def Operation.decorator : Operation → String
  | .query => "Query"
  | .mutation => "Mutation"

structure Options where
  indent : String := "  "
  operationFromMethod : Bool := false
  detectCollisions : Bool := true
  requestModule : String := "../../utils/request"
  contextModule : String := "overlord-server"
  deriving DecidableEq

namespace Options

/-- The widest unit of indentation, in bytes. -/
def maxIndentWidth : Nat := 16

inductive Fault where
  | emptyIndent
  | wideIndent (width : Nat)
  | visibleIndent (indent : String)
  | emptyModule
  | emptyStem
  deriving DecidableEq

def Fault.message : Fault → String
  | .emptyIndent => "Invalid configuration: indent must not be empty"
  | .wideIndent width =>
    "Invalid configuration: indent must be at most " ++ toString maxIndentWidth ++
      " characters, got " ++ toString width
  | .visibleIndent indent =>
    "Invalid configuration: indent must consist of spaces or tabs, got " ++ Text.quoted indent
  | .emptyModule => "Invalid configuration: import module paths must not be empty"
  | .emptyStem => "Invalid configuration: output file stem must not be empty"

def withIndentSpaces (options : Options) (spaces : Nat) : Options :=
  { options with indent := String.ofList (List.replicate spaces ' ') }

def check (options : Options) : Except Fault Unit :=
  if options.indent.isEmpty then .error .emptyIndent
  else if maxIndentWidth < options.indent.utf8ByteSize then
    .error (.wideIndent options.indent.utf8ByteSize)
  else if !options.indent.toList.all (fun c => c == ' ' || c == '\t') then
    .error (.visibleIndent options.indent)
  else if Text.isBlankText options.requestModule || Text.isBlankText options.contextModule then
    .error .emptyModule
  else .ok ()

/-- The operation for an endpoint. If it follows the method, whatever does not only read is a
mutation, verbs that are not standard included. -/
def operation (options : Options) (endpoint : Endpoint) : Operation :=
  if options.operationFromMethod then
    match endpoint.verb? with
    | some verb => if verb.isReadOnly then .query else .mutation
    | none => .mutation
  else .query

end Options

end RestGraph
