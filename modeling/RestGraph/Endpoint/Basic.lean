import RestGraph.Json.Value
import RestGraph.Parameter
import RestGraph.Shape.Basic
import RestGraph.Text.Characters
/-!
Endpoints. A draft holds what a descriptor document says, an endpoint what it means: a name without
white space around it, parameters that were understood, and the shape of the response. The method is
kept as free text; its verb matters only where reading has to be told from writing. Each field of a
document has a key in capitals and one in small letters, and only the parameters may be left out.
-/

set_option autoImplicit false

namespace RestGraph

inductive Verb where
  | get
  | post
  | put
  | patch
  | delete
  | head
  | options
  deriving DecidableEq

namespace Verb

def all : List Verb :=
  [.get, .post, .put, .patch, .delete, .head, .options]

def name : Verb → String
  | .get => "GET"
  | .post => "POST"
  | .put => "PUT"
  | .patch => "PATCH"
  | .delete => "DELETE"
  | .head => "HEAD"
  | .options => "OPTIONS"

def ofName? (word : String) : Option Verb :=
  all.find? fun verb => Text.sameWord verb.name word

/-- The verb that a method text stands for, white space around it ignored. -/
def ofMethod? (method : String) : Option Verb :=
  ofName? (Text.trim method)

def isReadOnly (verb : Verb) : Bool :=
  verb == .get || verb == .head

end Verb

structure Endpoint where
  name : String
  method : String
  parameters : List Parameter
  response : Shape
  deriving DecidableEq

/-- The four fields of a descriptor document as they are written. -/
structure Draft where
  name : String
  method : String
  parameters : List String
  response : Json.Members

namespace Endpoint

inductive Fault where
  | json (fault : Json.Error)
  | emptyName
  | parameter (input : String) (fault : Parameter.Fault)
  | response (fault : Shape.Fault)
  deriving DecidableEq

def Fault.message : Fault → String
  | .json fault => "Failed to parse API descriptor: " ++ fault.message
  | .emptyName => "API name must not be empty"
  | .parameter input fault => "Malformed parameter '" ++ input ++ "': " ++ fault.reason
  | .response (.emptyArray path) =>
    "Array field '" ++ path ++ "' is empty: the element type is inferred from the first element, " ++
      "so at least one example element is required"
  | .response (.unsupported path value) =>
    "Unsupported value at '" ++ path ++ "': " ++ value.describe

def verb? (endpoint : Endpoint) : Option Verb :=
  Verb.ofMethod? endpoint.method

def parseParameters : List String → Except Fault (List Parameter)
  | [] => .ok []
  | input :: rest =>
    match Parameter.parse input with
    | .error fault => .error (.parameter input fault)
    | .ok parameter => do
      let others ← parseParameters rest
      return parameter :: others

/-- The endpoint that a draft describes. -/
def ofDraft (draft : Draft) : Except Fault Endpoint := do
  let name := Text.trim draft.name
  if name.isEmpty then .error .emptyName
  else
    let parameters ← parseParameters draft.parameters
    match Shape.ofMembers draft.response with
    | .error fault => .error (.response fault)
    | .ok response => return ⟨name, draft.method, parameters, response⟩

end Endpoint

namespace Draft

inductive FieldName where
  | name
  | method
  | parameters
  | response
  deriving DecidableEq

def FieldName.label : FieldName → String
  | .name => "API_NAME"
  | .method => "METHOD"
  | .parameters => "PARAMETERS"
  | .response => "RESPONSE"

def FieldName.smallLabel : FieldName → String
  | .name => "name"
  | .method => "method"
  | .parameters => "parameters"
  | .response => "response"

/-- The field of a key. Other keys belong to no field. -/
def FieldName.ofKey? (key : String) : Option FieldName :=
  [FieldName.name, .method, .parameters, .response].find? fun field =>
    field.label == key || field.smallLabel == key

structure Gathered where
  name : Option String := none
  method : Option String := none
  parameters : Option (List String) := none
  response : Option Json.Members := none

namespace Gathered

def has (fields : Gathered) : FieldName → Bool
  | .name => fields.name.isSome
  | .method => fields.method.isSome
  | .parameters => fields.parameters.isSome
  | .response => fields.response.isSome

def fresh (fields : Gathered) (field : FieldName) : Except Json.Error Unit :=
  if fields.has field then .error (.duplicateField field.label) else .ok ()

def require {α : Type} (field : FieldName) : Option α → Except Json.Error α
  | some value => .ok value
  | none => .error (.missingField field.label)

def finish (fields : Gathered) : Except Json.Error Draft := do
  let name ← require .name fields.name
  let method ← require .method fields.method
  let response ← require .response fields.response
  return ⟨name, method, fields.parameters.getD [], response⟩

end Gathered

end Draft

end RestGraph
