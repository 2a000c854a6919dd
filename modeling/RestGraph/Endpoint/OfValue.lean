import RestGraph.Endpoint.Basic
import RestGraph.Json.Reader
/-!
Descriptors that are given as JSON values: an object with the four fields, or an array of the four
in their order.
-/

set_option autoImplicit false

namespace RestGraph

namespace Draft

def stringOf : Json.Value → Except Json.Error String
  | .str text => .ok text
  | other => .error (.wrongType other.found .string)

def stringsOf : Json.Value → Except Json.Error (List String)
  | .arr items => items.mapM stringOf
  | other => .error (.wrongType other.found .sequence)

def membersOf : Json.Value → Except Json.Error Json.Members
  | .obj members => .ok members
  | other => .error (.wrongType other.found .map)

def Gathered.read (fields : Gathered) (member : String × Json.Value) : Except Json.Error Gathered :=
  match FieldName.ofKey? member.1 with
  | none => .ok fields
  | some field => do
    fields.fresh field
    match field with
    | .name => return { fields with name := some (← stringOf member.2) }
    | .method => return { fields with method := some (← stringOf member.2) }
    | .parameters => return { fields with parameters := some (← stringsOf member.2) }
    | .response => return { fields with response := some (← membersOf member.2) }

def ofValue : Json.Value → Except Json.Error Draft
  | .obj members => do
    let fields ← members.foldlM Gathered.read {}
    fields.finish
  | .arr [] => .error (.tooFewElements 0)
  | .arr [name] => do
    let _ ← stringOf name
    .error (.tooFewElements 1)
  | .arr [name, method] => do
    let _ ← stringOf name
    let _ ← stringOf method
    .error (.tooFewElements 3)
  | .arr [name, method, parameters] => do
    let _ ← stringOf name
    let _ ← stringOf method
    let _ ← stringsOf parameters
    .error (.tooFewElements 3)
  | .arr (name :: method :: parameters :: response :: more) => do
    let draft : Draft :=
      ⟨← stringOf name, ← stringOf method, ← stringsOf parameters, ← membersOf response⟩
    if more.isEmpty then return draft else .error (.tooManyElements (more.length + 4))
  | other => .error (.wrongType other.found .descriptor)

end Draft

/-- The endpoint that a JSON value describes. -/
def Endpoint.ofValue (value : Json.Value) : Except Endpoint.Fault Endpoint :=
  match Draft.ofValue value with
  | .error fault => .error (.json fault)
  | .ok draft => ofDraft draft

end RestGraph
