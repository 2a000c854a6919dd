import RestGraph.Document
import RestGraph.Endpoint.Basic
import RestGraph.Shape.Places
/-!
TypeScript classes with the decorators of a GraphQL schema: one class for the arguments of an
endpoint, and one for each record of its response.
-/

set_option autoImplicit false

namespace RestGraph

inductive PropertyType where
  | scalar (kind : Scalar)
  | scalars (kind : Scalar)
  | object (typeName : String)
  | objects (typeName : String)
  deriving DecidableEq

def PropertyType.typescript : PropertyType → String
  | .scalar kind => kind.typescriptType
  | .scalars kind => kind.typescriptType ++ "[]"
  | .object typeName => typeName
  | .objects typeName => typeName ++ "[]"

/-- The type that the decorator has to name. That of a single scalar is inferred. -/
def PropertyType.decorated? : PropertyType → Option String
  | .scalar _ => none
  | .scalars kind => some ("[" ++ kind.graphqlType ++ "]")
  | .object typeName => some typeName
  | .objects typeName => some ("[" ++ typeName ++ "]")

structure Property where
  name : String
  required : Bool
  type : PropertyType
  deriving DecidableEq

namespace Property

def decorator (property : Property) : String :=
  let reference := property.type.decorated?.map fun type => "() => " ++ type
  let setting := if property.required then none else some "\x7b nullable: true \x7d"
  "@Field(" ++ String.intercalate ", " (reference.toList ++ setting.toList) ++ ")"

def declaration (property : Property) : String :=
  property.name ++ (if property.required then "!: " else "?: ") ++ property.type.typescript ++ ";"

def document (property : Property) : Document :=
  .line property.decorator (.line property.declaration .nil)

end Property

inductive ClassRole where
  | arguments
  | object
  deriving DecidableEq

def ClassRole.decorator : ClassRole → String
  | .arguments => "@ArgsType()"
  | .object => "@ObjectType()"

structure Declaration where
  role : ClassRole
  name : String
  properties : List Property
  deriving DecidableEq

namespace Declaration

def parameterProperty (parameter : Parameter) : Property :=
  ⟨parameter.name, parameter.required, .scalar parameter.kind⟩

/-- The property for a field of a class. No field of a response is required. -/
def fieldProperty (typeName : String) (field : Field) : Property where
  name := field.name
  required := false
  type :=
    match field.value with
    | .scalar kind => .scalar kind
    | .scalars kind => .scalars kind
    | .record _ => .object (Naming.recordType typeName field.name)
    | .records _ => .objects (Naming.itemType typeName field.name)

def ofParameters (name : String) (parameters : List Parameter) : Declaration :=
  ⟨.arguments, name, parameters.map parameterProperty⟩

def ofPlace (place : RecordPlace) : Declaration :=
  ⟨.object, place.typeName, place.fields.toList.map (fieldProperty place.typeName)⟩

/-- The classes of an endpoint: the arguments first, then every record after those it refers to. -/
def ofEndpoint (endpoint : Endpoint) : List Declaration :=
  ofParameters (Naming.paramsType endpoint.name) endpoint.parameters ::
    (endpoint.response.recordPlaces (Naming.responseType endpoint.name)).map ofPlace

def document (declaration : Declaration) : Document :=
  .line declaration.role.decorator <|
    .block ("export class " ++ declaration.name)
      (.separated (declaration.properties.map Property.document)) .nil

def documentOf (declarations : List Declaration) : Document :=
  declarations.foldl (fun document declaration => document.pushSection declaration.document) .nil

end Declaration

end RestGraph
