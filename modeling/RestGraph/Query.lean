import RestGraph.Document
import RestGraph.Options
import RestGraph.Shape.Places
/-!
GraphQL documents: one operation that selects the whole response, and one fragment for each list of
records in it.
-/

set_option autoImplicit false

namespace RestGraph

inductive Selection where
  | nil
  | field (name : String) (rest : Selection)
  | nested (name : String) (body : Selection) (rest : Selection)
  | spread (fragment : String) (rest : Selection)
  deriving DecidableEq

namespace Selection

def ofNames (names : List String) : Selection :=
  names.foldr field nil

def spreadOf (name : String) : Selection :=
  spread (Naming.fragment name) nil

/-- The selection of a record: nested records in full, lists of records by their fragments. -/
def ofShape : Shape → Selection
  | .nil => nil
  | .scalar name _ rest => field name (ofShape rest)
  | .scalars name _ rest => field name (ofShape rest)
  | .record name fields rest => nested name (ofShape fields) (ofShape rest)
  | .records name _ rest => nested name (spreadOf name) (ofShape rest)

/-- The selection of the elements of a list. Of a record inside an element only the names of its
own fields are selected. -/
def ofElement : Shape → Selection
  | .nil => nil
  | .scalar name _ rest => field name (ofElement rest)
  | .scalars name _ rest => field name (ofElement rest)
  | .record name fields rest => nested name (ofNames fields.names) (ofElement rest)
  | .records name _ rest => nested name (spreadOf name) (ofElement rest)

def document : Selection → Document
  | nil => .nil
  | field name rest => .line name rest.document
  | nested name body rest => .block name body.document rest.document
  | spread fragment rest => .line ("..." ++ fragment) rest.document

end Selection

structure Fragment where
  name : String
  typeName : String
  selection : Selection
  deriving DecidableEq

namespace Fragment

def ofPlace (place : ListPlace) : Fragment :=
  ⟨Naming.fragment place.name, place.typeName, Selection.ofElement place.element⟩

def document (fragment : Fragment) : Document :=
  .block ("fragment " ++ fragment.name ++ " on " ++ fragment.typeName) fragment.selection.document
    .nil

end Fragment

def Parameter.variable (parameter : Parameter) : String :=
  "$" ++ parameter.name ++ ": " ++ parameter.kind.graphqlType ++
    (if parameter.required then "!" else "")

def Parameter.binding (parameter : Parameter) : String :=
  parameter.name ++ ": $" ++ parameter.name

/-- A GraphQL document for one endpoint. The operation and its root field have one name. -/
structure Query where
  operation : Operation
  name : String
  parameters : List Parameter
  selection : Selection
  fragments : List Fragment
  deriving DecidableEq

namespace Query

def ofEndpoint (options : Options) (endpoint : Endpoint) : Query where
  operation := options.operation endpoint
  name := Naming.operation endpoint.name
  parameters := endpoint.parameters
  selection := .ofShape endpoint.response
  fragments :=
    (endpoint.response.listPlaces (Naming.responseType endpoint.name)).map Fragment.ofPlace

/-- The layout of the operation. Without parameters neither the operation nor its root field has
parentheses. -/
def operationDocument (query : Query) : Document :=
  let header := query.operation.keyword ++ " " ++ query.name
  let selection := query.selection.document
  if query.parameters.isEmpty then .block header (.block query.name selection .nil) .nil
  else
    .line (header ++ "(") <|
      .indent (.commaSeparated (query.parameters.map Parameter.variable)) <|
        .block ")"
          (.line (query.name ++ "(") <|
            .indent (.commaSeparated (query.parameters.map Parameter.binding)) <|
              .block ")" selection .nil)
          .nil

def document (query : Query) : Document :=
  query.fragments.foldl (fun document fragment => document.pushSection fragment.document)
    (Document.nil.pushSection query.operationDocument)

end Query

end RestGraph
