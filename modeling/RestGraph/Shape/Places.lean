import RestGraph.Shape.Basic
import RestGraph.Text.Casing
/-!
Names, and the places of a response that are given one. Every list of records has a fragment, and
every record has a class. Both are found with the name of their class and with their path, the names
of the fields on the way to them.
-/

set_option autoImplicit false

namespace RestGraph

namespace Naming

/-- The operation and its root field: the endpoint's name in small letters. -/
def operation (endpoint : String) : String :=
  Text.lower endpoint

def responseType (endpoint : String) : String :=
  "Res" ++ endpoint

def recordType (parent field : String) : String :=
  parent ++ field

def itemType (parent field : String) : String :=
  parent ++ field ++ "Item"

/-- The fragment for a list of records. Only the name of the field takes part. -/
def fragment (field : String) : String :=
  field ++ "Data"

def paramsType (endpoint : String) : String :=
  endpoint ++ "Params"

def resolverType (endpoint : String) : String :=
  endpoint ++ "Resolver"

def queryFile (stem : String) : String :=
  stem ++ ".gql"

end Naming

structure ListPlace where
  name : String
  parent : String
  path : String
  typeName : String
  element : Shape
  deriving DecidableEq

structure RecordPlace where
  typeName : String
  path : String
  fields : Shape
  deriving DecidableEq

namespace Shape

/-- The lists of records in the record of a class, each before those inside it. The record belongs
to the field `parent` and has the given path. -/
def listsWithin (typeName parent path : String) : Shape → List ListPlace
  | .nil => []
  | .scalar _ _ rest => rest.listsWithin typeName parent path
  | .scalars _ _ rest => rest.listsWithin typeName parent path
  | .record name fields rest =>
    fields.listsWithin (Naming.recordType typeName name) name (fieldPath path name) ++
      rest.listsWithin typeName parent path
  | .records name element rest =>
    let item := Naming.itemType typeName name
    ⟨name, parent, fieldPath path name, item, element⟩ ::
      (element.listsWithin item name (fieldPath path name) ++
        rest.listsWithin typeName parent path)

def listPlaces (root : String) (shape : Shape) : List ListPlace :=
  shape.listsWithin root "" ""

/-- The records inside the record of a class, each after those inside it. -/
def recordsWithin (typeName path : String) : Shape → List RecordPlace
  | .nil => []
  | .scalar _ _ rest => rest.recordsWithin typeName path
  | .scalars _ _ rest => rest.recordsWithin typeName path
  | .record name fields rest =>
    let nested := Naming.recordType typeName name
    fields.recordsWithin nested (fieldPath path name) ++
      ⟨nested, fieldPath path name, fields⟩ :: rest.recordsWithin typeName path
  | .records name element rest =>
    let item := Naming.itemType typeName name
    element.recordsWithin item (fieldPath path name) ++
      ⟨item, fieldPath path name, element⟩ :: rest.recordsWithin typeName path

def recordPlaces (root : String) (shape : Shape) : List RecordPlace :=
  shape.recordsWithin root "" ++ [⟨root, "", shape⟩]

end Shape

end RestGraph
