import RestGraph.Endpoint.Basic
import RestGraph.Shape.Places
/-!
Collisions of generated names. Fragments are named after one field and classes after a whole path
without separators, so two places of a response can get the same name.
-/

set_option autoImplicit false

namespace RestGraph

inductive NameKind where
  | fragment
  | type
  deriving DecidableEq

def NameKind.describe : NameKind → String
  | .fragment => "fragment"
  | .type => "type"

structure Collision where
  kind : NameKind
  name : String
  first : String
  second : String
  deriving DecidableEq

def Collision.message (collision : Collision) : String :=
  "Naming collision: " ++ collision.kind.describe ++ " '" ++ collision.name ++
    "' is generated for both '" ++ collision.first ++ "' and '" ++ collision.second ++
    "'. Suggestion: rename one of the fields"

abbrev NamedPlace := String × String

/-- The first place whose name was given before, with the place that had it. The places in `seen`
have distinct names. -/
def firstRepeat (seen : List NamedPlace) : List NamedPlace → Option (NamedPlace × NamedPlace)
  | [] => none
  | place :: rest =>
    match seen.find? fun earlier => earlier.1 == place.1 with
    | some earlier => some (earlier, place)
    | none => firstRepeat (place :: seen) rest

def Collision.among (kind : NameKind) (places : List NamedPlace) : Option Collision :=
  (firstRepeat [] places).map fun found => ⟨kind, found.1.1, found.1.2, found.2.2⟩

namespace Endpoint

def fragmentPlaces (endpoint : Endpoint) : List NamedPlace :=
  (endpoint.response.listPlaces (Naming.responseType endpoint.name)).map fun place =>
    (Naming.fragment place.name, place.path)

/-- The classes of an endpoint. The arguments and the response itself have no path of fields and
are called by labels. -/
def typePlaces (endpoint : Endpoint) : List NamedPlace :=
  (Naming.paramsType endpoint.name, "<parameters>") ::
    (endpoint.response.recordPlaces (Naming.responseType endpoint.name)).map fun place =>
      (place.typeName, if place.path.isEmpty then "<response>" else place.path)

/-- The first collision of an endpoint. Fragments are examined before classes. -/
def collision? (endpoint : Endpoint) : Option Collision :=
  match Collision.among .fragment endpoint.fragmentPlaces with
  | some collision => some collision
  | none => Collision.among .type endpoint.typePlaces

end Endpoint

end RestGraph
