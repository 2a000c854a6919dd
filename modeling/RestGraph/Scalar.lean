import RestGraph.Text.Characters
/-!
The scalar types that a field or a parameter can have, with their spellings in descriptors, in
GraphQL and in TypeScript.
-/

set_option autoImplicit false

namespace RestGraph

inductive Scalar where
  | string
  | number
  | boolean
  deriving DecidableEq

namespace Scalar

def all : List Scalar :=
  [.string, .number, .boolean]

def name : Scalar → String
  | .string => "string"
  | .number => "number"
  | .boolean => "boolean"

/-- The scalar type of a name, in any mixture of capitals and small letters. -/
def ofName? (word : String) : Option Scalar :=
  all.find? fun kind => Text.sameWord kind.name word

/-- The scalar type that a tag asks for. White space around the tag is ignored, and a tag that
names no scalar type means a string. -/
def ofTag (tag : String) : Scalar :=
  (ofName? (Text.trim tag)).getD .string

def graphqlType : Scalar → String
  | .string => "String"
  | .number => "Float"
  | .boolean => "Boolean"

def typescriptType : Scalar → String
  | .string => "string"
  | .number => "number"
  | .boolean => "boolean"

end Scalar

end RestGraph
