import RestGraph.Scalar
/-!
Endpoint parameters and their written form `name (type, flag)`. The type may be any tag, the flag
is `required` or anything else, and the closing parenthesis may be missing.
-/

set_option autoImplicit false

namespace RestGraph

/-- The two parts of a text around the first occurrence of a character. -/
def cutAt (mark : Char) : List Char → Option (List Char × List Char)
  | [] => none
  | c :: rest =>
    if c = mark then some ([], rest)
    else (cutAt mark rest).map fun parts => (c :: parts.1, parts.2)

structure Parameter where
  name : String
  kind : Scalar
  required : Bool
  deriving DecidableEq

namespace Parameter

inductive Fault where
  | missingOpen
  | emptyName
  | blankInName
  | missingComma
  deriving DecidableEq

def Fault.reason : Fault → String
  | .missingOpen => "missing '(' before the parameter type"
  | .emptyName => "missing parameter name before '('"
  | .blankInName => "parameter name must not contain whitespace"
  | .missingComma => "missing ',' between the type and the required/optional flag"

def dropClose (cs : List Char) : List Char :=
  if cs.getLast? = some ')' then cs.dropLast else cs

def isRequiredFlag (flag : List Char) : Bool :=
  Text.sameLetters (Text.trimChars (dropClose (Text.trimChars flag))) "required".toList

def parse (input : String) : Except Fault Parameter :=
  match cutAt '(' input.toList with
  | none => .error .missingOpen
  | some (before, rest) =>
    let name := Text.trimChars before
    if name.isEmpty then .error .emptyName
    else if name.any Text.isBlank then .error .blankInName
    else
      match cutAt ',' rest with
      | none => .error .missingComma
      | some (tag, flag) =>
        .ok ⟨String.ofList name, Scalar.ofTag (String.ofList tag), isRequiredFlag flag⟩

def flag (parameter : Parameter) : String :=
  if parameter.required then "required" else "optional"

def written (parameter : Parameter) : String :=
  parameter.name ++ " (" ++ parameter.kind.name ++ ", " ++ parameter.flag ++ ")"

end Parameter

end RestGraph
