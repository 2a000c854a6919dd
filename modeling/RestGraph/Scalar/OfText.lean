import RestGraph.Json.Reader
import RestGraph.Scalar
/-!
Scalar types in JSON texts: a string with the name, or an object whose one key is the name and
whose value is null.
-/

set_option autoImplicit false

namespace RestGraph.Scalar

def ofExactName (word : String) : Except Json.Error Scalar :=
  match all.find? fun kind => kind.name == word with
  | some kind => .ok kind
  | none => .error (.unknownVariant word)

def readNull (text : List Char) : Except Json.Error (List Char) :=
  match Json.skipGap text with
  | [] => .error (.unfinished .value)
  | c :: rest => do
    if c = 'n' then
      let taken ← Json.word () ['u', 'l', 'l'] rest
      return taken.rest
    else .error (Json.mismatch .unit (c :: rest))

def readTagged (text : List Char) : Except Json.Error (Scalar × List Char) := do
  let name ← Json.opening '\x22' .variantName Json.string text
  let kind ← ofExactName name.value
  let mark ← Json.colon name.rest
  let after ← readNull mark.rest
  match Json.skipGap after with
  | [] => .error (.unfinished .object)
  | c :: rest => if c = '\x7d' then return (kind, rest) else .error .expectedValue

def parse (text : String) : Except Json.Error Scalar :=
  match Json.skipGap text.toList with
  | [] => .error (.unfinished .value)
  | c :: rest => do
    if c = '\x22' then
      let name ← Json.string rest
      let kind ← ofExactName name.value
      Json.endOfText name.rest
      return kind
    else if c = '\x7b' then
      let (kind, after) ← readTagged rest
      Json.endOfText after
      return kind
    else .error .expectedValue

def written (kind : Scalar) : String :=
  "\x22" ++ kind.name ++ "\x22"

end RestGraph.Scalar
