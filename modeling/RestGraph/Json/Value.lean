import RestGraph.Decimal
import RestGraph.Text.Quoted
/-!
JSON values, and the faults of a JSON text or of the data in it. An object keeps its members in the
order in which their keys first occurred, and a key that is given again changes the value in place.
-/

set_option autoImplicit false

namespace RestGraph.Json

/-- A number: an integer that fits 64 bits with or without a sign, or the bits of a double. -/
inductive Number where
  | int (value : Int)
  | float (bits : UInt64)
  deriving DecidableEq

inductive Value where
  | null
  | bool (value : Bool)
  | num (value : Number)
  | str (text : String)
  | arr (items : List Value)
  | obj (members : List (String × Value))

abbrev Members := List (String × Value)

/-- Sets a key: its first place is kept, its value is the last one. -/
def Members.put : Members → String → Value → Members
  | [], key, value => [(key, value)]
  | (k, v) :: rest, key, value =>
    if k = key then (k, value) :: rest else (k, v) :: Members.put rest key value

/-- The members that a sequence of settings leaves. -/
def Members.ofPairs (pairs : List (String × Value)) : Members :=
  pairs.foldl (fun members pair => members.put pair.1 pair.2) []

def Members.keys (members : Members) : List String :=
  members.map Prod.fst

inductive Part where
  | value
  | list
  | object
  | string
  deriving DecidableEq

inductive Found where
  | null
  | bool (value : Bool)
  | num (value : Number)
  | str (text : String)
  | sequence
  | map
  deriving DecidableEq

inductive Wanted where
  | string
  | sequence
  | map
  | descriptor
  | unit
  | variantName
  deriving DecidableEq

inductive Error where
  | unfinished (part : Part)
  | expectedValue
  | expectedWord
  | expectedColon
  | expectedCommaOrBracket
  | expectedCommaOrBrace
  | keyNotString
  | trailingComma
  | trailingText
  | badNumber
  | numberTooLarge
  | badEscape
  | loneSurrogate
  | unpairedSurrogate
  | controlCharacter
  | tooDeep
  | missingField (field : String)
  | duplicateField (field : String)
  | wrongType (found : Found) (wanted : Wanted)
  | tooFewElements (index : Nat)
  | tooManyElements (count : Nat)
  | unknownVariant (name : String)
  deriving DecidableEq

/-- The three families of faults. -/
inductive Category where
  | unfinished
  | grammar
  | data
  deriving DecidableEq

def Category.name : Category → String
  | .unfinished => "eof"
  | .grammar => "syntax"
  | .data => "data"

def Value.found : Value → Found
  | .null => .null
  | .bool value => .bool value
  | .num value => .num value
  | .str text => .str text
  | .arr _ => .sequence
  | .obj _ => .map

def Part.describe : Part → String
  | .value => "a value"
  | .list => "a list"
  | .object => "an object"
  | .string => "a string"

def Found.describe : Found → String
  | .null => "null"
  | .bool value => "boolean \x60" ++ (if value then "true" else "false") ++ "\x60"
  | .num (.int value) => "integer \x60" ++ toString value ++ "\x60"
  | .num (.float bits) => "floating point \x60" ++ Decimal.text bits ++ "\x60"
  | .str text => "string " ++ Text.quoted text
  | .sequence => "sequence"
  | .map => "map"

def Wanted.describe : Wanted → String
  | .string => "a string"
  | .sequence => "a sequence"
  | .map => "a map"
  | .descriptor => "struct RawApiDescriptor"
  | .unit => "unit"
  | .variantName => "variant identifier"

namespace Error

def category : Error → Category
  | unfinished _ => .unfinished
  | missingField _ | duplicateField _ | wrongType _ _ | tooFewElements _ | tooManyElements _
  | unknownVariant _ => .data
  | _ => .grammar

/-- The wording of a fault, without the line and the column where it was found. -/
def message : Error → String
  | unfinished part => "EOF while parsing " ++ part.describe
  | expectedValue => "expected value"
  | expectedWord => "expected ident"
  | expectedColon => "expected \x60:\x60"
  | expectedCommaOrBracket => "expected \x60,\x60 or \x60]\x60"
  | expectedCommaOrBrace => "expected \x60,\x60 or \x60\x7d\x60"
  | keyNotString => "key must be a string"
  | trailingComma => "trailing comma"
  | trailingText => "trailing characters"
  | badNumber => "invalid number"
  | numberTooLarge => "number out of range"
  | badEscape => "invalid escape"
  | loneSurrogate => "lone leading surrogate in hex escape"
  | unpairedSurrogate => "unexpected end of hex escape"
  | controlCharacter =>
    "control character (\x5cu0000-\x5cu001F) found while parsing a string"
  | tooDeep => "recursion limit exceeded"
  | missingField field => "missing field \x60" ++ field ++ "\x60"
  | duplicateField field => "duplicate field \x60" ++ field ++ "\x60"
  | wrongType found wanted =>
    "invalid type: " ++ found.describe ++ ", expected " ++ wanted.describe
  | tooFewElements index =>
    "invalid length " ++ toString index ++ ", expected " ++ Wanted.descriptor.describe ++
      " with 4 elements"
  | tooManyElements count =>
    "invalid length " ++ toString count ++ ", expected fewer elements in array"
  | unknownVariant name =>
    "unknown variant \x60" ++ name ++
      "\x60, expected one of \x60string\x60, \x60number\x60, \x60boolean\x60"

end Error

end RestGraph.Json
