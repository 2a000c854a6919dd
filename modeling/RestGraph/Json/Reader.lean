import RestGraph.Json.Numeral
import RestGraph.Json.Text
/-!
The strict reader of JSON texts. Arrays and objects may be nested to a limited depth; the depth
that is left is the measure of the nesting, and the rest of the text that of every loop.
-/

set_option autoImplicit false

namespace RestGraph.Json

/-- How deep arrays and objects of a text may be nested. -/
def depthLimit : Nat := 127

def scalar : Reader Value
  | [] => .error (.unfinished .value)
  | c :: rest => do
    if c = 'n' then
      let taken ← word Value.null ['u', 'l', 'l'] rest
      return taken.after c
    else if c = 't' then
      let taken ← word (Value.bool true) ['r', 'u', 'e'] rest
      return taken.after c
    else if c = 'f' then
      let taken ← word (Value.bool false) ['a', 'l', 's', 'e'] rest
      return taken.after c
    else if c = '\x22' then
      let taken ← string rest
      return (taken.map Value.str).after c
    else if c = '-' ∨ c.isDigit then
      let taken ← number (c :: rest)
      return taken.map Value.num
    else .error .expectedValue

/-- Reads the elements of an array that has at least one more, up to and with its bracket. -/
def elements {α : Type} (element : Reader α) (text : List Char) :
    Except Error (Taken (List α) text) := do
  let first ← element text
  match h : skipGap first.rest with
  | [] => .error (.unfinished .list)
  | c :: rest =>
    have shorter : rest.length < text.length :=
      Nat.lt_trans (length_lt_of_skipGap h) first.shorter
    if c = ']' then return ⟨[first.value], rest, shorter⟩
    else if c = ',' then
      match skipGap rest with
      | [] => .error (.unfinished .value)
      | next :: _ =>
        if next = ']' then .error .trailingComma
        else
          let more ← elements element rest
          return (more.map (first.value :: ·)).lengthen text (Nat.le_of_lt shorter)
    else .error .expectedCommaOrBracket
termination_by text.length

def items {α : Type} (element : Reader α) (text : List Char) :
    Except Error (Taken (List α) text) :=
  match h : skipGap text with
  | [] => .error (.unfinished .list)
  | c :: rest =>
    if c = ']' then .ok ⟨[], rest, length_lt_of_skipGap h⟩
    else elements element text

def key (text : List Char) : Except Error (Taken String text) :=
  match h : skipGap text with
  | [] => .error (.unfinished .object)
  | c :: rest => do
    if c = '\x22' then
      let name ← string rest
      let mark ← colon name.rest
      return ((name.past mark).map fun _ => name.value).lengthen text (length_le_of_skipGap h)
    else .error .keyNotString

def nextKey (text : List Char) : Except Error Unit :=
  match skipGap text with
  | [] => .error (.unfinished .value)
  | c :: _ =>
    if c = '\x22' then .ok ()
    else if c = '\x7d' then .error .trailingComma
    else .error .keyNotString

def pairs {α : Type} (value : Reader α) (text : List Char) :
    Except Error (Taken (List (String × α)) text) := do
  let name ← key text
  let first ← value name.rest
  match h : skipGap first.rest with
  | [] => .error (.unfinished .object)
  | c :: rest =>
    have shorter : rest.length < text.length :=
      Nat.lt_trans (length_lt_of_skipGap h) (Nat.lt_trans first.shorter name.shorter)
    if c = '\x7d' then return ⟨[(name.value, first.value)], rest, shorter⟩
    else if c = ',' then
      nextKey rest
      let more ← pairs value rest
      return (more.map ((name.value, first.value) :: ·)).lengthen text (Nat.le_of_lt shorter)
    else .error .expectedCommaOrBrace
termination_by text.length

def object {α : Type} (value : Reader α) (text : List Char) :
    Except Error (Taken (List (String × α)) text) :=
  match h : skipGap text with
  | [] => .error (.unfinished .object)
  | c :: rest =>
    if c = '\x7d' then .ok ⟨[], rest, length_lt_of_skipGap h⟩
    else pairs value text

/-- Reads a value inside of which arrays and objects may be nested `depth` deep. -/
def value (depth : Nat) (text : List Char) : Except Error (Taken Value text) :=
  match h : skipGap text with
  | [] => .error (.unfinished .value)
  | c :: rest => do
    have shorter := length_lt_of_skipGap h
    if c = '[' then
      match depth with
      | 0 => .error .tooDeep
      | depth + 1 =>
        let taken ← items (value depth) rest
        return (taken.map Value.arr).lengthen text (Nat.le_of_lt shorter)
    else if c = '\x7b' then
      match depth with
      | 0 => .error .tooDeep
      | depth + 1 =>
        let taken ← object (value depth) rest
        return (taken.map fun ps => Value.obj (Members.ofPairs ps)).lengthen text
          (Nat.le_of_lt shorter)
    else
      let taken ← scalar (c :: rest)
      return taken.lengthen text (length_cons_le_of_skipGap h)

def parse (text : String) : Except Error Value := do
  let taken ← value depthLimit text.toList
  endOfText taken.rest
  return taken.value

/-- The fault of a value that is not of the wanted kind. A number, word or string is read first,
and its own faults come before. -/
def mismatch (wanted : Wanted) (text : List Char) : Error :=
  match text with
  | '[' :: _ => .wrongType .sequence wanted
  | '\x7b' :: _ => .wrongType .map wanted
  | other =>
    match scalar other with
    | .error e => e
    | .ok taken => .wrongType taken.value.found wanted

/-- Reads data that starts with a given character, or reports what is there instead. -/
def opening {α : Type} (mark : Char) (wanted : Wanted) (body : Reader α) : Reader α := fun text =>
  match h : skipGap text with
  | [] => .error (.unfinished .value)
  | c :: rest => do
    if c = mark then
      let taken ← body rest
      return taken.lengthen text (length_le_of_skipGap h)
    else .error (mismatch wanted (c :: rest))

def stringOnly : Reader String :=
  opening '\x22' .string string

def stringsOnly : Reader (List String) :=
  opening '[' .sequence (items stringOnly)

def objectOnly (depth : Nat) : Reader Members :=
  opening '\x7b' .map fun text => do
    let taken ← object (value depth) text
    return taken.map Members.ofPairs

def parseObject (text : String) : Except Error Members := do
  let taken ← objectOnly (depthLimit - 1) text.toList
  endOfText taken.rest
  return taken.value

end RestGraph.Json
