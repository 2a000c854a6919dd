import RestGraph.Pattern.Escape
/-!
Sets of characters in a text. A bracket holds characters, ranges and further brackets; between two
operands of an operation stands a double sign.
-/

set_option autoImplicit false

namespace RestGraph.Pattern

inductive Member where
  | item (set : CharacterSet)
  | opening (negated : Bool)
  | operation
  | closing

/-- A bracket that has been opened: the operands before its last operation, the items after it with
the last one first, and whether there have been no signs yet but dashes. -/
structure Bracket where
  negated : Bool
  left : Option CharacterSet := none
  items : List CharacterSet := []
  starts : Bool := true

namespace Bracket

def add (bracket : Bracket) (item : CharacterSet) (starts : Bool) : Bracket :=
  { bracket with items := item :: bracket.items, starts }

def operands? (bracket : Bracket) : Option CharacterSet :=
  let right := CharacterSet.ofItems bracket.items.reverse
  match bracket.left with
  | none => right.checked?
  | some left => (CharacterSet.operation left right).checked?

def operate? (bracket : Bracket) : Option Bracket :=
  bracket.operands?.map fun left => { bracket with left := some left, items := [], starts := false }

def close? (bracket : Bracket) : Option CharacterSet := do
  (CharacterSet.bracket bracket.negated (← bracket.operands?)).checked?

end Bracket

def asItem? : Pattern → Option CharacterSet
  | character c _ => some (.range c c)
  | shorthand negated => some (.shorthand negated)
  | _ => none

def range? : Pattern → Pattern → Option CharacterSet
  | character first _, character last _ =>
    if first ≤ last then some (.range first last) else none
  | _, _ => none

def setNames : List String :=
  ["alnum", "alpha", "ascii", "blank", "cntrl", "digit", "graph", "lower", "print", "punct",
   "space", "upper", "word", "xdigit"]

def setName? (text : List Char) : Option (Taken Unit text) := do
  let name ← Taken.upTo? ':' text
  if setNames.contains (String.ofList name.value) then
    match h : name.rest with
    | ']' :: rest =>
      return ⟨(), rest, Nat.lt_trans (Nat.lt_of_lt_of_eq (Nat.lt_succ_self _)
        (congrArg List.length h).symm) name.shorter⟩
    | _ => none
  else none

def named? : (text : List Char) → Option (Taken CharacterSet text)
  | ':' :: '^' :: rest =>
    (setName? rest).map fun taken => ((taken.map fun _ => .named true).after '^').after ':'
  | ':' :: rest => (setName? rest).map fun taken => (taken.map fun _ => .named false).after ':'
  | _ => none

/-- The character that decides whether a dash stands between the ends of a range. In a spaced
pattern, blanks before it do not count, nor does the sign of one comment. -/
def afterDash? (spaced : Bool) (text : List Char) : Option Char :=
  if spaced then
    match Text.trimStart text with
    | '#' :: rest => (Text.trimStart rest).head?
    | other => other.head?
  else text.head?

def rangeOrItem? (spaced : Bool) (text : List Char) : Option (Taken CharacterSet text) := do
  let first ← character? spaced text
  match h : skip spaced first.rest with
  | [] => none
  | c :: rest =>
    if c ≠ '-' || afterDash? spaced rest = some ']' || afterDash? spaced rest = some '-' then
      let item ← asItem? first.value
      return first.map fun _ => item
    else
      let last ← character? spaced (skip spaced rest)
      let range ← range? first.value last.value
      return first.past ((last.map fun _ => range).lengthen first.rest
        (Nat.le_trans (skip_length_le spaced rest) (Nat.le_of_lt (length_lt_of_skip h))))

def openBracket (spaced : Bool) (rest : List Char) : Taken Bool ('[' :: rest) :=
  match h : skip spaced rest with
  | '^' :: more => ⟨true, more, Nat.lt_succ_of_lt (length_lt_of_skip h)⟩
  | _ => .one false '[' rest

def isOperation (c : Char) : Bool :=
  c == '&' || c == '-' || c == '~'

/-- Reads the next part of a bracket. Dashes at its start stand for themselves, and so does a
closing bracket that comes first of all. -/
def member? (spaced : Bool) (bracket : Bracket) : (text : List Char) → Option (Taken Member text)
  | [] => none
  | '[' :: rest =>
    match named? rest with
    | some taken => some ((taken.map .item).after '[')
    | none => some ((openBracket spaced rest).map .opening)
  | c :: rest =>
    if bracket.starts && (c == '-' || (c == ']' && bracket.items.isEmpty)) then
      some (.one (.item (.range c c)) c rest)
    else if c = ']' then some (.one .closing c rest)
    else if isOperation c && rest.head? = some c then
      match rest with
      | [] => none
      | d :: more => some ((Taken.one .operation d more).after c)
    else (rangeOrItem? spaced (c :: rest)).map fun taken => taken.map .item

def closeBrackets? (spaced : Bool) (outer : List Bracket) (bracket : Bracket) (text : List Char) :
    Option (Taken CharacterSet text) :=
  match h : skip spaced text with
  | [] => none
  | c :: rest => do
    let member ← member? spaced bracket (c :: rest)
    have shorter : member.rest.length < text.length :=
      Nat.lt_of_lt_of_le member.shorter (length_cons_le_of_skip h)
    match member.value with
    | .item set =>
      let starts := bracket.starts && c == '-'
      let taken ← closeBrackets? spaced outer (bracket.add set starts) member.rest
      return taken.lengthen text (Nat.le_of_lt shorter)
    | .opening negated =>
      let taken ← closeBrackets? spaced (bracket :: outer) { negated } member.rest
      return taken.lengthen text (Nat.le_of_lt shorter)
    | .operation =>
      let taken ← closeBrackets? spaced outer (← bracket.operate?) member.rest
      return taken.lengthen text (Nat.le_of_lt shorter)
    | .closing =>
      let set ← bracket.close?
      match outer with
      | [] => return ⟨set, member.rest, shorter⟩
      | next :: more =>
        let taken ← closeBrackets? spaced more (next.add set false) member.rest
        return taken.lengthen text (Nat.le_of_lt shorter)
termination_by text.length

def characterSet? (spaced : Bool) (rest : List Char) :
    Option (Taken CharacterSet ('[' :: rest)) := do
  let start := openBracket spaced rest
  let set ← closeBrackets? spaced [] { negated := start.value } start.rest
  return start.past set

end RestGraph.Pattern
