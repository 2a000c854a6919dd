import RestGraph.Pattern.Bracket
import RestGraph.Text.Alphanumeric
/-!
Patterns in a text. A token is a whole item or a sign that opens, divides or closes a group; the
open groups hold the items read so far.
-/

set_option autoImplicit false

namespace RestGraph.Pattern

inductive Token where
  | item (pattern : Pattern)
  | setting (letters : Setting)
  | opening (name : List Char) (letters : Setting)
  | closing
  | bar
  | repetition

def settingLetters : List Char := ['i', 'm', 's', 'U', 'u', 'R', 'x']

/-- Reads the letters of a setting and the sign that ends it. Each letter stands once. One dash may
stand before a letter, and turns off the letters behind it. -/
def setting? (seen : Setting) (on : Bool) :
    (text : List Char) → Option (Taken (Setting × Char) text)
  | [] => none
  | c :: rest =>
    if c = ':' ∨ c = ')' then some (.one (seen, c) c rest)
    else if c = '-' then
      if on && rest.head? != some ':' && rest.head? != some ')' then
        (setting? seen false rest).map fun taken => taken.after c
      else none
    else if settingLetters.contains c && (seen.lookup c).isNone then
      (setting? ((c, on) :: seen) on rest).map fun taken => taken.after c
    else none

def settingToken? : Setting × Char → Option Token
  | (letters, ')') => if letters.isEmpty then none else some (.setting letters)
  | (letters, _) => some (.opening [] letters)

def isNameCharacter (c : Char) : Bool :=
  ['_', '.', '[', ']'].contains c || Text.isAlphanumeric c

def isGroupName : List Char → Bool
  | [] => false
  | c :: rest => (c == '_' || Text.isAlphabetic c) && rest.all isNameCharacter

def groupName? (text : List Char) : Option (Taken Token text) := do
  let name ← Taken.upTo? '>' text
  if isGroupName name.value then return name.map fun letters => .opening letters []
  else none

def groupKind? : (text : List Char) → Option (Taken Token text)
  | 'P' :: '<' :: rest => (groupName? rest).map fun taken => (taken.after '<').after 'P'
  | '<' :: rest => (groupName? rest).map fun taken => taken.after '<'
  | text => do
    let taken ← setting? [] true text
    let token ← settingToken? taken.value
    return taken.map fun _ => token

def group? (spaced : Bool) (rest : List Char) : Option (Taken Token ('(' :: rest)) :=
  match h : skip spaced rest with
  | '?' :: more => do
    let taken ← groupKind? more
    return ((taken.after '?').lengthen rest (length_cons_le_of_skip h)).after '('
  | _ => some (.one (.opening [] []) '(' rest)

def repetitionSign (c : Char) : (rest : List Char) → Taken Token (c :: rest)
  | '?' :: rest => (Taken.one Token.repetition '?' rest).after c
  | rest => .one .repetition c rest

/-- Reads the next token. An opening brace would start a count that ends with a closing one, which
no text of a rule holds. -/
def token? (spaced : Bool) : (text : List Char) → Option (Taken Token text)
  | [] => none
  | '(' :: rest => group? spaced rest
  | '[' :: rest =>
    (characterSet? spaced rest).map fun taken => taken.map fun set => .item (oneOf set)
  | c :: rest =>
    if c = ')' then some (.one .closing c rest)
    else if c = '|' then some (.one .bar c rest)
    else if c = '.' then some (.one (.item dot) c rest)
    else if c = '^' ∨ c = '$' then some (.one (.item anchor) c rest)
    else if c = '?' ∨ c = '*' ∨ c = '+' then some (repetitionSign c rest)
    else if c = '\x7b' then none
    else (character? spaced (c :: rest)).map fun taken => taken.map .item

/-- A group that has been opened: its setting, whether blanks count in it, and its parts with the
last one first. -/
structure Group where
  letters : Setting := []
  spaced : Bool := false
  choices : List Pattern := []
  items : List Pattern := []

namespace Group

def choice? (group : Group) : Option Pattern :=
  (ofItems group.items.reverse).checked?

def content? (group : Group) : Option Pattern := do
  (ofChoices ((← group.choice?) :: group.choices).reverse).checked?

def add (group : Group) (item : Pattern) : Group :=
  { group with items := item :: group.items }

def set (group : Group) (letters : Setting) : Group :=
  { group.add (setting letters) with spaced := letters.value 'x' group.spaced }

def divide? (group : Group) : Option Group :=
  group.choice?.map fun choice =>
    { group with choices := choice :: group.choices, items := [] }

def repeatLast? (group : Group) : Option Group :=
  match group.items with
  | [] => none
  | setting _ :: _ => none
  | item :: items =>
    (repetition item).checked?.map fun last => { group with items := last :: items }

end Group

structure Groups where
  names : List (List Char) := []
  outer : List Group := []
  current : Group := {}

namespace Groups

def open? (groups : Groups) (name : List Char) (letters : Setting) : Option Groups :=
  if groups.names.contains name then none
  else
    some
      { names := if name.isEmpty then groups.names else name :: groups.names
        outer := groups.current :: groups.outer
        current := { letters, spaced := letters.value 'x' groups.current.spaced } }

def close? (groups : Groups) : Option Groups :=
  match groups.outer with
  | [] => none
  | next :: more => do
    let content ← groups.current.content?
    let item ← (group groups.current.letters content).checked?
    return { groups with outer := more, current := next.add item }

def take? (groups : Groups) : Token → Option Groups
  | .item pattern => some { groups with current := groups.current.add pattern }
  | .setting letters => some { groups with current := groups.current.set letters }
  | .opening name letters => groups.open? name letters
  | .closing => groups.close?
  | .bar => groups.current.divide?.map fun current => { groups with current }
  | .repetition => groups.current.repeatLast?.map fun current => { groups with current }

def finish? (groups : Groups) (text : List Char) : Option Pattern :=
  match h : skip groups.current.spaced text with
  | [] => if groups.outer.isEmpty then groups.current.content? else none
  | c :: rest => do
    let token ← token? groups.current.spaced (c :: rest)
    have : token.rest.length < text.length :=
      Nat.lt_of_lt_of_le token.shorter (length_cons_le_of_skip h)
    (← groups.take? token.value).finish? token.rest
termination_by text.length

end Groups

def parse? (text : List Char) : Option Pattern :=
  ({} : Groups).finish? text

def isSupportedText (text : List Char) : Bool :=
  (parse? text).any isSupported

end RestGraph.Pattern
