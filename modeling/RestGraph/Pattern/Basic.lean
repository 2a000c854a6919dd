/-!
Patterns of texts. A pattern is read into its parts first; the modes in force at each part then
decide whether the part is supported. Parts lie in one another only up to a limit.
-/

set_option autoImplicit false

namespace RestGraph

namespace Pattern

abbrev Setting := List (Char × Bool)

def Setting.value (setting : Setting) (letter : Char) (before : Bool) : Bool :=
  (setting.lookup letter).getD before

/-- The modes in which a part of a pattern is matched: by characters or by bytes, and with regard to
case or without it. -/
structure Modes where
  byCharacter : Bool := true
  caseless : Bool := false
  deriving DecidableEq

def Modes.apply (modes : Modes) (setting : Setting) : Modes :=
  ⟨setting.value 'u' modes.byCharacter, setting.value 'i' modes.caseless⟩

def nestingLimit : Nat := 250

/-- A set of characters between brackets. A single character is a range, and the two operands of an
operation are sets again. -/
inductive CharacterSet where
  | range (first last : Char)
  | shorthand (negated : Bool)
  | named (negated : Bool)
  | bracket (negated : Bool) (inner : CharacterSet)
  | union (items : List CharacterSet)
  | operation (left right : CharacterSet)

namespace CharacterSet

def ofItems : List CharacterSet → CharacterSet
  | [item] => item
  | items => union items

mutual

def depth : CharacterSet → Nat
  | range _ _ => 0
  | shorthand _ => 0
  | named _ => 0
  | bracket _ inner => inner.depth + 1
  | union [] => 0
  | union (item :: items) => max item.depth (greatestDepth items) + 1
  | operation left right => max left.depth right.depth + 1

def greatestDepth : List CharacterSet → Nat
  | [] => 0
  | item :: items => max item.depth (greatestDepth items)

end

mutual

/-- A set is supported. By characters there are no shorthands, and without regard to case there is
nothing but the empty set. By bytes no part of a character beyond ASCII is in a set, so nothing is
negated. -/
def isSupported (modes : Modes) : CharacterSet → Bool
  | range _ last => if modes.byCharacter then !modes.caseless else decide (last.toNat < 0x80)
  | shorthand negated => !modes.byCharacter && !negated
  | named negated => if modes.byCharacter then !modes.caseless else !negated
  | bracket negated inner => (modes.byCharacter || !negated) && inner.isSupported modes
  | union items => areSupported modes items
  | operation left right => left.isSupported modes && right.isSupported modes

def areSupported (modes : Modes) : List CharacterSet → Bool
  | [] => true
  | item :: items => item.isSupported modes && areSupported modes items

end

def checked? (set : CharacterSet) : Option CharacterSet :=
  if set.depth ≤ nestingLimit then some set else none

end CharacterSet

end Pattern

open Pattern

/-- A pattern. A character may be written by its number in one byte. The signs of a repetition are
all alike here, and so are the kinds of groups. -/
inductive Pattern where
  | empty
  | character (c : Char) (asByte : Bool)
  | dot
  | anchor
  | boundary
  | shorthand (negated : Bool)
  | oneOf (set : CharacterSet)
  | setting (letters : Setting)
  | group (letters : Setting) (inner : Pattern)
  | repetition (inner : Pattern)
  | sequence (items : List Pattern)
  | alternatives (choices : List Pattern)

namespace Pattern

def ofItems : List Pattern → Pattern
  | [] => empty
  | [item] => item
  | items => sequence items

def ofChoices : List Pattern → Pattern
  | [choice] => choice
  | choices => alternatives choices

mutual

def depth : Pattern → Nat
  | empty => 0
  | character _ _ => 0
  | dot => 0
  | anchor => 0
  | boundary => 0
  | shorthand _ => 0
  | oneOf set => set.depth
  | setting _ => 0
  | group _ inner => inner.depth + 1
  | repetition inner => inner.depth + 1
  | sequence items => greatestDepth items + 1
  | alternatives choices => greatestDepth choices + 1

def greatestDepth : List Pattern → Nat
  | [] => 0
  | item :: items => max item.depth (greatestDepth items)

end

mutual

/-- The modes after a pattern that is supported. A setting lasts to the end of the group around it.
By characters there are no shorthands, no boundaries of words and no characters without regard to
case. By bytes nothing matches a part of a character beyond ASCII. -/
def after? (modes : Modes) : Pattern → Option Modes
  | empty => some modes
  | character c asByte =>
    if modes.byCharacter && modes.caseless then none
    else if !modes.byCharacter && asByte && decide (0x80 ≤ c.toNat) then none
    else some modes
  | dot => if modes.byCharacter then some modes else none
  | anchor => some modes
  | boundary => if modes.byCharacter then none else some modes
  | shorthand negated => if modes.byCharacter || negated then none else some modes
  | oneOf set => if set.isSupported modes then some modes else none
  | setting letters => some (modes.apply letters)
  | group letters inner => (inner.after? (modes.apply letters)).map fun _ => modes
  | repetition inner => inner.after? modes
  | sequence items => afterAll? modes items
  | alternatives choices => afterAll? modes choices

def afterAll? (modes : Modes) : List Pattern → Option Modes
  | [] => some modes
  | item :: items =>
    match item.after? modes with
    | none => none
    | some next => afterAll? next items

end

def isSupported (pattern : Pattern) : Bool :=
  (pattern.after? {}).isSome

def checked? (pattern : Pattern) : Option Pattern :=
  if pattern.depth ≤ nestingLimit then some pattern else none

end Pattern

end RestGraph
