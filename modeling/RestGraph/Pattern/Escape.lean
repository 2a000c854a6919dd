import RestGraph.Pattern.Basic
import RestGraph.Text.Characters
import RestGraph.Text.Taken
/-!
The smallest parts of a pattern: the blanks between the parts, and the characters after a backslash.
-/

set_option autoImplicit false

namespace RestGraph.Pattern

def skipComments (inComment : Bool) : List Char → List Char
  | [] => []
  | c :: rest =>
    if inComment then skipComments (c != '\n') rest
    else if Text.isBlank c then skipComments false rest
    else if c == '#' then skipComments true rest
    else c :: rest

theorem skipComments_length_le (inComment : Bool) (text : List Char) :
    (skipComments inComment text).length ≤ text.length := by
  induction text generalizing inComment with
  | nil => exact Nat.le_refl _
  | cons c rest ih =>
    unfold skipComments
    split
    · exact Nat.le_succ_of_le (ih _)
    · split
      · exact Nat.le_succ_of_le (ih _)
      · split
        · exact Nat.le_succ_of_le (ih _)
        · exact Nat.le_refl _

def skip (spaced : Bool) (text : List Char) : List Char :=
  if spaced then skipComments false text else text

theorem skip_length_le (spaced : Bool) (text : List Char) :
    (skip spaced text).length ≤ text.length := by
  unfold skip
  split
  · exact skipComments_length_le false text
  · exact Nat.le_refl _

theorem length_lt_of_skip {spaced : Bool} {text rest : List Char} {c : Char}
    (h : skip spaced text = c :: rest) : rest.length < text.length := by
  have := skip_length_le spaced text
  rw [h] at this
  exact this

theorem length_cons_le_of_skip {spaced : Bool} {text rest : List Char} {c : Char}
    (h : skip spaced text = c :: rest) : (c :: rest).length ≤ text.length :=
  length_lt_of_skip h

def hexadecimal? (spaced : Bool) (more value : Nat) (text : List Char) : Option (Taken Nat text) :=
  match h : skip spaced text with
  | [] => none
  | c :: rest => do
    let digit ← Text.hexDigit? c
    match more with
    | 0 => return ⟨value * 16 + digit, rest, length_lt_of_skip h⟩
    | more + 1 =>
      let taken ← hexadecimal? spaced more (value * 16 + digit) rest
      return (taken.after c).lengthen text (length_cons_le_of_skip h)

def hexadecimalWidth? (c : Char) : Option Nat :=
  match c with
  | 'x' => some 1
  | 'u' => some 3
  | 'U' => some 7
  | _ => none

def control? (c : Char) : Option Char :=
  match c with
  | 'a' => some '\x07'
  | 'f' => some '\x0c'
  | 'n' => some '\n'
  | 'r' => some '\r'
  | 't' => some '\t'
  | 'v' => some '\x0b'
  | _ => none

/-- What a single character stands for after a backslash. A sign of ASCII stands for itself, but for
the two angles, which are boundaries of words. -/
def escaped? (c : Char) : Option Pattern :=
  if ['A', 'z'].contains c then some anchor
  else if ['b', 'B', '<', '>'].contains c then some boundary
  else if ['d', 's', 'w'].contains c then some (shorthand false)
  else if ['D', 'S', 'W'].contains c then some (shorthand true)
  else if c.toNat < 0x80 && !c.isAlphanum then some (character c false)
  else (control? c).map fun plain => character plain false

/-- Reads what follows a backslash. A number has to name a character. -/
def escape? (spaced : Bool) : (text : List Char) → Option (Taken Pattern text)
  | [] => none
  | c :: rest =>
    match hexadecimalWidth? c with
    | none => (escaped? c).map fun pattern => .one pattern c rest
    | some more => do
      let code ← hexadecimal? spaced more 0 rest
      if code.value.isValidChar then
        return (code.map fun n => character (Char.ofNat n) (c == 'x')).after c
      else none

def character? (spaced : Bool) : (text : List Char) → Option (Taken Pattern text)
  | [] => none
  | c :: rest =>
    if c = '\x5c' then (escape? spaced rest).map fun taken => taken.after c
    else some (.one (character c false) c rest)

end RestGraph.Pattern
