import RestGraph.Json.Scan
import RestGraph.Text.Characters
/-!
Strings in a JSON text. An escape of four hexadecimal digits names a 16-bit unit, and two units
that form a surrogate pair name one character.
-/

set_option autoImplicit false

namespace RestGraph.Json

def hexUnit? (a b c d : Char) : Option Nat := do
  return (← Text.hexDigit? a) * 4096 + (← Text.hexDigit? b) * 256 + (← Text.hexDigit? c) * 16 + (← Text.hexDigit? d)

def byteLength (text : List Char) : Nat :=
  text.foldl (fun n c => n + c.utf8Size) 0

/-- Reads four hexadecimal digits. The text counts as cut short if fewer than four bytes are
left. -/
def hexUnit : Reader Nat
  | a :: b :: c :: d :: rest =>
    match hexUnit? a b c d with
    | some n => .ok ⟨n, rest, by simp only [List.length_cons]; omega⟩
    | none => .error .badEscape
  | text => .error (if byteLength text < 4 then .unfinished .string else .badEscape)

def isHighSurrogate (n : Nat) : Bool :=
  decide (0xD800 ≤ n) && decide (n < 0xDC00)

def isLowSurrogate (n : Nat) : Bool :=
  decide (0xDC00 ≤ n) && decide (n < 0xE000)

def lowSurrogate : Reader Nat
  | [] => .error (.unfinished .string)
  | '\x5c' :: [] => .error (.unfinished .string)
  | '\x5c' :: 'u' :: rest => do
    let unit ← hexUnit rest
    if isLowSurrogate unit.value then
      return (unit.after 'u').after '\x5c'
    else .error .loneSurrogate
  | _ => .error .unpairedSurrogate

def shortEscape? (c : Char) : Option Char :=
  match c with
  | '\x22' => some '\x22'
  | '\x5c' => some '\x5c'
  | '/' => some '/'
  | 'b' => some '\x08'
  | 'f' => some '\x0c'
  | 'n' => some '\n'
  | 'r' => some '\r'
  | 't' => some '\t'
  | _ => none

def escape : Reader Char
  | [] => .error (.unfinished .string)
  | c :: rest => do
    if c = 'u' then
      let unit ← hexUnit rest
      if isLowSurrogate unit.value then .error .loneSurrogate
      else if isHighSurrogate unit.value then
        let low ← lowSurrogate unit.rest
        let code := 0x10000 + (unit.value - 0xD800) * 0x400 + (low.value - 0xDC00)
        return ((unit.past low).map fun _ => Char.ofNat code).after c
      else return (unit.map Char.ofNat).after c
    else
      match shortEscape? c with
      | some plain => return .one plain c rest
      | none => .error .badEscape

def stringTail (text : List Char) : Except Error (Taken (List Char) text) :=
  match text with
  | [] => .error (.unfinished .string)
  | c :: rest => do
    if c = '\x22' then return .one [] c rest
    else if c = '\x5c' then
      let plain ← escape rest
      let tail ← stringTail plain.rest
      return ((plain.past tail).map (plain.value :: ·)).after c
    else if c.toNat < 0x20 then .error .controlCharacter
    else
      let tail ← stringTail rest
      return (tail.map (c :: ·)).after c
termination_by text.length
decreasing_by
  · have := plain.shorter
    simp only [List.length_cons]
    omega
  · simp

def string : Reader String := fun text => do
  let chars ← stringTail text
  return chars.map String.ofList

/-- Passes over an escape after its backslash. Surrogates need no partner here. -/
def skipEscape : Reader Unit
  | [] => .error (.unfinished .string)
  | c :: rest => do
    if c = 'u' then
      let unit ← hexUnit rest
      return (unit.map fun _ => ()).after c
    else if (shortEscape? c).isSome then return .one () c rest
    else .error .badEscape

def skipString (text : List Char) : Except Error (Taken Unit text) :=
  match text with
  | [] => .error (.unfinished .string)
  | c :: rest => do
    if c = '\x22' then return .one () c rest
    else if c = '\x5c' then
      let passed ← skipEscape rest
      let tail ← skipString passed.rest
      return (passed.past tail).after c
    else if c.toNat < 0x20 then .error .controlCharacter
    else
      let tail ← skipString rest
      return tail.after c
termination_by text.length
decreasing_by
  · have := passed.shorter
    simp only [List.length_cons]
    omega
  · simp

end RestGraph.Json
