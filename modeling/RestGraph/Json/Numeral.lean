import RestGraph.Json.Scan
/-!
Numbers in a JSON text. An integer that fits 64 bits is kept exactly. Any other number becomes a
double: its digits form a 64-bit significand, and the powers of ten that are left are applied to
the double of that significand.
-/

set_option autoImplicit false

namespace RestGraph.Json

def digits : List Char → List Nat × List Char
  | [] => ([], [])
  | c :: rest =>
    if c.isDigit then
      let more := digits rest
      ((c.toNat - '0'.toNat) :: more.1, more.2)
    else ([], c :: rest)

theorem digits_length (text : List Char) :
    (digits text).1.length + (digits text).2.length = text.length := by
  induction text with
  | nil => rfl
  | cons c rest ih =>
    unfold digits
    split
    · simp only [List.length_cons]
      omega
    · simp

/-- Appends digits to a significand as long as it fits 64 bits; from the first digit that does not
fit, they are counted only. -/
def absorb (significand : Nat) : List Nat → Nat × Nat
  | [] => (significand, 0)
  | d :: rest =>
    if significand * 10 + d < UInt64.size then absorb (significand * 10 + d) rest
    else (significand, rest.length + 1)

def powerOfTen (k : Nat) : Float :=
  Float.ofScientific 1 false k

/-- Divides by `10 ^ k` in steps that doubles can hold. -/
def scaleDown (x : Float) (k : Nat) : Float :=
  if k ≤ 308 then x / powerOfTen k
  else if x == 0.0 then x
  else scaleDown (x / powerOfTen 308) (k - 308)
termination_by k
decreasing_by omega

def double (negative : Bool) (significand : Nat) (exponent : Int) : Except Error Number := do
  let x := significand.toUInt64.toFloat
  let magnitude ←
    if exponent < 0 then .ok (scaleDown x (-exponent).toNat)
    else if exponent ≤ 308 then
      let y := x * powerOfTen exponent.toNat
      if y.isInf then .error .numberTooLarge else .ok y
    else if significand = 0 then .ok x
    else .error .numberTooLarge
  return .float (if negative then -magnitude else magnitude).toBits

def integer (negative : Bool) (significand : Nat) : Number :=
  if negative then
    if significand = 0 ∨ Nat.pow 2 63 < significand then
      .float (-significand.toUInt64.toFloat).toBits
    else .int (-significand)
  else .int significand

/-- What follows a numeral, no longer than the text it was found in. -/
structure Tail (text : List Char) where
  value : Number
  rest : List Char
  notLonger : rest.length ≤ text.length

def Tail.all (value : Number) (text : List Char) : Tail text :=
  ⟨value, text, length_le_self text⟩

def Tail.after {text : List Char} (c : Char) (tail : Tail text) : Tail (c :: text) :=
  ⟨tail.value, tail.rest, Nat.le_succ_of_le tail.notLonger⟩

def exponentDigits (negative down : Bool) (significand : Nat) (base : Int) (text : List Char) :
    Except Error (Tail text) :=
  match h : (digits text).1 with
  | [] =>
    match text with
    | [] => .error (.unfinished .value)
    | _ :: _ => .error .badNumber
  | ds => do
    let size : Nat := ds.foldl (fun n d => n * 10 + d) 0
    let value ←
      if size < Nat.pow 2 31 then
        double negative significand (if down then base - (size : Int) else base + (size : Int))
      else if significand ≠ 0 && !down then .error .numberTooLarge
      else double negative 0 0
    return ⟨value, (digits text).2, by have := digits_length text; omega⟩

def exponent (negative : Bool) (significand : Nat) (base : Int) (text : List Char) :
    Except Error (Tail text) :=
  match text with
  | '+' :: rest => do
    let tail ← exponentDigits negative false significand base rest
    return tail.after '+'
  | '-' :: rest => do
    let tail ← exponentDigits negative true significand base rest
    return tail.after '-'
  | rest => exponentDigits negative false significand base rest

def afterFraction (negative : Bool) (significand : Nat) (base : Int) (text : List Char) :
    Except Error (Tail text) :=
  match text with
  | c :: rest => do
    if c = 'e' ∨ c = 'E' then
      let tail ← exponent negative significand base rest
      return tail.after c
    else return .all (← double negative significand base) (c :: rest)
  | [] => do return .all (← double negative significand base) []

def fraction (negative : Bool) (significand : Nat) (base : Int) (text : List Char) :
    Except Error (Tail text) :=
  match (digits text).1 with
  | [] =>
    match text with
    | [] => .error (.unfinished .value)
    | _ :: _ => .error .badNumber
  | ds => do
    let (grown, lost) := absorb significand ds
    let shift : Int := (ds.length : Int) - lost
    let tail ← afterFraction negative grown (base - shift) (digits text).2
    return ⟨tail.value, tail.rest, by
      have := digits_length text
      have := tail.notLonger
      omega⟩

/-- Reads what may follow the integer part, of which `lost` digits did not fit. -/
def afterInteger (negative : Bool) (significand lost : Nat) (text : List Char) :
    Except Error (Tail text) :=
  match text with
  | '.' :: rest => do
    let tail ← fraction negative significand lost rest
    return tail.after '.'
  | rest =>
    if lost = 0 ∧ rest.head? ≠ some 'e' ∧ rest.head? ≠ some 'E' then
      .ok (.all (integer negative significand) rest)
    else afterFraction negative significand lost rest

/-- Reads a number without its sign. A zero ends the integer part. -/
def unsigned (negative : Bool) (text : List Char) : Except Error (Taken Number text) :=
  match text with
  | [] => .error (.unfinished .value)
  | c :: rest => do
    if c = '0' then
      if (rest.head?.map Char.isDigit).getD false then .error .badNumber
      else
        let tail ← afterInteger negative 0 0 rest
        return ⟨tail.value, tail.rest, Nat.lt_succ_of_le tail.notLonger⟩
    else if c.isDigit then
      let (significand, lost) := absorb (c.toNat - '0'.toNat) (digits rest).1
      let tail ← afterInteger negative significand lost (digits rest).2
      return ⟨tail.value, tail.rest, by
        have := digits_length rest
        have := tail.notLonger
        simp only [List.length_cons]
        omega⟩
    else .error .badNumber

def number (text : List Char) : Except Error (Taken Number text) :=
  match text with
  | '-' :: rest => do
    let taken ← unsigned true rest
    return taken.after '-'
  | rest => unsigned false rest

end RestGraph.Json
