import RestGraph.Json.Text
/-!
Passing over a value whose content does not matter. Only the grammar is checked: there is no limit
on depth or on the size of numbers. The arrays and objects that are open form a stack.
-/

set_option autoImplicit false

namespace RestGraph.Json

/-- An array or object that is still open. -/
inductive Bracket where
  | array
  | object
  deriving DecidableEq

def Bracket.close : Bracket → Char
  | .array => ']'
  | .object => '\x7d'

def Bracket.part : Bracket → Part
  | .array => .list
  | .object => .object

/-- The fault of a character that neither closes a bracket nor continues it. -/
def Bracket.expected : Bracket → Error
  | .array => .expectedCommaOrBracket
  | .object => .expectedCommaOrBrace

/-- What follows a passage, no longer than the text it was found in. -/
structure Left (text : List Char) where
  rest : List Char
  notLonger : rest.length ≤ text.length

def Left.all (text : List Char) : Left text :=
  ⟨text, length_le_self text⟩

def Left.lengthen {text : List Char} (left : Left text) (whole : List Char)
    (h : text.length ≤ whole.length) : Left whole :=
  ⟨left.rest, Nat.le_trans left.notLonger h⟩

def Left.after {text : List Char} (c : Char) (left : Left text) : Left (c :: text) :=
  ⟨left.rest, Nat.le_succ_of_le left.notLonger⟩

def skipDigits (text : List Char) : List Char :=
  text.dropWhile Char.isDigit

theorem skipDigits_length_le (text : List Char) : (skipDigits text).length ≤ text.length := by
  induction text with
  | nil => simp [skipDigits]
  | cons c rest ih =>
    simp only [skipDigits, List.dropWhile_cons] at ih ⊢
    split
    · exact Nat.le_succ_of_le ih
    · exact Nat.le_refl _

def skipDigits1 (text : List Char) : Except Error (Left text) :=
  match text with
  | [] => .error .badNumber
  | c :: rest =>
    if c.isDigit then .ok ⟨skipDigits rest, Nat.le_succ_of_le (skipDigits_length_le rest)⟩
    else .error .badNumber

def skipSigned (text : List Char) : Except Error (Left text) :=
  match text with
  | [] => .error .badNumber
  | c :: rest => do
    if c = '+' ∨ c = '-' then
      let left ← skipDigits1 rest
      return left.after c
    else skipDigits1 (c :: rest)

def skipExponent (text : List Char) : Except Error (Left text) :=
  match text with
  | [] => .ok (.all [])
  | c :: rest => do
    if c = 'e' ∨ c = 'E' then
      let left ← skipSigned rest
      return left.after c
    else return .all (c :: rest)

def skipFraction (text : List Char) : Except Error (Left text) :=
  match text with
  | [] => .ok (.all [])
  | c :: rest => do
    if c = '.' then
      let left ← skipDigits1 rest
      let more ← skipExponent left.rest
      return (more.lengthen rest left.notLonger).after c
    else skipExponent (c :: rest)

def skipUnsigned : Reader Unit
  | [] => .error .badNumber
  | c :: rest => do
    if c = '0' then
      if (rest.head?.map Char.isDigit).getD false then .error .badNumber
      else
        let left ← skipFraction rest
        return ⟨(), left.rest, Nat.lt_succ_of_le left.notLonger⟩
    else if c.isDigit then
      let left ← skipFraction (skipDigits rest)
      return ⟨(), left.rest,
        Nat.lt_succ_of_le (Nat.le_trans left.notLonger (skipDigits_length_le rest))⟩
    else .error .badNumber

def skipScalar : Reader Unit
  | [] => .error (.unfinished .value)
  | c :: rest => do
    if c = 'n' then
      let taken ← word () ['u', 'l', 'l'] rest
      return taken.after c
    else if c = 't' then
      let taken ← word () ['r', 'u', 'e'] rest
      return taken.after c
    else if c = 'f' then
      let taken ← word () ['a', 'l', 's', 'e'] rest
      return taken.after c
    else if c = '\x22' then
      let taken ← skipString rest
      return taken.after c
    else if c = '-' then
      let taken ← skipUnsigned rest
      return taken.after c
    else if c.isDigit then skipUnsigned (c :: rest)
    else .error .expectedValue

def skipKey (text : List Char) : Except Error (Taken Unit text) :=
  match h : skipGap text with
  | [] => .error (.unfinished .object)
  | c :: rest => do
    if c = '\x22' then
      let name ← skipString rest
      let mark ← colon name.rest
      return (name.past mark).lengthen text (length_le_of_skipGap h)
    else .error .keyNotString

mutual

/-- Passes over a value and closes the brackets that are open around it. -/
def skimValue (enclosing : List Bracket) (text : List Char) : Except Error (Taken Unit text) :=
  match h : skipGap text with
  | [] => .error (.unfinished .value)
  | c :: rest => do
    have shorter := length_lt_of_skipGap h
    if c = '[' then
      match h' : skipGap rest with
      | [] => .error (.unfinished .list)
      | d :: more =>
        have shorter' := Nat.lt_trans (length_lt_of_skipGap h') shorter
        if d = ']' then
          let left ← skimAfter enclosing more
          return ⟨(), left.rest, Nat.lt_of_le_of_lt left.notLonger shorter'⟩
        else
          let taken ← skimValue (.array :: enclosing) rest
          return taken.lengthen text (Nat.le_of_lt shorter)
    else if c = '\x7b' then
      match h' : skipGap rest with
      | [] => .error (.unfinished .object)
      | d :: more =>
        have shorter' := Nat.lt_trans (length_lt_of_skipGap h') shorter
        if d = '\x7d' then
          let left ← skimAfter enclosing more
          return ⟨(), left.rest, Nat.lt_of_le_of_lt left.notLonger shorter'⟩
        else
          let name ← skipKey rest
          have nameShorter := Nat.lt_trans name.shorter shorter
          let taken ← skimValue (.object :: enclosing) name.rest
          return taken.lengthen text (Nat.le_of_lt nameShorter)
    else
      let passed ← skipScalar (c :: rest)
      have passedShorter := Nat.lt_of_lt_of_le passed.shorter (length_cons_le_of_skipGap h)
      let left ← skimAfter enclosing passed.rest
      return ⟨(), left.rest, Nat.lt_of_le_of_lt left.notLonger passedShorter⟩
termination_by text.length

/-- Goes on after a value inside the brackets that are open. -/
def skimAfter (enclosing : List Bracket) (text : List Char) : Except Error (Left text) :=
  match enclosing with
  | [] => .ok (.all text)
  | bracket :: outer =>
    match h : skipGap text with
    | [] => .error (.unfinished bracket.part)
    | c :: rest => do
      have shorter := length_lt_of_skipGap h
      if c = ',' then
        match bracket with
        | .array =>
          let taken ← skimValue (.array :: outer) rest
          return ⟨taken.rest, Nat.le_of_lt (Nat.lt_trans taken.shorter shorter)⟩
        | .object =>
          let name ← skipKey rest
          have nameShorter := Nat.lt_trans name.shorter shorter
          let taken ← skimValue (.object :: outer) name.rest
          return ⟨taken.rest, Nat.le_of_lt (Nat.lt_trans taken.shorter nameShorter)⟩
      else if c = bracket.close then
        let left ← skimAfter outer rest
        return left.lengthen text (Nat.le_of_lt shorter)
      else .error bracket.expected
termination_by text.length

end

def skim : Reader Unit :=
  skimValue []

end RestGraph.Json
