import RestGraph.Json.Value
import RestGraph.Text.Taken
/-!
The first steps of every JSON reader: the gaps between the tokens, the words and the colon.
-/

set_option autoImplicit false

namespace RestGraph.Json

/-- A reader either fails or takes at least one character. -/
abbrev Reader (α : Type) :=
  (text : List Char) → Except Error (Taken α text)

def isGap (c : Char) : Bool :=
  c == ' ' || c == '\n' || c == '\t' || c == '\r'

def skipGap (text : List Char) : List Char :=
  text.dropWhile isGap

theorem skipGap_length_le (text : List Char) : (skipGap text).length ≤ text.length := by
  induction text with
  | nil => simp [skipGap]
  | cons c rest ih =>
    simp only [skipGap, List.dropWhile_cons] at ih ⊢
    split
    · exact Nat.le_succ_of_le ih
    · exact Nat.le_refl _

theorem length_lt_of_skipGap {text rest : List Char} {c : Char} (h : skipGap text = c :: rest) :
    rest.length < text.length := by
  have := skipGap_length_le text
  rw [h] at this
  exact this

theorem length_le_of_skipGap {text rest : List Char} {c : Char} (h : skipGap text = c :: rest) :
    rest.length ≤ text.length :=
  Nat.le_of_lt (length_lt_of_skipGap h)

theorem length_cons_le_of_skipGap {text rest : List Char} {c : Char}
    (h : skipGap text = c :: rest) : (c :: rest).length ≤ text.length :=
  length_lt_of_skipGap h

theorem length_le_self (text : List Char) : text.length ≤ text.length :=
  Nat.le_refl _

def endOfText (text : List Char) : Except Error Unit :=
  match skipGap text with
  | [] => .ok ()
  | _ :: _ => .error .trailingText

def word {α : Type} (value : α) : (letters : List Char) → Reader α
  | _, [] => .error (.unfinished .value)
  | [], _ :: _ => .error .expectedWord
  | [letter], c :: rest => if c = letter then .ok (.one value c rest) else .error .expectedWord
  | letter :: letters, c :: rest => do
    if c = letter then
      let taken ← word value letters rest
      return taken.after c
    else .error .expectedWord

def colon (text : List Char) : Except Error (Taken Unit text) :=
  match h : skipGap text with
  | [] => .error (.unfinished .object)
  | c :: rest =>
    if c = ':' then .ok ⟨(), rest, length_lt_of_skipGap h⟩ else .error .expectedColon

end RestGraph.Json
