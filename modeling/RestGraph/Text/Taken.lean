/-!
The ground on which the readers of texts stand: a reader takes the first thing off a text and leaves
a shorter rest, so a loop over readers ends with the text.
-/

set_option autoImplicit false

namespace RestGraph

/-- What a reader takes off a text: a result and a shorter rest. -/
structure Taken (α : Type) (text : List Char) where
  value : α
  rest : List Char
  shorter : rest.length < text.length

namespace Taken

def lengthen {α : Type} {text : List Char} (taken : Taken α text) (whole : List Char)
    (shorter : text.length ≤ whole.length) : Taken α whole :=
  ⟨taken.value, taken.rest, Nat.lt_of_lt_of_le taken.shorter shorter⟩

def one {α : Type} (value : α) (c : Char) (rest : List Char) : Taken α (c :: rest) :=
  ⟨value, rest, Nat.lt_succ_self _⟩

def after {α : Type} {text : List Char} (c : Char) (taken : Taken α text) : Taken α (c :: text) :=
  ⟨taken.value, taken.rest, Nat.lt_succ_of_lt taken.shorter⟩

/-- What is taken off the rest of something else, as taken off the whole text. -/
def past {α β : Type} {text : List Char} (before : Taken β text) (taken : Taken α before.rest) :
    Taken α text :=
  ⟨taken.value, taken.rest, Nat.lt_trans taken.shorter before.shorter⟩

def map {α β : Type} {text : List Char} (f : α → β) (taken : Taken α text) : Taken β text :=
  ⟨f taken.value, taken.rest, taken.shorter⟩

def upTo? (sign : Char) : (text : List Char) → Option (Taken (List Char) text)
  | [] => none
  | c :: rest =>
    if c = sign then some (one [] c rest)
    else (upTo? sign rest).map fun taken => (taken.map (c :: ·)).after c

end Taken

end RestGraph
