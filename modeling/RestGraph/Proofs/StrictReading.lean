import RestGraph.Json.Reader
import RestGraph.Proofs.Outcomes
/-!
What the strict reader takes. A value, the elements of a list and the members of an object that are
read are described by the marks they stand between, so that other readers of the same text can be
followed along them.
-/

set_option autoImplicit false

namespace RestGraph.Json

def outcome {α : Type} {text : List Char} (read : Except Error (Taken α text)) :
    Except Error (α × List Char) :=
  read.map fun taken => (taken.value, taken.rest)

/-- The strict reader takes a value off a text and leaves a rest. -/
inductive ValueRead : Nat → List Char → Value → List Char → Prop
  | array {depth : Nat} {text rest : List Char} {inner : Taken (List Value) rest} :
    skipGap text = '[' :: rest → items (value depth) rest = .ok inner →
      ValueRead (depth + 1) text (.arr inner.value) inner.rest
  | object {depth : Nat} {text rest : List Char} {inner : Taken (List (String × Value)) rest} :
    skipGap text = '\x7b' :: rest → object (value depth) rest = .ok inner →
      ValueRead (depth + 1) text (.obj (Members.ofPairs inner.value)) inner.rest
  | scalar {depth : Nat} {text : List Char} {c : Char} {rest : List Char}
    {inner : Taken Value (c :: rest)} :
    skipGap text = c :: rest → c ≠ '[' → c ≠ '\x7b' → scalar (c :: rest) = .ok inner →
      ValueRead depth text inner.value inner.rest

inductive ElementsRead {α : Type} (element : Reader α) :
    List Char → List α → List Char → Prop
  | last {text rest : List Char} {first : Taken α text} :
    element text = .ok first → skipGap first.rest = ']' :: rest →
      ElementsRead element text [first.value] rest
  | more {text rest behind after : List Char} {first : Taken α text} {next : Char}
    {values : List α} :
    element text = .ok first → skipGap first.rest = ',' :: rest → skipGap rest = next :: behind →
      next ≠ ']' → ElementsRead element rest values after →
        ElementsRead element text (first.value :: values) after

inductive MembersRead {α : Type} (member : Reader α) :
    List Char → List (String × α) → List Char → Prop
  | last {text rest : List Char} {name : Taken String text} {first : Taken α name.rest} :
    key text = .ok name → member name.rest = .ok first → skipGap first.rest = '\x7d' :: rest →
      MembersRead member text [(name.value, first.value)] rest
  | more {text rest after : List Char} {name : Taken String text} {first : Taken α name.rest}
    {members : List (String × α)} :
    key text = .ok name → member name.rest = .ok first → skipGap first.rest = ',' :: rest →
      nextKey rest = .ok () → MembersRead member rest members after →
        MembersRead member text ((name.value, first.value) :: members) after

theorem valueRead_of_value {depth : Nat} {text : List Char} {taken : Taken Value text}
    (read : value depth text = .ok taken) : ValueRead depth text taken.value taken.rest := by
  unfold value at read
  split at read
  · cases read
  rename_i c rest start
  dsimp only at read
  split at read
  · rename_i bracket
    subst bracket
    cases depth with
    | zero => cases read
    | succ depth =>
      obtain ⟨inner, listed, read⟩ := exists_of_bind_eq_ok read
      obtain rfl := Except.ok.inj read
      exact .array start listed
  split at read
  · rename_i brace
    subst brace
    cases depth with
    | zero => cases read
    | succ depth =>
      obtain ⟨inner, listed, read⟩ := exists_of_bind_eq_ok read
      obtain rfl := Except.ok.inj read
      exact .object start listed
  · rename_i noBracket noBrace
    obtain ⟨inner, plain, read⟩ := exists_of_bind_eq_ok read
    obtain rfl := Except.ok.inj read
    exact .scalar start noBracket noBrace plain

theorem key_eq_ok {text : List Char} {name : Taken String text} (read : key text = .ok name) :
    ∃ (rest : List Char) (chars : Taken String rest) (mark : Taken Unit chars.rest),
      skipGap text = '\x22' :: rest ∧ string rest = .ok chars ∧ colon chars.rest = .ok mark ∧
        name.value = chars.value ∧ name.rest = mark.rest := by
  unfold key at read
  split at read
  · cases read
  rename_i c rest start
  split at read
  · rename_i quote
    subst quote
    obtain ⟨chars, quoted, read⟩ := exists_of_bind_eq_ok read
    obtain ⟨mark, behind, read⟩ := exists_of_bind_eq_ok read
    obtain rfl := Except.ok.inj read
    exact ⟨rest, chars, mark, start, quoted, behind, rfl, rfl⟩
  · cases read

theorem elementsRead_of_elements {α : Type} {element : Reader α} {text : List Char}
    {taken : Taken (List α) text} (read : elements element text = .ok taken) :
    ElementsRead element text taken.value taken.rest := by
  fun_induction elements element text with
  | case1 text ih =>
    obtain ⟨first, head, read⟩ := exists_of_bind_eq_ok read
    split at read
    · cases read
    rename_i c rest mark
    dsimp only at read
    split at read
    · rename_i bracket
      subst bracket
      obtain rfl := Except.ok.inj read
      exact .last head mark
    split at read
    · rename_i comma
      subst comma
      split at read
      · cases read
      rename_i next behind follows
      split at read
      · cases read
      rename_i noBracket
      obtain ⟨more, tail, read⟩ := exists_of_bind_eq_ok read
      obtain rfl := Except.ok.inj read
      exact .more head mark follows noBracket (ih first ',' rest mark tail)
    · cases read

theorem membersRead_of_pairs {α : Type} {member : Reader α} {text : List Char}
    {taken : Taken (List (String × α)) text} (read : pairs member text = .ok taken) :
    MembersRead member text taken.value taken.rest := by
  fun_induction pairs member text with
  | case1 text ih =>
    obtain ⟨name, named, read⟩ := exists_of_bind_eq_ok read
    obtain ⟨first, head, read⟩ := exists_of_bind_eq_ok read
    split at read
    · cases read
    rename_i c rest mark
    dsimp only at read
    split at read
    · rename_i brace
      subst brace
      obtain rfl := Except.ok.inj read
      exact .last named head mark
    split at read
    · rename_i comma
      subst comma
      obtain ⟨⟨⟩, follows, read⟩ := exists_of_bind_eq_ok read
      obtain ⟨more, tail, read⟩ := exists_of_bind_eq_ok read
      obtain rfl := Except.ok.inj read
      exact .more named head mark follows (ih name first ',' rest mark tail)
    · cases read

theorem items_eq_ok {α : Type} {element : Reader α} {text : List Char}
    {taken : Taken (List α) text} (read : items element text = .ok taken) :
    (skipGap text = ']' :: taken.rest ∧ taken.value = []) ∨
      ∃ c rest, skipGap text = c :: rest ∧ c ≠ ']' ∧
        ElementsRead element text taken.value taken.rest := by
  unfold items at read
  split at read
  · cases read
  rename_i c rest start
  split at read
  · rename_i bracket
    subst bracket
    obtain rfl := Except.ok.inj read
    exact .inl ⟨start, rfl⟩
  · rename_i noBracket
    exact .inr ⟨c, rest, start, noBracket, elementsRead_of_elements read⟩

theorem object_eq_ok {α : Type} {member : Reader α} {text : List Char}
    {taken : Taken (List (String × α)) text} (read : object member text = .ok taken) :
    (skipGap text = '\x7d' :: taken.rest ∧ taken.value = []) ∨
      ∃ c rest, skipGap text = c :: rest ∧ c ≠ '\x7d' ∧
        MembersRead member text taken.value taken.rest := by
  unfold object at read
  split at read
  · cases read
  rename_i c rest start
  split at read
  · rename_i brace
    subst brace
    obtain rfl := Except.ok.inj read
    exact .inl ⟨start, rfl⟩
  · rename_i noBrace
    exact .inr ⟨c, rest, start, noBrace, membersRead_of_pairs read⟩

end RestGraph.Json
