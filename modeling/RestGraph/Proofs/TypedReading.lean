import RestGraph.Endpoint.OfText
import RestGraph.Endpoint.OfValue
import RestGraph.Proofs.Skimming
/-!
Typed readers against values. A reader that wants a string, a list of strings or an object takes from
the text what the strict reader would take, and comes to the same result, the same fault included,
as if it were given the value that was read.
-/

set_option autoImplicit false

namespace RestGraph.Json

/-- Where the strict reader takes a value, the reader takes as much, and its result is that of a
function of the value. -/
def Decodes {α : Type} (reader : Reader α) (depth : Nat) (decode : Value → Except Error α) : Prop :=
  ∀ (text : List Char) (taken : Taken Value text), value depth text = .ok taken →
    outcome (reader text) = (decode taken.value).map fun result => (result, taken.rest)

theorem outcome_eq_ok {α : Type} {text rest : List Char} {result : α}
    {read : Except Error (Taken α text)} (same : outcome read = .ok (result, rest)) :
    ∃ taken, read = .ok taken ∧ taken.value = result ∧ taken.rest = rest := by
  cases read with
  | error _ => cases same
  | ok taken =>
    obtain ⟨rfl, rfl⟩ := Prod.mk.inj (Except.ok.inj same)
    exact ⟨taken, rfl, rfl, rfl⟩

theorem outcome_elements {α : Type} (element : Reader α) (text : List Char) :
    outcome (elements element text) = outcome (element text) >>= fun first =>
      match skipGap first.2 with
      | [] => .error (.unfinished .list)
      | c :: rest =>
        if c = ']' then .ok ([first.1], rest)
        else if c = ',' then
          match skipGap rest with
          | [] => .error (.unfinished .value)
          | next :: _ =>
            if next = ']' then .error .trailingComma
            else (outcome (elements element rest)).map fun more => (first.1 :: more.1, more.2)
        else .error .expectedCommaOrBracket := by
  rw [elements]
  cases element text with
  | error _ => rfl
  | ok first =>
    simp only [ok_bind, outcome, map_ok]
    split
    · rename_i found
      simp only [found, map_error]
    rename_i c rest found
    simp only [found]
    by_cases close : c = ']'
    · rw [if_pos close, if_pos close]
      rfl
    rw [if_neg close, if_neg close]
    by_cases comma : c = ','
    · rw [if_pos comma, if_pos comma]
      cases skipGap rest with
      | nil => rfl
      | cons next _ =>
        by_cases trailing : next = ']'
        · simp only [if_pos trailing, map_error]
        · simp only [if_neg trailing]
          cases elements element rest <;> rfl
    · rw [if_neg comma, if_neg comma]
      rfl

theorem outcome_items {α : Type} (element : Reader α) (text : List Char) :
    outcome (items element text) =
      match skipGap text with
      | [] => .error (.unfinished .list)
      | c :: rest => if c = ']' then .ok ([], rest) else outcome (elements element text) := by
  unfold items
  split
  · rename_i found
    simp only [found]
    rfl
  rename_i c rest found
  simp only [found]
  by_cases close : c = ']'
  · rw [if_pos close, if_pos close]
    rfl
  · rw [if_neg close, if_neg close]

theorem outcome_opening {α : Type} (mark : Char) (wanted : Wanted) (body : Reader α)
    (text : List Char) :
    outcome (opening mark wanted body text) =
      match skipGap text with
      | [] => .error (.unfinished .value)
      | c :: rest =>
        if c = mark then outcome (body rest) else .error (mismatch wanted (c :: rest)) := by
  unfold opening
  split
  · rename_i found
    simp only [found]
    rfl
  rename_i c rest found
  simp only [found]
  by_cases start : c = mark
  · rw [if_pos start, if_pos start]
    cases body rest <;> rfl
  · rw [if_neg start, if_neg start]
    rfl

theorem word_value {α : Type} {value : α} {letters text : List Char} {taken : Taken α text}
    (read : word value letters text = .ok taken) : taken.value = value := by
  fun_induction word value letters text with
  | case1 | case2 | case4 | case6 => cases read
  | case3 c rest =>
    obtain rfl := Except.ok.inj read
    rfl
  | case5 letters c rest more ih =>
    obtain ⟨inner, letter, read⟩ := exists_of_bind_eq_ok read
    obtain rfl := Except.ok.inj read
    exact ih letter

theorem scalar_eq_ok {c : Char} {rest : List Char} {taken : Taken Value (c :: rest)}
    (read : scalar (c :: rest) = .ok taken) :
    (∃ chars, c = '\x22' ∧ string rest = .ok chars ∧ taken.value = .str chars.value ∧
        taken.rest = chars.rest) ∨
      (c ≠ '\x22' ∧ (taken.value = .null ∨ (∃ value, taken.value = .bool value) ∨
        ∃ value, taken.value = .num value)) := by
  unfold scalar at read
  dsimp only at read
  split at read
  · rename_i null
    obtain ⟨inner, letters, read⟩ := exists_of_bind_eq_ok read
    obtain rfl := Except.ok.inj read
    have noQuote : c ≠ '\x22' := by
      rw [null]
      decide
    have null := word_value letters
    exact .inr ⟨noQuote, .inl null⟩
  split at read
  · rename_i true
    obtain ⟨inner, letters, read⟩ := exists_of_bind_eq_ok read
    obtain rfl := Except.ok.inj read
    have noQuote : c ≠ '\x22' := by
      rw [true]
      decide
    have yes := word_value letters
    exact .inr ⟨noQuote, .inr (.inl ⟨_, yes⟩)⟩
  split at read
  · rename_i false
    obtain ⟨inner, letters, read⟩ := exists_of_bind_eq_ok read
    obtain rfl := Except.ok.inj read
    have noQuote : c ≠ '\x22' := by
      rw [false]
      decide
    have no := word_value letters
    exact .inr ⟨noQuote, .inr (.inl ⟨_, no⟩)⟩
  split at read
  · rename_i quote
    obtain ⟨chars, quoted, read⟩ := exists_of_bind_eq_ok read
    obtain rfl := Except.ok.inj read
    exact .inl ⟨chars, quote, quoted, rfl, rfl⟩
  rename_i noQuote
  split at read
  · obtain ⟨inner, digits, read⟩ := exists_of_bind_eq_ok read
    obtain rfl := Except.ok.inj read
    exact .inr ⟨noQuote, .inr (.inr ⟨inner.value, rfl⟩)⟩
  · cases read

theorem mismatch_of_valueRead {depth : Nat} {text after : List Char} {v : Value}
    (read : ValueRead depth text v after) (wanted : Wanted) {c : Char} {rest : List Char}
    (start : skipGap text = c :: rest) : mismatch wanted (c :: rest) = .wrongType v.found wanted := by
  cases read with
  | array mark _ =>
    obtain ⟨rfl, rfl⟩ := List.cons.inj (start.symm.trans mark)
    rfl
  | object mark _ =>
    obtain ⟨rfl, rfl⟩ := List.cons.inj (start.symm.trans mark)
    rfl
  | scalar mark noBracket noBrace plain =>
    obtain ⟨rfl, rfl⟩ := List.cons.inj (start.symm.trans mark)
    unfold mismatch
    split
    · rename_i found
      exact absurd (List.cons.inj found).1 noBracket
    · rename_i found
      exact absurd (List.cons.inj found).1 noBrace
    · rw [plain]

section Lists

variable {α : Type} {element : Reader α} {depth : Nat} {decode : Value → Except Error α}
  {text : List Char}

private theorem Decodes.elements {values : List Value} {after : List Char}
    (decodes : Decodes element depth decode)
    (read : ElementsRead (value depth) text values after) :
    outcome (elements element text) =
      (values.mapM decode).map fun results => (results, after) := by
  induction read with
  | @last text rest first head mark =>
    rw [outcome_elements, decodes text first head, List.mapM_cons]
    cases decode first.value with
    | error _ => rfl
    | ok result =>
      simp only [map_ok, ok_bind, mark, if_true]
      rfl
  | @more text rest behind after first next values head mark follows noBracket _ ih =>
    have noClose : ',' ≠ ']' := by decide
    rw [outcome_elements, decodes text first head, List.mapM_cons]
    cases decode first.value with
    | error _ => rfl
    | ok result =>
      simp only [map_ok, ok_bind, mark, if_neg noClose, if_true, follows, if_neg noBracket, ih]
      cases values.mapM decode <;> rfl

theorem Decodes.items {taken : Taken (List Value) text} (decodes : Decodes element depth decode)
    (read : items (value depth) text = .ok taken) :
    outcome (items element text) =
      (taken.value.mapM decode).map fun results => (results, taken.rest) := by
  rw [outcome_items]
  rcases items_eq_ok read with ⟨close, none⟩ | ⟨c, rest, start, noBracket, listed⟩
  · rw [none]
    simp only [close, if_true]
    rfl
  · simp only [start, if_neg noBracket]
    exact decodes.elements listed

end Lists

theorem outcome_map {α β : Type} {text : List Char} (read : Except Error (Taken α text))
    (f : α → β) :
    outcome (read >>= fun taken => pure (taken.map f)) =
      (outcome read).map fun found => (f found.1, found.2) := by
  cases read <;> rfl

theorem Decodes.map {α β : Type} {reader : Reader α} {depth : Nat}
    {decode : Value → Except Error α} (decodes : Decodes reader depth decode) (f : α → β) :
    Decodes (fun text => reader text >>= fun taken => pure (taken.map f)) depth
      fun value => (decode value).map f := by
  intro text taken read
  dsimp only
  rw [outcome_map, decodes text taken read]
  cases decode taken.value <;> rfl

section Openings

variable {α : Type} {depth : Nat} {text after rest : List Char} {v : Value} {c mark : Char}
  {wanted : Wanted} {body : Reader α}

private theorem outcome_opening_mark (start : skipGap text = mark :: rest) :
    outcome (opening mark wanted body text) = outcome (body rest) := by
  rw [outcome_opening]
  simp only [start, if_true]

private theorem outcome_opening_other (read : ValueRead depth text v after)
    (start : skipGap text = c :: rest) (other : c ≠ mark) :
    outcome (opening mark wanted body text) = .error (.wrongType v.found wanted) := by
  rw [outcome_opening]
  simp only [start, if_neg other, mismatch_of_valueRead read wanted start]

end Openings

theorem decodes_stringOnly (depth : Nat) : Decodes stringOnly depth Draft.stringOf := by
  intro text taken found
  have read := valueRead_of_value found
  generalize taken.value = v, taken.rest = after at read ⊢
  cases read with
  | array start listed =>
    exact outcome_opening_other (.array start listed) start (by decide)
  | object start listed =>
    exact outcome_opening_other (.object start listed) start (by decide)
  | @scalar _ _ c rest inner start noBracket noBrace plain =>
    have read : ValueRead depth text inner.value inner.rest :=
      .scalar start noBracket noBrace plain
    rcases scalar_eq_ok plain with ⟨chars, rfl, quoted, shown, left⟩ | ⟨noQuote, kinds⟩
    · rw [shown, left, stringOnly, outcome_opening_mark start, quoted]
      rfl
    · rw [stringOnly, outcome_opening_other read start noQuote]
      rcases kinds with kind | ⟨_, kind⟩ | ⟨_, kind⟩ <;> rw [kind] <;> rfl

theorem decodes_stringsOnly (depth : Nat) : Decodes stringsOnly depth Draft.stringsOf := by
  intro text taken found
  have read := valueRead_of_value found
  generalize taken.value = v, taken.rest = after at read ⊢
  cases read with
  | @array depth _ rest inner start listed =>
    rw [stringsOnly, outcome_opening_mark start]
    exact (decodes_stringOnly depth).items listed
  | object start listed =>
    exact outcome_opening_other (.object start listed) start (by decide)
  | @scalar _ _ c rest inner start noBracket noBrace plain =>
    have read : ValueRead depth text inner.value inner.rest :=
      .scalar start noBracket noBrace plain
    rw [stringsOnly, outcome_opening_other read start noBracket]
    rcases scalar_eq_ok plain with ⟨_, -, -, kind, -⟩ | ⟨-, kind | ⟨_, kind⟩ | ⟨_, kind⟩⟩ <;>
      rw [kind] <;> rfl

theorem decodes_objectOnly (depth : Nat) :
    Decodes (objectOnly depth) (depth + 1) Draft.membersOf := by
  intro text taken found
  have read := valueRead_of_value found
  generalize taken.value = v, taken.rest = after at read ⊢
  cases read with
  | array start listed =>
    exact outcome_opening_other (.array start listed) start (by decide)
  | @object depth _ rest inner start listed =>
    rw [objectOnly, outcome_opening_mark start, listed]
    rfl
  | @scalar _ _ c rest inner start noBracket noBrace plain =>
    have read : ValueRead (depth + 1) text inner.value inner.rest :=
      .scalar start noBracket noBrace plain
    rw [objectOnly, outcome_opening_other read start noBrace]
    rcases scalar_eq_ok plain with ⟨_, -, -, kind, -⟩ | ⟨-, kind | ⟨_, kind⟩ | ⟨_, kind⟩⟩ <;>
      rw [kind] <;> rfl

theorem decodes_skim (depth : Nat) : Decodes skim depth fun _ => .ok () := by
  intro text taken found
  obtain ⟨passed, skipped, same⟩ := skim_of_value found
  rw [skipped, ← same]
  rfl

end RestGraph.Json
