import RestGraph.Proofs.Sections
import RestGraph.Proofs.SingleLines
/-!
Brackets. Read from left to right, a text opens and closes brackets; what is left to close is known
at every place. A document may open a bracket in one line and close it in another, so what its parts
do is told by the brackets that are due before and after them, and this is what its text does.
-/

set_option autoImplicit false

namespace RestGraph

namespace Text

def brackets : List Char :=
  ['(', ')', '[', ']', '\x7b', '\x7d']

def closing? : Char → Option Char
  | '(' => some ')'
  | '[' => some ']'
  | '\x7b' => some '\x7d'
  | _ => none

/-- Reads one character where the given brackets are due, the innermost first. An opening bracket
makes another one due; a closing bracket has to be the one that is due first. -/
def readBracket (due : List Char) (c : Char) : Option (List Char) :=
  match closing? c with
  | some close => some (close :: due)
  | none =>
    if c ∈ brackets then
      match due with
      | [] => none
      | first :: later => if c = first then some later else none
    else some due

/-- Reading a text leads from the brackets that are due before it to those that are due behind it,
and every bracket that it closes is the innermost open one. -/
def Turns (text : String) (due after : List Char) : Prop :=
  text.toList.foldlM readBracket due = some after

/-- The brackets of a text are correctly nested: each one that is closed is the innermost open one,
and none is left open. -/
def IsBalanced (text : String) : Prop :=
  Turns text [] []

/-- Pairs of brackets with nested texts between them, and other characters. -/
inductive Nested : List Char → Prop
  | nil : Nested []
  | plain {c : Char} {rest : List Char} : c ∉ brackets → Nested rest → Nested (c :: rest)
  | pair {opening close : Char} {inside rest : List Char} : closing? opening = some close →
    Nested inside → Nested rest → Nested (opening :: (inside ++ close :: rest))

/-- What completes a text: the brackets that are due, with nested texts in front of each and behind
the last. -/
def Completes : List Char → List Char → Prop
  | [], cs => Nested cs
  | close :: due, cs =>
    ∃ inside rest, cs = inside ++ close :: rest ∧ Nested inside ∧ Completes due rest

def IsPlain (text : String) : Prop :=
  ∀ mark ∈ brackets, Lacks mark text

section Turns

variable {text first second : String} {due between after : List Char}

instance : Decidable (Turns text due after) :=
  inferInstanceAs (Decidable (_ = _))

instance : Decidable (IsBalanced text) :=
  inferInstanceAs (Decidable (Turns text [] []))

instance : Decidable (IsPlain text) :=
  List.decidableBAll (Lacks · text) brackets

theorem forall_brackets {property : Char → Prop} [DecidablePred property]
    (all : brackets.all (fun mark => decide (property mark)) = true) :
    ∀ mark ∈ brackets, property mark :=
  fun mark mem => of_decide_eq_true (List.all_eq_true.mp all mark mem)

theorem isMark_of_mem_brackets : ∀ mark ∈ brackets, IsMark mark :=
  forall_brackets (by decide)

theorem mem_brackets_of_closing? {c close : Char} (opens : closing? c = some close) :
    c ∈ brackets := by
  unfold closing? at opens
  split at opens
  · decide
  · decide
  · decide
  · cases opens

theorem readBracket_of_not_mem {c : Char} (plain : c ∉ brackets) (due : List Char) :
    readBracket due c = some due := by
  cases opens : closing? c with
  | none => simp [readBracket, opens, plain]
  | some close => exact absurd (mem_brackets_of_closing? opens) plain

theorem readBracket_opening {opening close : Char} (opens : closing? opening = some close)
    (due : List Char) : readBracket due opening = some (close :: due) := by
  simp [readBracket, opens]

theorem readBracket_closing {opening close : Char} (opens : closing? opening = some close)
    (due : List Char) : readBracket (close :: due) close = some due := by
  unfold closing? at opens
  split at opens <;> cases opens <;> rfl

theorem exists_opening {c : Char} (bracket : c ∈ brackets) (closed : closing? c = none) :
    ∃ opening, closing? opening = some c := by
  simp only [brackets, List.mem_cons, List.not_mem_nil, or_false] at bracket
  rcases bracket with rfl | rfl | rfl | rfl | rfl | rfl
  · cases closed
  · exact ⟨'(', rfl⟩
  · cases closed
  · exact ⟨'[', rfl⟩
  · cases closed
  · exact ⟨'\x7b', rfl⟩

theorem readBracket_cases {c : Char} (read : readBracket due c = some after) :
    (∃ close, closing? c = some close ∧ after = close :: due) ∨
      (∃ opening, closing? opening = some c ∧ due = c :: after) ∨ c ∉ brackets ∧ after = due := by
  unfold readBracket at read
  split at read
  · rename_i close opens
    cases read
    exact .inl ⟨close, opens, rfl⟩
  rename_i closed
  split at read
  · rename_i bracket
    cases due with
    | nil => cases read
    | cons first later =>
      dsimp only at read
      split at read
      · rename_i same
        cases read
        exact .inr (.inl ((exists_opening bracket closed).imp fun _ opens => ⟨opens, same ▸ rfl⟩))
      · cases read
  · rename_i apart
    cases read
    exact .inr (.inr ⟨apart, rfl⟩)

theorem Nested.foldlM_readBracket {cs : List Char} (nested : Nested cs) (due : List Char) :
    cs.foldlM readBracket due = some due := by
  induction nested generalizing due with
  | nil => rfl
  | plain apart _ ih =>
    rw [List.foldlM_cons, readBracket_of_not_mem apart]
    exact ih due
  | pair opens _ _ inner ih =>
    rw [List.foldlM_cons, readBracket_opening opens, Option.bind_eq_bind, Option.bind_some,
      List.foldlM_append, inner, Option.bind_eq_bind, Option.bind_some, List.foldlM_cons,
      readBracket_closing opens]
    exact ih due

theorem Completes.plain {c : Char} (apart : c ∉ brackets) {cs : List Char}
    (completes : Completes due cs) : Completes due (c :: cs) := by
  cases due with
  | nil => exact .plain apart completes
  | cons close due =>
    obtain ⟨inside, rest, rfl, nested, later⟩ := completes
    exact ⟨c :: inside, rest, rfl, .plain apart nested, later⟩

theorem Completes.opening {opening close : Char} (opens : closing? opening = some close)
    {cs : List Char} (completes : Completes (close :: due) cs) : Completes due (opening :: cs) := by
  obtain ⟨inside, rest, rfl, nested, later⟩ := completes
  cases due with
  | nil => exact .pair opens nested later
  | cons outer due =>
    obtain ⟨between, behind, rfl, nested', later⟩ := later
    refine ⟨opening :: (inside ++ close :: between), behind, ?_, .pair opens nested nested', later⟩
    simp

theorem completes_of_foldlM {cs : List Char} (read : cs.foldlM readBracket due = some []) :
    Completes due cs := by
  -- the rest of the text completes what is due behind its first character
  induction cs generalizing due with
  | nil =>
    cases read
    exact .nil
  | cons c cs ih =>
    rw [List.foldlM_cons] at read
    obtain ⟨between, here, later⟩ := Option.bind_eq_some_iff.mp read
    have completes := ih later
    rcases readBracket_cases here with ⟨close, opens, rfl⟩ | ⟨opening, -, rfl⟩ | ⟨apart, rfl⟩
    · exact completes.opening opens
    · exact ⟨[], cs, rfl, .nil, completes⟩
    · exact completes.plain apart

/-- The reader accepts the nested texts and no others. -/
theorem isBalanced_iff_nested : IsBalanced text ↔ Nested text.toList :=
  ⟨completes_of_foldlM, fun nested => nested.foldlM_readBracket []⟩

example : IsBalanced "(of) => \x7b[]\x7d" ∧ ¬ IsBalanced "([)]" ∧ ¬ IsBalanced "\x7b" := by
  decide

theorem readBracket_append {c : Char} (read : readBracket due c = some after)
    (outer : List Char) : readBracket (due ++ outer) c = some (after ++ outer) := by
  rcases readBracket_cases read with ⟨close, opens, rfl⟩ | ⟨opening, opens, rfl⟩ | ⟨apart, rfl⟩
  · exact readBracket_opening opens _
  · exact readBracket_closing opens _
  · exact readBracket_of_not_mem apart _

theorem foldlM_readBracket_append {cs : List Char}
    (read : cs.foldlM readBracket due = some after) (outer : List Char) :
    cs.foldlM readBracket (due ++ outer) = some (after ++ outer) := by
  induction cs generalizing due with
  | nil =>
    cases read
    rfl
  | cons c cs ih =>
    rw [List.foldlM_cons] at read ⊢
    obtain ⟨between, here, later⟩ := Option.bind_eq_some_iff.mp read
    exact Option.bind_eq_some_iff.mpr ⟨between ++ outer, readBracket_append here outer, ih later⟩

theorem Turns.inside (turns : Turns text due after) (outer : List Char) :
    Turns text (due ++ outer) (after ++ outer) :=
  foldlM_readBracket_append turns outer

theorem IsBalanced.turns (balanced : IsBalanced text) (due : List Char) : Turns text due due :=
  Turns.inside balanced due

theorem Turns.append (turns : Turns first due between) (turns' : Turns second between after) :
    Turns (first ++ second) due after := by
  rw [Turns, String.toList_append, List.foldlM_append]
  exact Option.bind_eq_some_iff.mpr ⟨between, turns, turns'⟩

theorem IsPlain.turns (plain : IsPlain text) (due : List Char) : Turns text due due := by
  have apart : ∀ c ∈ text.toList, c ∉ brackets := fun c mem bracket => plain c bracket mem
  unfold Turns
  generalize text.toList = cs at apart
  induction cs with
  | nil => rfl
  | cons c cs ih =>
    obtain ⟨here, later⟩ := List.forall_mem_cons.mp apart
    rw [List.foldlM_cons, readBracket_of_not_mem here]
    exact ih later

theorem IsPlain.isBalanced (plain : IsPlain text) : IsBalanced text :=
  plain.turns []

@[simp] theorem isPlain_append :
    IsPlain (first ++ second) ↔ IsPlain first ∧ IsPlain second := by
  simp only [IsPlain, lacks_append]
  exact forall₂_and

theorem IsPlain.lower (plain : IsPlain text) : IsPlain (Text.lower text) :=
  fun mark mem => (plain mark mem).lower (isMark_of_mem_brackets mark mem)

theorem IsPlain.literal (plain : IsPlain text) : IsPlain (literal text) := by
  have quotes : ∀ mark ∈ brackets, mark ≠ '\x27' ∧ mark ≠ '\x5c' :=
    forall_brackets (by decide)
  exact fun mark mem =>
    (lacks_literal (quotes mark mem).1 (quotes mark mem).2).mpr (plain mark mem)

theorem IsBalanced.append (balanced : IsBalanced first) (balanced' : IsBalanced second) :
    IsBalanced (first ++ second) :=
  Turns.append balanced balanced'

theorem IsBalanced.enclosed {opening closing : String} (balanced : IsBalanced text)
    (opens : Turns opening [] due) (closes : Turns closing due []) :
    IsBalanced (opening ++ text ++ closing) :=
  (opens.append (balanced.turns due)).append closes

theorem turns_parenthesis : Turns ")" [')'] [] := by
  decide

theorem isBalanced_comma : IsBalanced ", " := by
  decide

theorem isBalanced_intercalate {separator : String} {texts : List String}
    (between : IsBalanced separator) (balanced : ∀ text ∈ texts, IsBalanced text) :
    IsBalanced (separator.intercalate texts) := by
  induction texts with
  | nil => rfl
  | cons text texts ih =>
    obtain ⟨here, later⟩ := List.forall_mem_cons.mp balanced
    cases texts with
    | nil => rwa [String.intercalate_singleton]
    | cons next texts =>
      rw [String.intercalate_cons_cons]
      exact (here.append between).append (ih later)

end Turns

end Text

namespace Document

/-- What the lines of a document do to the brackets that are due, one after another. A block opens a
brace with its header and closes it behind its body. -/
inductive Turns : Document → List Char → List Char → Prop
  | nil {due : List Char} : Turns nil due due
  | line {text : String} {rest : Document} {due between after : List Char} :
    Text.Turns text due between → Turns rest between after → Turns (line text rest) due after
  | blank {rest : Document} {due after : List Char} : Turns rest due after →
    Turns (blank rest) due after
  | indent {body rest : Document} {due between after : List Char} :
    Turns body due between → Turns rest between after → Turns (indent body rest) due after
  | block {header : String} {body rest : Document} {due between closed after : List Char} :
    Text.Turns header due between → Turns body ('\x7d' :: between) ('\x7d' :: closed) →
    Turns rest closed after → Turns (block header body rest) due after

def IsBalanced (document : Document) : Prop :=
  document.Turns [] []

theorem turns_pushLine {output unit text : String} {start due after : List Char}
    (before : Text.Turns output start due) (margin : Text.IsPlain unit)
    (turns : Text.Turns text due after) (level : Nat) :
    Text.Turns (pushLine output unit level text) start after := by
  have units : Text.Turns (Nat.repeat (· ++ unit) level output) start due := by
    induction level with
    | zero => exact before
    | succ level ih => exact ih.append (margin.turns due)
  have ending : Text.IsPlain (String.singleton '\n') := by decide
  rw [pushLine, String.push_eq_append]
  exact (units.append turns).append (ending.turns after)

section Turns

variable {document body rest first second addition : Document} {due between after : List Char}

/-- The text of a document does what the document does. -/
theorem Turns.rendered (turns : document.Turns due after) {output unit : String}
    {start : List Char} (before : Text.Turns output start due) (margin : Text.IsPlain unit)
    (level : Nat) : Text.Turns (document.renderFrom unit level output) start after := by
  induction turns generalizing level output with
  | nil => exact before
  | line here _ ih => exact ih (turns_pushLine before margin here level) level
  | blank _ ih =>
    have ending : Text.IsPlain (String.singleton '\n') := by decide
    rw [renderFrom, String.push_eq_append]
    exact ih (before.append (ending.turns _)) level
  | indent _ _ inner ih => exact ih (inner before (level + 1)) level
  | @block header body rest due between closed after here _ _ inner ih =>
    -- the brace behind the header is due until the body ends
    have brace : Text.Turns " \x7b" [] ['\x7d'] := by decide
    have closing : Text.Turns "\x7d" ['\x7d'] [] := by decide
    have opening : Text.Turns " \x7b" between ('\x7d' :: between) := brace.inside between
    have ending : Text.Turns "\x7d" ('\x7d' :: closed) closed := closing.inside closed
    have opened := turns_pushLine before margin (here.append opening) level
    have filled := inner opened (level + 1)
    exact ih (turns_pushLine filled margin ending level) level

theorem IsBalanced.render (balanced : document.IsBalanced) {unit : String}
    (margin : Text.IsPlain unit) : Text.IsBalanced (document.render unit) :=
  Turns.rendered balanced (show Text.Turns "" [] [] from rfl) margin 0

theorem Turns.inside (turns : document.Turns due after) (outer : List Char) :
    document.Turns (due ++ outer) (after ++ outer) := by
  induction turns with
  | nil => exact .nil
  | line here _ ih => exact .line (here.inside outer) ih
  | blank _ ih => exact .blank ih
  | indent _ _ inner ih => exact .indent inner ih
  | block here _ _ inner ih => exact .block (here.inside outer) inner ih

theorem IsBalanced.turns (balanced : document.IsBalanced) (due : List Char) :
    document.Turns due due :=
  Turns.inside balanced due

theorem Turns.append (turns : first.Turns due between) (turns' : second.Turns between after) :
    (first ++ second).Turns due after := by
  induction turns with
  | nil => exact turns'
  | line here _ ih => exact .line here (ih turns')
  | blank _ ih => exact .blank (ih turns')
  | indent inside _ _ ih => exact .indent inside (ih turns')
  | block here inside _ _ ih => exact .block here inside (ih turns')

theorem isBalanced_line {text : String} (balanced : Text.IsBalanced text)
    (later : rest.IsBalanced) : (line text rest).IsBalanced :=
  .line balanced later

theorem isBalanced_block {header : String} (balanced : Text.IsBalanced header)
    (inside : body.IsBalanced) (later : rest.IsBalanced) :
    (block header body rest).IsBalanced :=
  .block balanced (inside.turns _) later

theorem isBalanced_call {name header : String} {passage : Document} (plain : Text.IsPlain name)
    (inside : passage.IsBalanced) (closes : Text.Turns header [')'] [])
    (inner : body.IsBalanced) (later : rest.IsBalanced) :
    (line (name ++ "(") (indent passage (block header body rest))).IsBalanced := by
  have opens : Text.Turns (name ++ "(") [] [')'] := (plain.turns []).append (by decide)
  exact .line opens (.indent (inside.turns [')']) (.block closes (inner.turns _) later))

theorem isBalanced_of_lacks (lacks : ∀ mark ∈ Text.brackets, document.Lacks mark) :
    document.IsBalanced := by
  have plain : ∀ text ∈ document.texts, Text.IsPlain text := fun text mem mark bracket =>
    lacks mark bracket text mem
  clear lacks
  induction document with
  | nil => exact .nil
  | line text rest ih =>
    obtain ⟨here, later⟩ := List.forall_mem_cons.mp plain
    exact isBalanced_line here.isBalanced (ih later)
  | blank rest ih => exact .blank (ih plain)
  | indent body rest inner ih =>
    obtain ⟨inside, later⟩ := List.forall_mem_append.mp plain
    exact .indent (inner inside) (ih later)
  | block header body rest inner ih =>
    obtain ⟨here, others⟩ := List.forall_mem_cons.mp plain
    obtain ⟨inside, later⟩ := List.forall_mem_append.mp others
    exact isBalanced_block here.isBalanced (inner inside) (ih later)

theorem isBalanced_ofLines {lines : List String} (balanced : ∀ text ∈ lines, Text.IsBalanced text) :
    (ofLines lines).IsBalanced := by
  induction lines with
  | nil => exact .nil
  | cons text lines ih =>
    obtain ⟨here, later⟩ := List.forall_mem_cons.mp balanced
    exact isBalanced_line here (ih later)

theorem isBalanced_pushSection (balanced : document.IsBalanced) (balanced' : addition.IsBalanced) :
    (document.pushSection addition).IsBalanced := by
  unfold pushSection
  split
  · exact balanced
  · split
    · exact balanced'
    · exact Turns.append balanced (.blank balanced')

theorem isBalanced_separated {groups : List Document}
    (balanced : ∀ group ∈ groups, group.IsBalanced) : (separated groups).IsBalanced := by
  induction groups with
  | nil => exact .nil
  | cons group groups ih =>
    obtain ⟨here, later⟩ := List.forall_mem_cons.mp balanced
    rw [separated_cons]
    exact isBalanced_pushSection here (ih later)

end Turns

end Document

end RestGraph
