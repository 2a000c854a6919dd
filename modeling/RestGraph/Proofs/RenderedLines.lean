import Mathlib.Data.List.Basic
import RestGraph.Document
import RestGraph.Options
/-!
The lines of a rendered document. Each row of a document becomes one line of the text. As long as no
text in the document begins like an indentation, the rows are read back from the text with their
levels, and the unit of indentation is seen in the margins of the lines alone.
-/

set_option autoImplicit false

namespace RestGraph

namespace Text

/-- The lines of a text, each of which a line feed ends. What follows the last one is no line. -/
def lines (text : String) : List (List Char) :=
  (text.toList.splitOn '\n').dropLast

def isMargin (c : Char) : Bool :=
  c == ' ' || c == '\t'

/-- A text that stands on one line and does not begin like an indentation. -/
def IsFlush (text : String) : Prop :=
  '\n' ∉ text.toList ∧ text.toList.head? ∉ [none, some ' ', some '\t']

instance (text : String) : Decidable (IsFlush text) :=
  inferInstanceAs (Decidable (_ ∧ _))

theorem splitOn_append_line {line : List Char} (single : '\n' ∉ line) (rest : List Char) :
    (line ++ '\n' :: rest).splitOn '\n' = line :: rest.splitOn '\n' := by
  have inside : ∀ c ∈ line, (c == '\n') = false := by
    intro c mem
    rw [beq_eq_false_iff_ne]
    rintro rfl
    exact single mem
  rw [List.splitOn_eq_splitOnP, List.splitOn_eq_splitOnP,
    List.splitOnP_append_cons_of_forall_mem inside '\n' (by simp)]

theorem splitOn_flatMap_line {lines : List (List Char)} (single : ∀ line ∈ lines, '\n' ∉ line) :
    (lines.flatMap fun line => line ++ ['\n']).splitOn '\n' = lines ++ [[]] := by
  induction lines with
  | nil => rfl
  | cons line lines ih =>
    obtain ⟨first, others⟩ := List.forall_mem_cons.mp single
    rw [List.flatMap_cons, List.append_assoc, List.singleton_append, splitOn_append_line first,
      ih others, List.cons_append]

theorem lines_of_ended {text : String} {written : List (List Char)}
    (ended : text.toList = written.flatMap fun line => line ++ ['\n'])
    (single : ∀ line ∈ written, '\n' ∉ line) : lines text = written := by
  rw [lines, ended, splitOn_flatMap_line single, List.dropLast_concat]

theorem IsFlush.ne_nil {text : String} (flush : IsFlush text) : text.toList ≠ [] := by
  intro empty
  apply flush.2
  rw [empty]
  exact List.mem_cons_self

theorem IsFlush.head {text : String} (flush : IsFlush text) :
    ∃ first rest, text.toList = first :: rest ∧ isMargin first = false := by
  cases chars : text.toList with
  | nil => exact absurd chars flush.ne_nil
  | cons first rest =>
    refine ⟨first, rest, rfl, ?_⟩
    have apart := flush.2
    rw [chars] at apart
    simpa [isMargin] using apart

theorem IsFlush.dropWhile_margin {text : String} (flush : IsFlush text) {margin : List Char}
    (blank : ∀ c ∈ margin, isMargin c = true) :
    (margin ++ text.toList).dropWhile isMargin = text.toList := by
  obtain ⟨first, rest, chars, solid⟩ := flush.head
  rw [List.dropWhile_append_of_pos blank, chars, List.dropWhile_cons_of_neg (by simp [solid])]

theorem IsFlush.takeWhile_margin {text : String} (flush : IsFlush text) {margin : List Char}
    (blank : ∀ c ∈ margin, isMargin c = true) :
    (margin ++ text.toList).takeWhile isMargin = margin := by
  obtain ⟨first, rest, chars, solid⟩ := flush.head
  rw [List.takeWhile_append_of_pos blank, chars, List.takeWhile_cons_of_neg (by simp [solid]),
    List.append_nil]

theorem IsFlush.opening {text : String} (flush : IsFlush text) : IsFlush (text ++ " \x7b") := by
  obtain ⟨first, rest, chars, solid⟩ := flush.head
  refine ⟨?_, ?_⟩
  · simpa [String.toList_append] using flush.1
  · have apart := flush.2
    simpa [String.toList_append, chars] using apart

end Text

open Text (IsFlush isMargin)

theorem Options.indent_of_check {options : Options} (accepted : options.check = .ok ()) :
    0 < options.indent.length ∧ ∀ c ∈ options.indent.toList, isMargin c = true := by
  unfold check at accepted
  split at accepted
  · cases accepted
  rename_i filled
  split at accepted
  · cases accepted
  split at accepted
  · cases accepted
  rename_i invisible
  refine ⟨?_, ?_⟩
  · rw [← String.length_toList]
    simpa [List.length_pos_iff] using filled
  · simpa [isMargin, or_iff_not_imp_left] using invisible

namespace Document

/-- A line of the finished text: a text at a level of indentation, or an empty line. -/
inductive Row where
  | text (level : Nat) (content : String)
  | empty
  deriving DecidableEq

def rows (level : Nat) : Document → List Row
  | nil => []
  | line text rest => .text level text :: rest.rows level
  | blank rest => .empty :: rest.rows level
  | indent body rest => body.rows (level + 1) ++ rest.rows level
  | block header body rest =>
    .text level (header ++ " \x7b") :: (body.rows (level + 1) ++
      .text level "\x7d" :: rest.rows level)

def texts : Document → List String
  | nil => []
  | line text rest => text :: rest.texts
  | blank rest => rest.texts
  | indent body rest => body.texts ++ rest.texts
  | block header body rest => header :: (body.texts ++ rest.texts)

/-- The number of lines that are written: one for each line and each empty line, and two around the
body of each block. -/
def lineTotal : Document → Nat
  | nil => 0
  | line _ rest => 1 + rest.lineTotal
  | blank rest => 1 + rest.lineTotal
  | indent body rest => body.lineTotal + rest.lineTotal
  | block _ body rest => 2 + body.lineTotal + rest.lineTotal

def IsFlush (document : Document) : Prop :=
  ∀ text ∈ document.texts, Text.IsFlush text

instance (document : Document) : Decidable document.IsFlush :=
  inferInstanceAs (Decidable (∀ text ∈ document.texts, Text.IsFlush text))

namespace Row

def chars (unit : String) : Row → List Char
  | .text level content => (List.replicate level unit.toList).flatten ++ content.toList
  | .empty => []

/-- Reads a line: how often the unit of indentation fits into its margin is its level. -/
def ofChars (unit : String) (line : List Char) : Row :=
  if line.isEmpty then .empty
  else .text ((line.takeWhile isMargin).length / unit.length)
    (String.ofList (line.dropWhile isMargin))

def Holds (property : String → Prop) : Row → Prop
  | .text _ content => property content
  | .empty => True

section Margins

variable {unit : String} {row : Row}

theorem blank_margin (blank : ∀ c ∈ unit.toList, isMargin c = true) (level : Nat) :
    ∀ c ∈ (List.replicate level unit.toList).flatten, isMargin c = true := by
  intro c mem
  obtain ⟨copy, copyMem, inside⟩ := List.mem_flatten.mp mem
  obtain rfl := List.eq_of_mem_replicate copyMem
  exact blank c inside

theorem single_chars (blank : ∀ c ∈ unit.toList, isMargin c = true)
    (single : row.Holds fun content => '\n' ∉ content.toList) : '\n' ∉ row.chars unit := by
  cases row with
  | text level content =>
    intro mem
    rcases List.mem_append.mp mem with margin | inside
    · exact absurd (blank_margin blank level _ margin) (by decide)
    · exact single inside
  | empty => exact List.not_mem_nil

theorem ofChars_chars (filled : 0 < unit.length) (blank : ∀ c ∈ unit.toList, isMargin c = true)
    (flush : row.Holds Text.IsFlush) : ofChars unit (row.chars unit) = row := by
  cases row with
  | empty => rfl
  | text level content =>
    have flush : Text.IsFlush content := flush
    have margin := blank_margin blank level
    have written : ((List.replicate level unit.toList).flatten ++ content.toList).isEmpty =
        false := by
      simp [flush.ne_nil]
    have width : ((List.replicate level unit.toList).flatten).length = level * unit.length := by
      rw [List.length_flatten, List.map_replicate, List.sum_replicate_nat, String.length_toList]
    rw [ofChars, chars, written, flush.takeWhile_margin margin, flush.dropWhile_margin margin,
      width, Nat.mul_div_cancel level filled, String.ofList_toList]
    rfl

theorem dropWhile_chars (blank : ∀ c ∈ unit.toList, isMargin c = true)
    (flush : row.Holds Text.IsFlush) :
    (row.chars unit).dropWhile isMargin =
      match row with
      | .text _ content => content.toList
      | .empty => [] := by
  cases row with
  | empty => rfl
  | text level content =>
    have flush : Text.IsFlush content := flush
    exact flush.dropWhile_margin (blank_margin blank level)

end Margins

end Row

theorem rows_append (level : Nat) (first second : Document) :
    (first ++ second).rows level = first.rows level ++ second.rows level := by
  show (first.append second).rows level = _
  induction first generalizing level <;> simp_all [append, rows]

section Writing

variable (unit : String)

theorem toList_units (output : String) (level : Nat) :
    (Nat.repeat (· ++ unit) level output).toList =
      output.toList ++ (List.replicate level unit.toList).flatten := by
  induction level with
  | zero => exact (List.append_nil _).symm
  | succ level ih =>
    rw [Nat.repeat, String.toList_append, ih, List.replicate_succ', List.flatten_append,
      List.flatten_singleton, List.append_assoc]

theorem toList_pushLine (output : String) (level : Nat) (text : String) :
    (pushLine output unit level text).toList =
      output.toList ++ ((Row.text level text).chars unit ++ ['\n']) := by
  rw [pushLine, String.toList_push, String.toList_append, toList_units, Row.chars]
  simp only [List.append_assoc]

/-- What is written behind other lines are the rows, one after another. -/
theorem toList_renderFrom (level : Nat) (output : String) (document : Document) :
    (document.renderFrom unit level output).toList = output.toList ++
      ((document.rows level).map (Row.chars unit)).flatMap fun line => line ++ ['\n'] := by
  induction document generalizing level output with
  | nil => exact (List.append_nil _).symm
  | line text rest ih =>
    rw [renderFrom, ih, toList_pushLine, rows, List.map_cons, List.flatMap_cons, List.append_assoc]
  | blank rest ih =>
    rw [renderFrom, ih, String.toList_push, rows, List.map_cons, List.flatMap_cons,
      List.append_assoc]
    rfl
  | indent body rest inner ih =>
    rw [renderFrom, ih, inner, rows, List.map_append, List.flatMap_append, List.append_assoc]
  | block header body rest inner ih =>
    have opened := toList_pushLine unit output level (header ++ " \x7b")
    have closed (filled : String) := toList_pushLine unit filled level "\x7d"
    simp only [renderFrom, ih, closed, inner, opened, rows, List.map_cons, List.map_append,
      List.flatMap_cons, List.flatMap_append, List.append_assoc]

end Writing

theorem toList_render (unit : String) (document : Document) :
    (document.render unit).toList =
      ((document.rows 0).map (Row.chars unit)).flatMap fun line => line ++ ['\n'] :=
  document.toList_renderFrom unit 0 ""

theorem length_rows (level : Nat) (document : Document) :
    (document.rows level).length = document.lineTotal := by
  induction document generalizing level with
  | nil => rfl
  | line text rest ih | blank rest ih =>
    rw [rows, lineTotal, List.length_cons, ih, Nat.add_comm]
  | indent body rest inner ih => rw [rows, lineTotal, List.length_append, inner, ih]
  | block header body rest inner ih =>
    simp only [rows, lineTotal, List.length_cons, List.length_append, inner, ih]
    omega

theorem rows_hold {property : String → Prop} {document : Document}
    (texts : ∀ text ∈ document.texts, property text)
    (opening : ∀ text, property text → property (text ++ " \x7b")) (closing : property "\x7d")
    (level : Nat) : ∀ row ∈ document.rows level, row.Holds property := by
  induction document generalizing level with
  | nil => exact nofun
  | line text rest ih =>
    obtain ⟨here, later⟩ := List.forall_mem_cons.mp texts
    exact List.forall_mem_cons.mpr ⟨here, ih later level⟩
  | blank rest ih => exact List.forall_mem_cons.mpr ⟨trivial, ih texts level⟩
  | indent body rest inner ih =>
    obtain ⟨inside, later⟩ := List.forall_mem_append.mp texts
    exact List.forall_mem_append.mpr ⟨inner inside _, ih later level⟩
  | block header body rest inner ih =>
    obtain ⟨here, others⟩ := List.forall_mem_cons.mp texts
    obtain ⟨inside, later⟩ := List.forall_mem_append.mp others
    have behind : ∀ row ∈ Row.text level "\x7d" :: rest.rows level, row.Holds property :=
      List.forall_mem_cons.mpr ⟨closing, ih later level⟩
    exact List.forall_mem_cons.mpr
      ⟨opening header here, List.forall_mem_append.mpr ⟨inner inside _, behind⟩⟩

theorem IsFlush.rows {document : Document} (flush : document.IsFlush) (level : Nat) :
    ∀ row ∈ document.rows level, row.Holds Text.IsFlush :=
  rows_hold flush (fun _ flush => flush.opening) (by decide) level

theorem lines_render {unit : String} {document : Document}
    (blank : ∀ c ∈ unit.toList, isMargin c = true)
    (single : ∀ text ∈ document.texts, '\n' ∉ text.toList) :
    Text.lines (document.render unit) = (document.rows 0).map (Row.chars unit) := by
  apply Text.lines_of_ended (document.toList_render unit)
  have contents : ∀ row ∈ document.rows 0, row.Holds fun content => '\n' ∉ content.toList :=
    rows_hold single (fun text single => by simpa [String.toList_append] using single)
      (by decide) 0
  intro line mem
  obtain ⟨row, rowMem, rfl⟩ := List.mem_map.mp mem
  exact Row.single_chars blank (contents row rowMem)

theorem map_ofChars_lines {options : Options} (accepted : options.check = .ok ())
    {document : Document} (flush : document.IsFlush) :
    (Text.lines (document.render options.indent)).map (Row.ofChars options.indent) =
      document.rows 0 := by
  obtain ⟨filled, blank⟩ := Options.indent_of_check accepted
  rw [lines_render blank fun text mem => (flush text mem).1, List.map_map]
  conv_rhs => rw [← List.map_id (document.rows 0)]
  exact List.map_congr_left fun row mem => Row.ofChars_chars filled blank (flush.rows 0 row mem)

/-- Rendering is reversible up to layout. The lines of the text are the rows of the document: one
for each line and each empty line and two for each block, each with its content behind as many units
of indentation as its level, and each read back from its line. So flush documents with one text have
the same rows, and another unit of indentation changes nothing but the margins of the lines. -/
theorem rendering_reads_back {options : Options} (accepted : options.check = .ok ())
    {document : Document} (flush : document.IsFlush) :
    let text := document.render options.indent
    let rows := document.rows 0
    rows.length = document.lineTotal ∧
    text.toList = (Text.lines text).flatMap (fun line => line ++ ['\n']) ∧
    Text.lines text = rows.map (Row.chars options.indent) ∧
    (Text.lines text).map (Row.ofChars options.indent) = rows ∧
    (∀ other : Document, other.IsFlush → other.render options.indent = text →
      other.rows 0 = rows) ∧
    ∀ others : Options, others.check = .ok () →
      (Text.lines (document.render others.indent)).map (List.dropWhile isMargin) =
        (Text.lines text).map (List.dropWhile isMargin) := by
  intro text rows
  obtain ⟨-, blank⟩ := Options.indent_of_check accepted
  have single : ∀ text ∈ document.texts, '\n' ∉ text.toList := fun text mem => (flush text mem).1
  have written : Text.lines text = rows.map (Row.chars options.indent) := lines_render blank single
  have back := map_ofChars_lines accepted flush
  refine ⟨length_rows 0 document, ?_, written, back, ?_, ?_⟩
  · rw [written]
    exact document.toList_render options.indent
  · intro other otherFlush same
    rw [← map_ofChars_lines accepted otherFlush, same]
    exact back
  · intro others accepted'
    obtain ⟨-, blank'⟩ := Options.indent_of_check accepted'
    rw [written, lines_render blank' single, List.map_map, List.map_map]
    refine List.map_congr_left fun row mem => ?_
    exact (Row.dropWhile_chars blank' (flush.rows 0 row mem)).trans
      (Row.dropWhile_chars blank (flush.rows 0 row mem)).symm

theorem block_reads_back_as_lines :
    let body : Document := line "id" (blank (line "name" nil))
    let document := block "query r" body nil
    let other := line "query r \x7b" (indent body (line "\x7d" nil))
    let rows : List Row := [.text 0 "query r \x7b", .text 1 "id", .empty, .text 1 "name",
      .text 0 "\x7d"]
    let spaces : Options := {}
    let tabs : Options := { spaces with indent := "\t" }
    (spaces.check = .ok () ∧ tabs.check = .ok () ∧ document.IsFlush ∧ other.IsFlush ∧
      document.render "  " = "query r \x7b\n  id\n\n  name\n\x7d\n" ∧
      other.render "  " = document.render "  ") ∧
    Text.lines (document.render "  ") = rows.map (Row.chars "  ") ∧
    (Text.lines (document.render "  ")).map (Row.ofChars "  ") = rows ∧
    other.rows 0 = rows ∧
    (Text.lines (document.render "\t")).map (List.dropWhile isMargin) =
      (Text.lines (document.render "  ")).map (List.dropWhile isMargin) := by
  intro body document other rows spaces tabs
  have accepted : spaces.check = .ok () := by decide +kernel
  have accepted' : tabs.check = .ok () := by decide +kernel
  have flush : document.IsFlush := by decide
  have flush' : other.IsFlush := by decide
  have text : document.render "  " = "query r \x7b\n  id\n\n  name\n\x7d\n" := by decide +kernel
  have same : other.render "  " = document.render "  " := by decide +kernel
  have listed : document.rows 0 = rows := rfl
  obtain ⟨-, -, written, back, unique, margins⟩ := rendering_reads_back accepted flush
  rw [listed] at written back
  exact ⟨⟨accepted, accepted', flush, flush', text, same⟩, written, back,
    (unique other flush' same).trans listed, margins tabs accepted'⟩

end Document

end RestGraph
