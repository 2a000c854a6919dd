import Mathlib.Algebra.GroupWithZero.Nat
import Mathlib.Data.List.Chain
import RestGraph.Proofs.BoundNames
import RestGraph.Proofs.ClassRecovery
import RestGraph.Proofs.FragmentUse
import RestGraph.Proofs.Sections
import RestGraph.Proofs.SingleLines
/-!
The empty lines of the generated texts. The lines of a text stand in groups with one empty line
between each two of them, and there is none at its start, at its end or anywhere else: an empty name
makes a line of indentation alone, and a class without properties has no lines to keep apart.
-/

set_option autoImplicit false

namespace RestGraph

namespace Document

def Row.isGap : Row → Bool
  | .text level content => level == 0 && content.isEmpty
  | .empty => true

theorem Row.chars_eq_nil_iff {unit : String} (filled : 0 < unit.length) (row : Row) :
    row.chars unit = [] ↔ row.isGap = true := by
  cases row with
  | empty => exact iff_of_true rfl rfl
  | text level content =>
    have indented : unit.toList ≠ [] := by
      rwa [← List.length_pos_iff, String.length_toList]
    cases level with
    | zero => simp [chars, isGap]
    | succ level => simp [chars, isGap, List.replicate_succ, indented]

/-- Rows in groups, with one empty row between each two groups and none in a group. -/
inductive Grouped : List Row → Nat → Prop
  | last {rows : List Row} : rows ≠ [] → (∀ row ∈ rows, row.isGap = false) → Grouped rows 0
  | more {rows others : List Row} {gaps : Nat} : rows ≠ [] → (∀ row ∈ rows, row.isGap = false) →
    Grouped others gaps → Grouped (rows ++ .empty :: others) (gaps + 1)

namespace Grouped

variable {rows others : List Row} {gaps further : Nat}

theorem exists_head (grouped : Grouped rows gaps) :
    ∃ first rest, rows = first :: rest ∧ first.isGap = false := by
  cases grouped with
  | last filled solid | more filled solid _ =>
    obtain ⟨first, rest, rfl⟩ := List.exists_cons_of_ne_nil filled
    exact ⟨first, _, rfl, solid first List.mem_cons_self⟩

theorem ne_nil (grouped : Grouped rows gaps) : rows ≠ [] := by
  obtain ⟨first, rest, rfl, -⟩ := grouped.exists_head
  exact List.cons_ne_nil first rest

theorem join (grouped : Grouped rows gaps) (after : Grouped others further) :
    Grouped (rows ++ .empty :: others) (gaps + further + 1) := by
  induction grouped with
  | last filled solid =>
    rw [Nat.zero_add]
    exact .more filled solid after
  | more filled solid _ ih =>
    rw [List.append_assoc, List.cons_append, Nat.add_right_comm _ 1]
    exact .more filled solid ih

theorem prepend (grouped : Grouped rows gaps) {before : List Row}
    (solid : ∀ row ∈ before, row.isGap = false) : Grouped (before ++ rows) gaps := by
  cases grouped with
  | last filled inside =>
    exact .last (List.append_ne_nil_of_right_ne_nil _ filled)
      (List.forall_mem_append.mpr ⟨solid, inside⟩)
  | more filled inside others =>
    rw [← List.append_assoc]
    exact .more (List.append_ne_nil_of_right_ne_nil _ filled)
      (List.forall_mem_append.mpr ⟨solid, inside⟩) others

theorem append (grouped : Grouped rows gaps) {after : List Row}
    (solid : ∀ row ∈ after, row.isGap = false) : Grouped (rows ++ after) gaps := by
  induction grouped with
  | last filled inside =>
    exact .last (List.append_ne_nil_of_left_ne_nil filled _)
      (List.forall_mem_append.mpr ⟨inside, solid⟩)
  | more filled inside _ ih =>
    rw [List.append_assoc]
    exact .more filled inside ih

theorem isChain (grouped : Grouped rows gaps) :
    rows.IsChain fun first second => ¬ (first.isGap = true ∧ second.isGap = true) := by
  have apart {rows : List Row} (solid : ∀ row ∈ rows, row.isGap = false) :
      rows.IsChain fun first second => ¬ (first.isGap = true ∧ second.isGap = true) := by
    apply List.Pairwise.isChain
    refine List.pairwise_of_forall_mem_list fun first mem second _ both => ?_
    rw [solid first mem] at both
    cases both.1
  induction grouped with
  | last _ solid => exact apart solid
  | @more rows others _ _ solid after ih =>
    obtain ⟨first, rest, rfl, filled⟩ := after.exists_head
    refine List.isChain_append.mpr ⟨apart solid, List.isChain_cons_cons.mpr ⟨?_, ih⟩, ?_⟩
    · simp [filled]
    · intro row last _ _ both
      rw [solid row (List.mem_of_getLast? last)] at both
      cases both.1

theorem countP_isGap (grouped : Grouped rows gaps) : rows.countP Row.isGap = gaps := by
  have none {rows : List Row} (solid : ∀ row ∈ rows, row.isGap = false) :
      rows.countP Row.isGap = 0 :=
    List.countP_eq_zero.mpr fun row mem => by simp [solid row mem]
  induction grouped with
  | last _ solid => exact none solid
  | more _ solid _ ih =>
    rw [List.countP_append, none solid, List.countP_cons_of_pos rfl, ih, Nat.zero_add]

end Grouped

def Unbroken : Document → Prop
  | nil => True
  | line _ rest => rest.Unbroken
  | blank _ => False
  | indent body rest => body.Unbroken ∧ rest.Unbroken
  | block _ body rest => body.Unbroken ∧ rest.Unbroken

theorem Unbroken.solid {document : Document} (unbroken : document.Unbroken) (level : Nat) :
    ∀ row ∈ document.rows (level + 1), row.isGap = false := by
  induction document generalizing level with
  | nil => exact nofun
  | line text rest ih => exact List.forall_mem_cons.mpr ⟨rfl, ih unbroken level⟩
  | blank rest => exact unbroken.elim
  | indent body rest inner ih =>
    exact List.forall_mem_append.mpr ⟨inner unbroken.1 _, ih unbroken.2 level⟩
  | block header body rest inner ih =>
    have behind : ∀ row ∈ Row.text (level + 1) "\x7d" :: rest.rows (level + 1),
        row.isGap = false :=
      List.forall_mem_cons.mpr ⟨rfl, ih unbroken.2 level⟩
    exact List.forall_mem_cons.mpr
      ⟨rfl, List.forall_mem_append.mpr ⟨inner unbroken.1 _, behind⟩⟩

theorem unbroken_ofLines (lines : List String) : (ofLines lines).Unbroken := by
  induction lines with
  | nil => trivial
  | cons line lines ih => exact ih

theorem unbroken_commaSeparated (items : List String) : (commaSeparated items).Unbroken := by
  induction items with
  | nil => trivial
  | cons item rest ih =>
    cases rest with
    | nil => trivial
    | cons next rest => exact ih

/-- A document in groups of lines that ends with the brace of a block. -/
structure IsSection (document : Document) (gaps : Nat) : Prop where
  grouped : Grouped (document.rows 0) gaps
  closed : (document.rows 0).getLast? = some (.text 0 "\x7d")

section Sections

variable {document addition body rest : Document} {gaps further : Nat}

theorem getLast?_rows_block (header : String) :
    ((block header body nil).rows 0).getLast? = some (.text 0 "\x7d") := by
  rw [rows, ← List.cons_append]
  exact List.getLast?_concat

theorem isSection_block (header : String) (grouped : Grouped (body.rows 1) gaps) :
    (block header body nil).IsSection gaps := by
  have opening : ∀ row ∈ [Row.text 0 (header ++ " \x7b")], row.isGap = false := by
    simp [Row.isGap]
  exact ⟨(grouped.append (by decide)).prepend opening, getLast?_rows_block header⟩

theorem isSection_block_of_unbroken (header : String) (unbroken : body.Unbroken) :
    (block header body nil).IsSection 0 := by
  have inside : ∀ row ∈ body.rows 1 ++ [Row.text 0 "\x7d"], row.isGap = false :=
    List.forall_mem_append.mpr ⟨unbroken.solid 0, by decide⟩
  have opening : (Row.text 0 (header ++ " \x7b")).isGap = false := by simp [Row.isGap]
  exact ⟨.last (List.cons_ne_nil _ _) (List.forall_mem_cons.mpr ⟨opening, inside⟩),
    getLast?_rows_block header⟩

theorem IsSection.line {text : String} (filled : text ≠ "") (next : rest.IsSection gaps) :
    (line text rest).IsSection gaps := by
  have solid : ∀ row ∈ [Row.text 0 text], row.isGap = false := by simp [Row.isGap, filled]
  refine ⟨next.grouped.prepend solid, ?_⟩
  rw [rows, List.getLast?_cons, next.closed, Option.getD_some]

theorem IsSection.indent (unbroken : body.Unbroken) (next : rest.IsSection gaps) :
    (indent body rest).IsSection gaps := by
  refine ⟨next.grouped.prepend (unbroken.solid 0), ?_⟩
  rw [rows, List.getLast?_append, next.closed, Option.some_or]

theorem IsSection.isEmpty (here : document.IsSection gaps) : document.isEmpty = false := by
  cases document with
  | nil => exact absurd rfl here.grouped.ne_nil
  | line _ _ | blank _ | indent _ _ | block _ _ _ => rfl

theorem IsSection.pushSection (before : document.IsSection gaps)
    (next : addition.IsSection further) :
    (document.pushSection addition).IsSection (gaps + further + 1) := by
  have joined := pushSection_of_filled before.isEmpty next.isEmpty
  refine ⟨?_, ?_⟩
  · rw [joined, rows_append]
    exact before.grouped.join next.grouped
  · rw [joined, rows_append, rows, List.getLast?_append, List.getLast?_cons, next.closed]
    rfl

theorem IsSection.foldl_pushSection {α : Type} {layout : α → Document} {sectionGaps : α → Nat}
    {items : List α} (before : document.IsSection gaps)
    (sections : ∀ item ∈ items, (layout item).IsSection (sectionGaps item)) :
    (items.foldl (fun document item => document.pushSection (layout item)) document).IsSection
      (gaps + items.length + (items.map sectionGaps).sum) := by
  induction items generalizing document gaps with
  | nil => exact before
  | cons item items ih =>
    obtain ⟨here, later⟩ := List.forall_mem_cons.mp sections
    have whole := ih (before.pushSection here) later
    have total : gaps + sectionGaps item + 1 + items.length + (items.map sectionGaps).sum =
        gaps + (item :: items).length + ((item :: items).map sectionGaps).sum := by
      rw [List.length_cons, List.map_cons, List.sum_cons]
      omega
    rwa [total] at whole

end Sections

end Document

theorem Selection.unbroken_document (selection : Selection) : selection.document.Unbroken := by
  induction selection with
  | nil => trivial
  | field name rest ih | spread name rest ih => exact ih
  | nested name body rest inner ih => exact ⟨inner, ih⟩

namespace Query

theorem isSection_operationDocument (query : Query) : query.operationDocument.IsSection 0 := by
  have selection := query.selection.unbroken_document
  unfold operationDocument
  split
  · exact Document.isSection_block_of_unbroken _ ⟨selection, trivial⟩
  · refine .line (by simp) (.indent (Document.unbroken_commaSeparated _) ?_)
    exact Document.isSection_block_of_unbroken _
      ⟨Document.unbroken_commaSeparated _, selection, trivial⟩

theorem isSection_document (query : Query) :
    query.document.IsSection query.fragments.length := by
  have operation : (Document.nil.pushSection query.operationDocument).IsSection 0 := by
    rw [Document.nil_pushSection]
    exact query.isSection_operationDocument
  have fragments : ∀ fragment ∈ query.fragments, fragment.document.IsSection 0 :=
    fun fragment _ => Document.isSection_block_of_unbroken _ fragment.selection.unbroken_document
  have whole := operation.foldl_pushSection fragments
  have none : (query.fragments.map fun _ => 0).sum = 0 := by simp
  rwa [none, Nat.zero_add, Nat.add_zero] at whole

end Query

theorem Resolver.isSection_document (resolver : Resolver) : resolver.document.IsSection 0 :=
  .line (by simp) (Document.isSection_block_of_unbroken _
    ⟨Document.unbroken_ofLines _, Document.unbroken_ofLines _, trivial⟩)

namespace Declaration

theorem grouped_separated (property : Property) (rest : List Property) :
    Document.Grouped
      ((Document.separated ((property :: rest).map Property.document)).rows 1) rest.length := by
  have lines : ∀ row ∈ [Document.Row.text 1 property.decorator, .text 1 property.declaration],
      row.isGap = false := by
    simp [Document.Row.isGap]
  induction rest generalizing property with
  | nil =>
    rw [separated_cons]
    exact .last (List.cons_ne_nil _ _) lines
  | cons next rest ih =>
    rw [separated_cons]
    exact .more (List.cons_ne_nil _ _) lines (ih next (by simp [Document.Row.isGap]))

theorem isSection_document (declaration : Declaration) :
    declaration.document.IsSection (declaration.properties.length - 1) := by
  obtain ⟨role, name, properties⟩ := declaration
  have decorator : role.decorator ≠ "" := by cases role <;> decide
  refine .line decorator ?_
  cases properties with
  | nil => exact Document.isSection_block_of_unbroken _ trivial
  | cons property rest => exact Document.isSection_block _ (grouped_separated property rest)

theorem isSection_documentOf (first : Declaration) (others : List Declaration) :
    (documentOf (first :: others)).IsSection (first.properties.length - 1 + others.length +
      (others.map fun declaration => declaration.properties.length - 1).sum) := by
  have start : (Document.nil.pushSection first.document).IsSection
      (first.properties.length - 1) := by
    rw [Document.nil_pushSection]
    exact first.isSection_document
  exact start.foldl_pushSection fun declaration _ => declaration.isSection_document

end Declaration

/-- The layout of a finished text: it begins with a line that is not empty, ends with a closing
brace and one line feed, has no two empty lines in a row, and has the given number of them. -/
structure Text.IsLaidOut (text : String) (gaps : Nat) : Prop where
  opening : ∃ first rest, lines text = first :: rest ∧ first ≠ []
  closing : ∃ before, text.toList = before ++ ['\x7d', '\n']
  apart : (lines text).IsChain fun first second => ¬ (first = [] ∧ second = [])
  total : (lines text).count [] = gaps

theorem Document.IsSection.isLaidOut {options : Options} (accepted : options.check = .ok ())
    {document : Document} {gaps : Nat} (here : document.IsSection gaps)
    (lacks : document.Lacks '\n') : Text.IsLaidOut (document.render options.indent) gaps := by
  obtain ⟨filled, blank⟩ := Options.indent_of_check accepted
  have written := lines_render blank lacks
  have empty := Row.chars_eq_nil_iff filled
  refine ⟨?_, ?_, ?_, ?_⟩
  · obtain ⟨first, rest, rows, solid⟩ := here.grouped.exists_head
    refine ⟨first.chars options.indent, rest.map (Row.chars options.indent), ?_, ?_⟩
    · rw [written, rows, List.map_cons]
    · rw [Ne, empty, solid]
      exact Bool.false_ne_true
  · obtain ⟨before, rows⟩ := List.getLast?_eq_some_iff.mp here.closed
    refine ⟨(before.map (Row.chars options.indent)).flatMap fun line => line ++ ['\n'], ?_⟩
    rw [toList_render, rows, List.map_append, List.flatMap_append]
    rfl
  · rw [written, List.isChain_map]
    simpa only [empty] using here.grouped.isChain
  · rw [written, List.count_eq_countP, List.countP_map, ← here.grouped.countP_isGap]
    refine List.countP_congr fun row _ => ?_
    rw [Function.comp_apply, beq_iff_eq, empty]

namespace Endpoint

theorem check_of_generate {options : Options} {endpoint : Endpoint} {artifacts : Artifacts}
    (generated : endpoint.generate options = .ok artifacts) : options.check = .ok () := by
  rw [generate] at generated
  split at generated
  · cases generated
  · assumption

/-- The layout of the generated texts. The query has an empty line in front of each fragment, the
resolver has none, and the classes have one in front of each class of a record and one between each
two properties of a class. -/
theorem artifacts_laid_out {options : Options} {endpoint : Endpoint} {artifacts : Artifacts}
    (generated : endpoint.generate options = .ok artifacts) (lacks : endpoint.Lacks '\n') :
    let records := endpoint.response.recordPlaces (Naming.responseType endpoint.name)
    Text.IsLaidOut artifacts.query (Query.ofEndpoint options endpoint).fragments.length ∧
    Text.IsLaidOut artifacts.resolver 0 ∧
    Text.IsLaidOut artifacts.typeDefs (records.length + ((endpoint.parameters.length - 1) +
      (records.map fun place => place.fields.size - 1).sum)) := by
  intro records
  have accepted := check_of_generate generated
  rw [eq_artifacts_of_generate generated]
  have query := (Query.ofEndpoint options endpoint).isSection_document
  have resolver := (Resolver.ofEndpoint options endpoint).isSection_document
  have classes := Declaration.isSection_documentOf
    (.ofParameters (Naming.paramsType endpoint.name) endpoint.parameters)
    (records.map Declaration.ofPlace)
  have properties : ((records.map Declaration.ofPlace).map
      fun declaration => declaration.properties.length - 1) =
        records.map fun place => place.fields.size - 1 := by
    simp [Declaration.ofPlace, Shape.size, Function.comp_def]
  rw [properties, Declaration.ofParameters, List.length_map, List.length_map,
    Nat.add_comm (_ - 1), Nat.add_assoc] at classes
  exact ⟨query.isLaidOut accepted (lacks.query options),
    resolver.isLaidOut accepted (lacks.resolver options), classes.isLaidOut accepted lacks.classes⟩

theorem report_laid_out :
    report.generate {} = .ok (report.artifacts {}) ∧ report.Lacks '\n' ∧
      Text.IsLaidOut (report.queryText {}) 3 ∧ Text.IsLaidOut (report.resolverText {}) 0 ∧
        Text.IsLaidOut (report.typeDefsText {}) 8 := by
  have generated := report.generate_eq_ok {} (by decide +kernel) (by decide +kernel)
  have lacks : report.Lacks '\n' := ⟨by decide, by decide, by decide, by decide⟩
  obtain ⟨query, resolver, classes⟩ := artifacts_laid_out generated lacks
  exact ⟨generated, lacks, query, resolver, classes⟩

end Endpoint

end RestGraph
