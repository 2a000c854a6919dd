import Mathlib.Data.List.Forall2
import RestGraph.Proofs.ClassLines
/-!
Agreement of the query with the classes. The entries of a fragment and the lines of its class are
read off the same record, so they stand in the same order, and the form of an entry tells what its
field is declared with.
-/

set_option autoImplicit false

namespace RestGraph

namespace Node

def name? : Node → Option String
  | line text => some text
  | block header _ => some header
  | _ => none

def IsBare (node : Node) : Prop :=
  ∃ text, node = .line text ∧ spreadName? text = none

def IsSpreadBlock (node : Node) : Prop :=
  ∃ header name, node = .block header (.line ("..." ++ name) .nil)

def IsNameBlock (names : List String) (node : Node) : Prop :=
  (∃ header, node = .block header (.ofLines names)) ∧ ∀ name ∈ names, spreadName? name = none

end Node

/-- Among classes, given by their headers and bodies, one of a name declares the given fields. -/
def HasClass (classes : List (String × Document)) (typeName : String) (fields : List Field) : Prop :=
  ∃ body, ("export class " ++ typeName, body) ∈ classes ∧ body.DeclaresFields typeName fields

/-- An entry of a selection agrees with the lines for a field in a class. A spread block stands for
a list of the class of elements, a block of names for a record whose class has fields of these
names, and a bare line for scalars. -/
structure Agrees (classes : List (String × Document)) (typeName : String) (entry : Node)
    (field : Field) : Prop where
  name : entry.name? = some field.name
  list : entry.IsSpreadBlock ↔ field.lines typeName =
    referenceLines field.name ("[" ++ typeName ++ field.name ++ "Item]")
      (typeName ++ field.name ++ "Item[]")
  record : (∃ names, entry.IsNameBlock names) ↔ field.lines typeName =
    referenceLines field.name (typeName ++ field.name) (typeName ++ field.name)
  declared : ∀ names, entry.IsNameBlock names → ∃ fields,
    HasClass classes (typeName ++ field.name) fields ∧ fields.map Field.name = names
  bare : entry.IsBare ↔ ∃ kind : Scalar,
    field.lines typeName = scalarLines field.name kind.names.2 ∨
      field.lines typeName =
        referenceLines field.name ("[" ++ kind.names.1 ++ "]") (kind.names.2 ++ "[]")

def Field.elementEntry (field : Field) : Node :=
  match field.value with
  | .scalar _ => .line field.name
  | .scalars _ => .line field.name
  | .record fields => .block field.name (.ofLines fields.names)
  | .records _ => .block field.name (.line ("..." ++ Naming.fragment field.name) .nil)

namespace Selection

theorem document_ofNames (names : List String) : (ofNames names).document = .ofLines names := by
  induction names with
  | nil => rfl
  | cons name names ih => exact congrArg (Document.line name) ih

theorem nodes_ofElement (shape : Shape) :
    (ofElement shape).document.nodes = shape.toList.map Field.elementEntry := by
  induction shape with
  | nil => rfl
  | scalar name kind rest ih => exact congrArg (Node.line name :: ·) ih
  | scalars name kind rest ih => exact congrArg (Node.line name :: ·) ih
  | record name fields rest _ ih =>
    show Node.block name (ofNames fields.names).document :: (ofElement rest).document.nodes = _
    rw [document_ofNames, ih]
    rfl
  | records name element rest _ ih => exact congrArg (Node.block name _ :: ·) ih

theorem names_ofShape (shape : Shape) :
    (ofShape shape).document.nodes.map Node.name? = shape.names.map some := by
  induction shape with
  | nil => rfl
  | scalar name kind rest ih => exact congrArg (some name :: ·) ih
  | scalars name kind rest ih => exact congrArg (some name :: ·) ih
  | record name fields rest _ ih => exact congrArg (some name :: ·) ih
  | records name element rest _ ih => exact congrArg (some name :: ·) ih

end Selection

theorem not_spread_of_ofLines {names : List String} {name : String}
    (plain : ∀ name ∈ names, spreadName? name = none) :
    Document.ofLines names ≠ .line ("..." ++ name) .nil := by
  intro same
  have nodes := congrArg Document.nodes same
  rw [Document.nodes_ofLines] at nodes
  have mem : Node.line ("..." ++ name) ∈ names.map Node.line := by
    rw [nodes]
    exact List.mem_cons_self
  obtain ⟨text, textMem, eq⟩ := List.mem_map.mp mem
  obtain rfl := Node.line.inj eq
  have spread := plain _ textMem
  rw [spreadName?_spread] at spread
  cases spread

theorem ofLines_injective {first second : List String}
    (same : Document.ofLines first = .ofLines second) : first = second := by
  have nodes := congrArg Document.nodes same
  rw [Document.nodes_ofLines, Document.nodes_ofLines] at nodes
  exact List.map_injective_iff.mpr (fun _ _ eq => Node.line.inj eq) nodes

namespace Declaration

theorem getLast?_ofEndpoint (endpoint : Endpoint) :
    (ofEndpoint endpoint).getLast? =
      some (ofPlace ⟨Naming.responseType endpoint.name, "", endpoint.response⟩) := by
  simp [ofEndpoint, Shape.recordPlaces, List.getLast?_cons]

theorem headers_nodup {endpoint : Endpoint} (accepted : endpoint.collision? = none) :
    ((documentOf (ofEndpoint endpoint)).blocks.map Prod.fst).Nodup := by
  have distinct := ((endpoint.collision?_eq_none_iff {}).mp accepted).2
  have headers : (documentOf (ofEndpoint endpoint)).blocks.map Prod.fst =
      ((ofEndpoint endpoint).map name).map ("export class " ++ ·) := by
    rw [blocks_documentOf, List.map_map, List.map_map]
    rfl
  rw [headers]
  exact distinct.map fun _ _ same => (String.append_right_inj _).mp same

theorem getLast?_blocks (endpoint : Endpoint) :
    ∃ body, (documentOf (ofEndpoint endpoint)).blocks.getLast? =
        some ("export class Res" ++ endpoint.name, body) ∧
      body.DeclaresFields ("Res" ++ endpoint.name) endpoint.response.toList := by
  let root : RecordPlace := ⟨Naming.responseType endpoint.name, "", endpoint.response⟩
  have header : (ofPlace root).header = "export class Res" ++ endpoint.name := by
    show "export class " ++ ("Res" ++ endpoint.name) = _
    rw [← String.append_assoc]
    rfl
  refine ⟨(ofPlace root).body, ?_, declaresFields_ofPlace root⟩
  rw [blocks_documentOf, List.getLast?_map, getLast?_ofEndpoint, Option.map_some, header]

theorem hasClass_of_reaches {endpoint : Endpoint} {route : List Step} {target : Shape}
    (reach : endpoint.response.Reaches route target) :
    HasClass (documentOf (ofEndpoint endpoint)).blocks
      (Route.typeName (Naming.responseType endpoint.name) route) target.toList := by
  have mem := reach.mem_recordPlaces (Naming.responseType endpoint.name)
  let place : RecordPlace := ⟨Route.typeName (Naming.responseType endpoint.name) route,
    Route.path "" route, target⟩
  have declared : ofPlace place ∈ ofEndpoint endpoint :=
    List.mem_cons_of_mem _ (List.mem_map_of_mem mem)
  refine ⟨(ofPlace place).body, ?_, declaresFields_ofPlace place⟩
  rw [blocks_documentOf]
  exact List.mem_map_of_mem declared

end Declaration

section Entries

variable {classes : List (String × Document)} {typeName name : String} {kind : Scalar}

theorem agrees_line {value : FieldValue} (plain : spreadName? name = none)
    (scalar : value = .scalar kind ∨ value = .scalars kind) :
    Agrees classes typeName (.line name) ⟨name, value⟩ where
  name := rfl
  list := by
    constructor
    · rintro ⟨_, _, eq⟩
      cases eq
    · intro lines
      rcases scalar with rfl | rfl
      · exact absurd lines scalarLines_ne_referenceLines
      · exact absurd lines (scalars_ne_records kind)
  record := by
    constructor
    · rintro ⟨_, ⟨_, eq⟩, _⟩
      cases eq
    · intro lines
      rcases scalar with rfl | rfl
      · exact absurd lines scalarLines_ne_referenceLines
      · exact absurd lines (scalars_ne_record kind)
  declared := by
    rintro _ ⟨⟨_, eq⟩, _⟩
    cases eq
  bare := by
    constructor
    · intro _
      rcases scalar with rfl | rfl
      · exact ⟨kind, .inl rfl⟩
      · exact ⟨kind, .inr rfl⟩
    · intro _
      exact ⟨name, rfl, plain⟩

theorem agrees_names {fields : Shape} (plain : ∀ name ∈ fields.names, spreadName? name = none)
    (declared : HasClass classes (typeName ++ name) fields.toList) :
    Agrees classes typeName (.block name (.ofLines fields.names)) ⟨name, .record fields⟩ where
  name := rfl
  list := by
    constructor
    · rintro ⟨_, _, eq⟩
      exact (not_spread_of_ofLines plain (Node.block.inj eq).2).elim
    · intro lines
      exact absurd lines record_ne_records
  record := by
    constructor
    · intro _
      rfl
    · intro _
      exact ⟨fields.names, ⟨name, rfl⟩, plain⟩
  declared := by
    rintro others ⟨⟨_, eq⟩, _⟩
    obtain rfl := ofLines_injective (Node.block.inj eq).2
    exact ⟨fields.toList, declared, rfl⟩
  bare := by
    constructor
    · rintro ⟨_, eq, _⟩
      cases eq
    · rintro ⟨kind, lines | lines⟩
      · exact absurd lines.symm scalarLines_ne_referenceLines
      · exact absurd lines.symm (scalars_ne_record kind)

theorem agrees_spread (fragment : String) (element : Shape) :
    Agrees classes typeName (.block name (.line ("..." ++ fragment) .nil))
      ⟨name, .records element⟩ where
  name := rfl
  list := by
    constructor
    · intro _
      rfl
    · intro _
      exact ⟨name, fragment, rfl⟩
  record := by
    constructor
    · rintro ⟨names, ⟨_, eq⟩, plain⟩
      exact (not_spread_of_ofLines plain (Node.block.inj eq).2.symm).elim
    · intro lines
      exact absurd lines.symm record_ne_records
  declared := by
    rintro names ⟨⟨_, eq⟩, plain⟩
    exact (not_spread_of_ofLines plain (Node.block.inj eq).2.symm).elim
  bare := by
    constructor
    · rintro ⟨_, eq, _⟩
      cases eq
    · rintro ⟨kind, lines | lines⟩
      · exact absurd lines.symm scalarLines_ne_referenceLines
      · exact absurd lines.symm (scalars_ne_records kind)

end Entries

theorem agrees_elementEntry {endpoint : Endpoint} {route : List Step} {record : Shape}
    (plain : record.Plain) (reach : endpoint.response.Reaches route record) {field : Field}
    (mem : field ∈ record.toList) :
    Agrees (Declaration.documentOf (Declaration.ofEndpoint endpoint)).blocks
      (Route.typeName (Naming.responseType endpoint.name) route) field.elementEntry field := by
  have names := plain.of_mem mem
  have head : spreadName? field.name = none := names _ List.mem_cons_self
  obtain ⟨name, value⟩ := field
  cases value with
  | scalar kind => exact agrees_line head (.inl rfl)
  | scalars kind => exact agrees_line head (.inr rfl)
  | record fields =>
    have inner : fields.Plain := fun name inner => names name (List.mem_cons_of_mem _ inner)
    have last : (Step.record name).field fields ∈ record.toList := mem
    have declared := Declaration.hasClass_of_reaches (reach.snoc last)
    rw [Route.typeName_append] at declared
    exact agrees_names inner.names declared
  | records element => exact agrees_spread _ element

/-- The query is written against the declared classes. The root selection has the fields of the last
class; each fragment has a class of the type it is on, whose lines agree with the entries of the
fragment one by one; and without collisions there is one class of each name. -/
theorem query_agrees_with_classes (options : Options) (endpoint : Endpoint)
    (plain : endpoint.response.Plain) :
    let query := Query.ofEndpoint options endpoint
    let classes := (Declaration.documentOf (Declaration.ofEndpoint endpoint)).blocks
    query.document.blocks.tail =
        query.fragments.map (fun fragment => (fragment.header, fragment.body)) ∧
    (∃ body fields, classes.getLast? = some ("export class Res" ++ endpoint.name, body) ∧
      body.DeclaresFields ("Res" ++ endpoint.name) fields ∧
      query.document.rootSelection.nodes.map Node.name? =
        fields.map fun field => some field.name) ∧
    (∀ fragment ∈ query.fragments, ∃ body fields,
      ("export class " ++ fragment.typeName, body) ∈ classes ∧
        body.DeclaresFields fragment.typeName fields ∧
        List.Forall₂ (Agrees classes fragment.typeName) fragment.body.nodes fields) ∧
    (endpoint.collision? = none →
      ∀ header ∈ classes.map Prod.fst, (classes.map Prod.fst).count header = 1) := by
  intro query classes
  refine ⟨query.tail_blocks_document, ?_, ?_, ?_⟩
  · obtain ⟨body, last, declares⟩ := Declaration.getLast?_blocks endpoint
    refine ⟨body, endpoint.response.toList, last, declares, ?_⟩
    calc query.document.rootSelection.nodes.map Node.name?
      _ = (Selection.ofShape endpoint.response).document.nodes.map Node.name? :=
        congrArg (·.nodes.map Node.name?) query.rootSelection_document
      _ = endpoint.response.names.map some := Selection.names_ofShape endpoint.response
      _ = endpoint.response.toList.map fun field => some field.name := List.map_map
  · intro fragment mem
    rw [Query.fragments_ofEndpoint] at mem
    obtain ⟨found, foundMem, rfl⟩ := List.mem_map.mp mem
    have inside := Shape.mem_lists.mp foundMem
    obtain ⟨body, bodyMem, declares⟩ := Declaration.hasClass_of_reaches inside
    refine ⟨body, found.element.toList, bodyMem, declares, ?_⟩
    show List.Forall₂ _ (Selection.ofElement found.element).document.nodes found.element.toList
    rw [Selection.nodes_ofElement, List.forall₂_map_left_iff, List.forall₂_same]
    intro field fieldMem
    exact agrees_elementEntry (plain.element foundMem) inside fieldMem
  · intro accepted header mem
    exact List.count_eq_one_of_mem (Declaration.headers_nodup accepted) mem

theorem report_rows_agree_with_class :
    Endpoint.report.response.Plain ∧
      let classes := (Declaration.documentOf (Declaration.ofEndpoint Endpoint.report)).blocks
      ∃ body fields, ("export class ResReportpagerowsItem", body) ∈ classes ∧
        body.DeclaresFields "ResReportpagerowsItem" fields ∧
        List.Forall₂ (Agrees classes "ResReportpagerowsItem")
          [.block "meta" (.line "owners" .nil), .block "cells" (.line "...cellsData" .nil)]
          fields := by
  have plain : Endpoint.report.response.Plain := by decide +kernel
  obtain ⟨_, _, fragments, _⟩ := query_agrees_with_classes {} Endpoint.report plain
  exact ⟨plain, fragments
    ⟨"rowsData", "ResReportpagerowsItem", .nested "meta" (.field "owners" .nil)
      (.nested "cells" (.spread "cellsData" .nil) .nil)⟩ (by decide +kernel)⟩

end RestGraph
