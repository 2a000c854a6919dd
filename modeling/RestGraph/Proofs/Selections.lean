import RestGraph.Proofs.Routes
import RestGraph.Proofs.Sections
/-!
The selections of a query document. The operation spreads the lists of records that are reached
through records alone, and a fragment spreads the lists that are fields of its own elements.
-/

set_option autoImplicit false

namespace RestGraph

def Step.isList : Step → Bool
  | record _ => false
  | list _ => true

namespace FoundList

def isDirect (found : FoundList) : Bool :=
  found.route.isEmpty

def isOutside (found : FoundList) : Bool :=
  found.route.all fun step => !step.isList

def fragmentName (found : FoundList) : String :=
  Naming.fragment found.name

@[simp] theorem isDirect_here (name : String) (element : Shape) :
    isDirect ⟨[], name, element⟩ = true := rfl

@[simp] theorem isDirect_behind (step : Step) (found : FoundList) :
    (found.behind step).isDirect = false := rfl

@[simp] theorem isOutside_here (name : String) (element : Shape) :
    isOutside ⟨[], name, element⟩ = true := rfl

@[simp] theorem isOutside_behind (step : Step) (found : FoundList) :
    (found.behind step).isOutside = (!step.isList && found.isOutside) := rfl

@[simp] theorem fragmentName_mk (route : List Step) (name : String) (element : Shape) :
    fragmentName ⟨route, name, element⟩ = Naming.fragment name := rfl

@[simp] theorem fragmentName_behind (step : Step) (found : FoundList) :
    (found.behind step).fragmentName = found.fragmentName := rfl

end FoundList

namespace Shape

def deepNames : Shape → List String
  | .nil => []
  | .scalar name _ rest => name :: rest.deepNames
  | .scalars name _ rest => name :: rest.deepNames
  | .record name fields rest => name :: (fields.deepNames ++ rest.deepNames)
  | .records name element rest => name :: (element.deepNames ++ rest.deepNames)

end Shape

def Field.deepNames (field : Field) : List String :=
  field.name :: match field.value with
    | .scalar _ => []
    | .scalars _ => []
    | .record fields => fields.deepNames
    | .records element => element.deepNames

namespace Shape

theorem deepNames_eq_flatMap (shape : Shape) :
    shape.deepNames = shape.toList.flatMap Field.deepNames := by
  induction shape with
  | nil => rfl
  | scalar name kind rest ih => simp [deepNames, toList, Field.deepNames, ih]
  | scalars name kind rest ih => simp [deepNames, toList, Field.deepNames, ih]
  | record name fields rest _ ih => simp [deepNames, toList, Field.deepNames, ih]
  | records name element rest _ ih => simp [deepNames, toList, Field.deepNames, ih]

/-- No field at any depth has a name that a reader would take for a spread. -/
def Plain (shape : Shape) : Prop :=
  ∀ name ∈ shape.deepNames, spreadName? name = none

instance (shape : Shape) : Decidable shape.Plain :=
  inferInstanceAs (Decidable (∀ name ∈ shape.deepNames, spreadName? name = none))

theorem plain_scalar {name : String} {kind : Scalar} {rest : Shape} :
    (scalar name kind rest).Plain ↔ spreadName? name = none ∧ rest.Plain := by
  simp [Plain, deepNames]

theorem plain_scalars {name : String} {kind : Scalar} {rest : Shape} :
    (scalars name kind rest).Plain ↔ spreadName? name = none ∧ rest.Plain := by
  simp [Plain, deepNames]

theorem plain_record {name : String} {fields rest : Shape} :
    (record name fields rest).Plain ↔ spreadName? name = none ∧ fields.Plain ∧ rest.Plain := by
  simp [Plain, deepNames, or_imp, forall_and]

theorem plain_records {name : String} {element rest : Shape} :
    (records name element rest).Plain ↔ spreadName? name = none ∧ element.Plain ∧ rest.Plain := by
  simp [Plain, deepNames, or_imp, forall_and]

theorem Plain.of_mem {shape : Shape} {field : Field} (plain : shape.Plain)
    (mem : field ∈ shape.toList) : ∀ name ∈ field.deepNames, spreadName? name = none := by
  intro name nameMem
  apply plain
  rw [deepNames_eq_flatMap]
  exact List.mem_flatMap.mpr ⟨field, mem, nameMem⟩

theorem Plain.names {shape : Shape} (plain : shape.Plain) :
    ∀ name ∈ shape.names, spreadName? name = none := by
  intro name mem
  obtain ⟨field, fieldMem, rfl⟩ := List.mem_map.mp mem
  exact plain.of_mem fieldMem field.name List.mem_cons_self

theorem Plain.reaches {shape target : Shape} {route : List Step} (plain : shape.Plain)
    (reach : Reaches shape route target) : target.Plain := by
  induction reach with
  | here _ => exact plain
  | @step _ inner _ step _ mem _ ih =>
    apply ih
    intro name nameMem
    apply plain.of_mem mem
    cases step <;> exact List.mem_cons_of_mem _ nameMem

theorem Plain.element {shape : Shape} {found : FoundList} (plain : shape.Plain)
    (mem : found ∈ shape.lists) : found.element.Plain :=
  plain.reaches (mem_lists.mp mem)

end Shape

namespace Selection

theorem startsIndented_document (selection : Selection) :
    selection.document.startsIndented = false := by
  cases selection <;> rfl

theorem spreads_field {name : String} (plain : spreadName? name = none) (rest : Selection) :
    (field name rest).document.spreads = rest.document.spreads := by
  simp [document, Document.spreads, startsIndented_document, plain]

theorem spreads_nested (name : String) (body rest : Selection) :
    (nested name body rest).document.spreads = body.document.spreads ++ rest.document.spreads := rfl

theorem spreads_spreadOf (name : String) :
    (spreadOf name).document.spreads = [Naming.fragment name] := by
  simp [spreadOf, document, Document.spreads, Document.startsIndented]

theorem spreads_ofNames {names : List String} (plain : ∀ name ∈ names, spreadName? name = none) :
    (ofNames names).document.spreads = [] := by
  induction names with
  | nil => rfl
  | cons name names ih =>
    obtain ⟨head, tail⟩ := List.forall_mem_cons.mp plain
    exact (spreads_field head (ofNames names)).trans (ih tail)

/-- A fragment spreads the lists that are fields of its elements, and none that lies deeper. -/
theorem spreads_ofElement {shape : Shape} (plain : shape.Plain) :
    (ofElement shape).document.spreads =
      (shape.lists.filter FoundList.isDirect).map FoundList.fragmentName := by
  induction shape with
  | nil => rfl
  | scalar name kind rest ih =>
    obtain ⟨head, tail⟩ := Shape.plain_scalar.mp plain
    exact (spreads_field head (ofElement rest)).trans (ih tail)
  | scalars name kind rest ih =>
    obtain ⟨head, tail⟩ := Shape.plain_scalars.mp plain
    exact (spreads_field head (ofElement rest)).trans (ih tail)
  | record name fields rest _ ih =>
    obtain ⟨_, inner, tail⟩ := Shape.plain_record.mp plain
    rw [ofElement, spreads_nested, spreads_ofNames inner.names, ih tail]
    simp [Shape.lists, List.filter_map, Function.comp_def]
  | records name element rest _ ih =>
    obtain ⟨_, _, tail⟩ := Shape.plain_records.mp plain
    rw [ofElement, spreads_nested, spreads_spreadOf, ih tail]
    simp [Shape.lists, List.filter_cons, List.filter_map, Function.comp_def]

theorem mem_spreads_ofElement {shape : Shape} {name : String} (plain : shape.Plain) :
    name ∈ (ofElement shape).document.spreads ↔
      ∃ field element, ⟨field, .records element⟩ ∈ shape.toList ∧
        Naming.fragment field = name := by
  rw [spreads_ofElement plain, List.mem_map]
  constructor
  · rintro ⟨⟨route, field, element⟩, mem, named⟩
    obtain ⟨mem, direct⟩ := List.mem_filter.mp mem
    obtain rfl := List.isEmpty_iff.mp direct
    exact ⟨field, element, Shape.mem_lists_here.mp mem, named⟩
  · rintro ⟨field, element, mem, named⟩
    exact ⟨_, List.mem_filter.mpr ⟨Shape.mem_lists_here.mpr mem, rfl⟩, named⟩

theorem spreads_ofShape {shape : Shape} (plain : shape.Plain) :
    (ofShape shape).document.spreads =
      (shape.lists.filter FoundList.isOutside).map FoundList.fragmentName := by
  induction shape with
  | nil => rfl
  | scalar name kind rest ih =>
    obtain ⟨head, tail⟩ := Shape.plain_scalar.mp plain
    exact (spreads_field head (ofShape rest)).trans (ih tail)
  | scalars name kind rest ih =>
    obtain ⟨head, tail⟩ := Shape.plain_scalars.mp plain
    exact (spreads_field head (ofShape rest)).trans (ih tail)
  | record name fields rest ihFields ih =>
    obtain ⟨_, inner, tail⟩ := Shape.plain_record.mp plain
    rw [ofShape, spreads_nested, ihFields inner, ih tail]
    simp [Shape.lists, List.filter_map, Function.comp_def, Step.isList]
  | records name element rest _ ih =>
    obtain ⟨_, _, tail⟩ := Shape.plain_records.mp plain
    rw [ofShape, spreads_nested, spreads_spreadOf, ih tail]
    simp [Shape.lists, List.filter_cons, List.filter_map, Function.comp_def, Step.isList]

end Selection

namespace Fragment

def header (fragment : Fragment) : String :=
  "fragment " ++ fragment.name ++ " on " ++ fragment.typeName

def body (fragment : Fragment) : Document :=
  fragment.selection.document

theorem document_eq_block (fragment : Fragment) :
    fragment.document = .block fragment.header fragment.body .nil := rfl

end Fragment

namespace Query

theorem blocks_operationDocument (query : Query) :
    ∃ header body, query.operationDocument.blocks = [(header, body)] ∧
      body.firstBody = query.selection.document := by
  unfold operationDocument
  split
  · exact ⟨_, _, rfl, rfl⟩
  · exact ⟨_, _, rfl, rfl⟩

theorem spreads_operationDocument (query : Query) :
    query.operationDocument.spreads = query.selection.document.spreads := by
  unfold operationDocument
  split <;> simp [Document.spreads, Document.startsIndented]

theorem blocks_document (query : Query) :
    query.document.blocks = query.operationDocument.blocks ++
      query.fragments.map fun fragment => (fragment.header, fragment.body) := by
  rw [document_eq_separated, Document.blocks_separated, List.flatMap_cons, List.flatMap_map]
  simp [Fragment.document_eq_block, List.map_eq_flatMap]

theorem spreads_document (query : Query) :
    query.document.spreads = query.selection.document.spreads ++
      query.fragments.flatMap fun fragment => fragment.body.spreads := by
  rw [document_eq_separated, Document.spreads_separated, List.flatMap_cons, List.flatMap_map,
    spreads_operationDocument]
  simp [Fragment.document_eq_block, Document.spreads]

theorem rootSelection_document (query : Query) :
    query.document.rootSelection = query.selection.document := by
  obtain ⟨header, body, blocks, first⟩ := query.blocks_operationDocument
  simp [Document.rootSelection, Document.firstBody, blocks_document, blocks] at first ⊢
  exact first

theorem tail_blocks_document (query : Query) :
    query.document.blocks.tail =
      query.fragments.map fun fragment => (fragment.header, fragment.body) := by
  obtain ⟨header, body, blocks, _⟩ := query.blocks_operationDocument
  rw [blocks_document, blocks]
  rfl

theorem fragments_ofEndpoint (options : Options) (endpoint : Endpoint) :
    (ofEndpoint options endpoint).fragments = endpoint.response.lists.map fun found =>
      Fragment.ofPlace (found.place (Naming.responseType endpoint.name) "" "") := by
  simp [ofEndpoint, Shape.listPlaces_eq_map, Function.comp_def]

theorem names_fragments (options : Options) (endpoint : Endpoint) :
    (ofEndpoint options endpoint).fragments.map Fragment.name =
      endpoint.response.lists.map FoundList.fragmentName := by
  rw [fragments_ofEndpoint, List.map_map]
  rfl

end Query

def Endpoint.report : Endpoint where
  name := "Report"
  method := "GET"
  parameters := [⟨"id", .string, true⟩]
  response :=
    .scalar "id" .string <|
      .record "page"
        (.records "rows"
          (.record "meta" (.records "owners" (.scalar "who" .string .nil) .nil) <|
            .records "cells" (.scalars "values" .number .nil) .nil) .nil) .nil

end RestGraph
