import RestGraph.Shape.Places
/-!
Routes through a response. A route goes from a record to a record inside it, through fields that are
records and into the elements of lists. Every place of a response is found again by its route, and
its class, its path and its parent are read off the route.
-/

set_option autoImplicit false

namespace RestGraph

/-- A step from a record to a record inside it. -/
inductive Step where
  | record (name : String)
  | list (name : String)
  deriving DecidableEq

namespace Step

def name : Step → String
  | record name => name
  | list name => name

def typeName (parent : String) : Step → String
  | record name => Naming.recordType parent name
  | list name => Naming.itemType parent name

def field (inner : Shape) : Step → Field
  | record name => ⟨name, .record inner⟩
  | list name => ⟨name, .records inner⟩

end Step

namespace Route

def typeName (root : String) (route : List Step) : String :=
  route.foldl Step.typeName root

def path (start : String) (route : List Step) : String :=
  route.foldl (fun path step => fieldPath path step.name) start

def holder (parent : String) (route : List Step) : String :=
  route.foldl (fun _ step => step.name) parent

theorem typeName_append (root : String) (first second : List Step) :
    typeName root (first ++ second) = typeName (typeName root first) second :=
  List.foldl_append

end Route

/-- A list of records, with the route to the record that it is a field of. -/
structure FoundList where
  route : List Step
  name : String
  element : Shape
  deriving DecidableEq

namespace FoundList

def behind (step : Step) (found : FoundList) : FoundList :=
  { found with route := step :: found.route }

def inside (found : FoundList) : List Step :=
  found.route ++ [.list found.name]

def place (typeName parent path : String) (found : FoundList) : ListPlace :=
  ⟨found.name, Route.holder parent found.route, Route.path path found.inside,
    Route.typeName typeName found.inside, found.element⟩

@[simp] theorem place_behind (typeName parent path : String) (step : Step) (found : FoundList) :
    (found.behind step).place typeName parent path =
      found.place (step.typeName typeName) step.name (fieldPath path step.name) := rfl

end FoundList

namespace Shape

def lists : Shape → List FoundList
  | .nil => []
  | .scalar _ _ rest => rest.lists
  | .scalars _ _ rest => rest.lists
  | .record name fields rest => fields.lists.map (.behind (.record name)) ++ rest.lists
  | .records name element rest =>
    ⟨[], name, element⟩ :: (element.lists.map (.behind (.list name)) ++ rest.lists)

/-- A route leads from a record to a record. -/
inductive Reaches : Shape → List Step → Shape → Prop
  | here (shape : Shape) : Reaches shape [] shape
  | step {shape inner target : Shape} {step : Step} {route : List Step} :
    step.field inner ∈ shape.toList → Reaches inner route target →
      Reaches shape (step :: route) target

theorem Reaches.snoc {shape middle inner : Shape} {route : List Step} {step : Step}
    (before : Reaches shape route middle) (mem : step.field inner ∈ middle.toList) :
    Reaches shape (route ++ [step]) inner := by
  induction before with
  | here _ => exact .step mem (.here inner)
  | step first _ ih => exact .step first (ih mem)

theorem Reaches.split_last {shape target : Shape} {route : List Step} {step : Step}
    (reach : Reaches shape (route ++ [step]) target) :
    ∃ middle, Reaches shape route middle ∧ step.field target ∈ middle.toList := by
  induction route generalizing shape with
  | nil =>
    cases reach with
    | step mem last =>
      cases last
      exact ⟨shape, .here shape, mem⟩
  | cons first route ih =>
    cases reach with
    | step mem reach =>
      obtain ⟨middle, before, last⟩ := ih reach
      exact ⟨middle, .step mem before, last⟩

end Shape

def Field.lists (field : Field) : List FoundList :=
  match field.value with
  | .scalar _ => []
  | .scalars _ => []
  | .record fields => fields.lists.map (.behind (.record field.name))
  | .records element => ⟨[], field.name, element⟩ :: element.lists.map (.behind (.list field.name))

def Field.records (typeName path : String) (field : Field) : List RecordPlace :=
  match field.value with
  | .scalar _ => []
  | .scalars _ => []
  | .record fields =>
    let nested := Naming.recordType typeName field.name
    fields.recordsWithin nested (fieldPath path field.name) ++
      [⟨nested, fieldPath path field.name, fields⟩]
  | .records element =>
    let item := Naming.itemType typeName field.name
    element.recordsWithin item (fieldPath path field.name) ++
      [⟨item, fieldPath path field.name, element⟩]

namespace Shape

theorem lists_eq_flatMap (shape : Shape) : shape.lists = shape.toList.flatMap Field.lists := by
  induction shape with
  | nil => rfl
  | scalar name kind rest ih => simpa [lists, toList, Field.lists] using ih
  | scalars name kind rest ih => simpa [lists, toList, Field.lists] using ih
  | record name fields rest _ ih => simp [lists, toList, Field.lists, ih]
  | records name element rest _ ih => simp [lists, toList, Field.lists, ih]

theorem recordsWithin_eq_flatMap (shape : Shape) (typeName path : String) :
    shape.recordsWithin typeName path = shape.toList.flatMap (Field.records typeName path) := by
  induction shape with
  | nil => rfl
  | scalar name kind rest ih => simpa [recordsWithin, toList, Field.records] using ih
  | scalars name kind rest ih => simpa [recordsWithin, toList, Field.records] using ih
  | record name fields rest _ ih => simp [recordsWithin, toList, Field.records, ih]
  | records name element rest _ ih => simp [recordsWithin, toList, Field.records, ih]

/-- The walk for fragments meets the lists in the order of their routes and names each by its
route. -/
theorem listsWithin_eq_map (shape : Shape) (typeName parent path : String) :
    shape.listsWithin typeName parent path =
      shape.lists.map (FoundList.place typeName parent path) := by
  induction shape generalizing typeName parent path with
  | nil => rfl
  | scalar name kind rest ih => exact ih typeName parent path
  | scalars name kind rest ih => exact ih typeName parent path
  | record name fields rest inner ih =>
    simp only [listsWithin, lists, List.map_append, List.map_map, inner, ih,
      Function.comp_def, FoundList.place_behind]
    rfl
  | records name element rest inner ih =>
    simp only [listsWithin, lists, List.map_cons, List.map_append, List.map_map, inner, ih,
      Function.comp_def, FoundList.place_behind]
    rfl

theorem listPlaces_eq_map (shape : Shape) (root : String) :
    shape.listPlaces root = shape.lists.map (FoundList.place root "" "") :=
  shape.listsWithin_eq_map root "" ""

theorem mem_lists_here {shape element : Shape} {name : String} :
    ⟨[], name, element⟩ ∈ shape.lists ↔ ⟨name, .records element⟩ ∈ shape.toList := by
  rw [lists_eq_flatMap, List.mem_flatMap]
  constructor
  · rintro ⟨⟨other, value⟩, mem, inner⟩
    cases value <;> simp_all [Field.lists, FoundList.behind]
  · intro mem
    exact ⟨_, mem, List.mem_cons_self⟩

theorem mem_lists_step {shape element : Shape} {step : Step} {route : List Step} {name : String} :
    ⟨step :: route, name, element⟩ ∈ shape.lists ↔
      ∃ inner, step.field inner ∈ shape.toList ∧ ⟨route, name, element⟩ ∈ inner.lists := by
  rw [lists_eq_flatMap, List.mem_flatMap]
  constructor
  · rintro ⟨⟨other, value⟩, mem, deeper⟩
    cases value with
    | scalar _ | scalars _ => cases deeper
    | record inner =>
      obtain ⟨_, found, eq⟩ := List.mem_map.mp deeper
      cases eq
      exact ⟨inner, mem, found⟩
    | records inner =>
      rcases List.mem_cons.mp deeper with eq | deeper
      · cases eq
      · obtain ⟨_, found, eq⟩ := List.mem_map.mp deeper
        cases eq
        exact ⟨inner, mem, found⟩
  · rintro ⟨inner, mem, deeper⟩
    refine ⟨step.field inner, mem, ?_⟩
    have behind := List.mem_map_of_mem (f := FoundList.behind step) deeper
    cases step with
    | record _ => exact behind
    | list _ => exact List.mem_cons_of_mem _ behind

theorem mem_lists {shape : Shape} {found : FoundList} :
    found ∈ shape.lists ↔ shape.Reaches found.inside found.element := by
  obtain ⟨route, name, element⟩ := found
  induction route generalizing shape with
  | nil =>
    rw [mem_lists_here]
    constructor
    · intro mem
      have first : (Step.list name).field element ∈ shape.toList := mem
      exact .step first (.here element)
    · intro reach
      cases reach with
      | step mem last =>
        cases last
        exact mem
  | cons step route ih =>
    rw [mem_lists_step]
    constructor
    · rintro ⟨inner, mem, deeper⟩
      exact .step mem (ih.mp deeper)
    · intro reach
      cases reach with
      | step mem reach => exact ⟨_, mem, ih.mpr reach⟩

theorem mem_lists_inside {shape element : Shape} {found : FoundList} {name : String}
    (outer : found ∈ shape.lists) (mem : ⟨name, .records element⟩ ∈ found.element.toList) :
    ⟨found.inside, name, element⟩ ∈ shape.lists := by
  have last : (Step.list name).field element ∈ found.element.toList := mem
  exact mem_lists.mpr ((mem_lists.mp outer).snoc last)

theorem Reaches.mem_records {shape target : Shape} {route : List Step}
    (reach : Reaches shape route target) (typeName path : String) :
    ⟨Route.typeName typeName route, Route.path path route, target⟩ ∈
      shape.recordsWithin typeName path ++ [⟨typeName, path, shape⟩] := by
  induction reach generalizing typeName path with
  | here shape => exact List.mem_append_right _ List.mem_cons_self
  | @step _ inner _ step _ mem _ ih =>
    rw [recordsWithin_eq_flatMap]
    refine List.mem_append_left _ (List.mem_flatMap.mpr ⟨step.field inner, mem, ?_⟩)
    cases step with
    | record name => exact ih _ _
    | list name => exact ih _ _

theorem Reaches.mem_recordPlaces {shape target : Shape} {route : List Step}
    (reach : Reaches shape route target) (root : String) :
    ⟨Route.typeName root route, Route.path "" route, target⟩ ∈ shape.recordPlaces root :=
  reach.mem_records root ""

end Shape

end RestGraph
