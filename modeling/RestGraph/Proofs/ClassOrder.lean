import RestGraph.Proofs.ClassAgreement
/-!
The order of the classes. The records of a response are listed after those inside them, so every
class that a decorator names stands before the class that names it, and it stands for the record of
that very field, also where other classes have the same name.
-/

set_option autoImplicit false

namespace RestGraph

def FieldValue.inner? : FieldValue → Option Shape
  | .record fields => some fields
  | .records element => some element
  | _ => none

def Shape.innerCount : Shape → Nat
  | .nil => 0
  | .scalar _ _ rest => rest.innerCount
  | .scalars _ _ rest => rest.innerCount
  | .record _ fields rest => fields.innerCount + 1 + rest.innerCount
  | .records _ element rest => element.innerCount + 1 + rest.innerCount

def RecordPlace.inside (place : RecordPlace) (step : Step) (inner : Shape) : RecordPlace :=
  ⟨step.typeName place.typeName, fieldPath place.path step.name, inner⟩

/-- Every place comes after the places of the records in its own fields. -/
inductive DependenciesFirst : List RecordPlace → Prop
  | nil : DependenciesFirst []
  | snoc {places : List RecordPlace} {place : RecordPlace} : DependenciesFirst places →
    (∀ (step : Step) (inner : Shape), step.field inner ∈ place.fields.toList →
      place.inside step inner ∈ places) → DependenciesFirst (places ++ [place])

namespace DependenciesFirst

theorem append {first second : List RecordPlace} (before : DependenciesFirst first)
    (after : DependenciesFirst second) : DependenciesFirst (first ++ second) := by
  induction after with
  | nil => simpa using before
  | snoc _ present ih =>
    rw [← List.append_assoc]
    refine ih.snoc ?_
    intro step inner mem
    exact List.mem_append_right first (present step inner mem)

theorem exists_earlier {places : List RecordPlace} (ordered : DependenciesFirst places) {i : Nat}
    {place : RecordPlace} (found : places[i]? = some place) {step : Step} {inner : Shape}
    (mem : step.field inner ∈ place.fields.toList) :
    ∃ j < i, places[j]? = some (place.inside step inner) := by
  induction ordered with
  | nil => simp at found
  | @snoc places last _ present ih =>
    by_cases old : i < places.length
    · rw [List.getElem?_append_left old] at found
      obtain ⟨j, below, earlier⟩ := ih found
      refine ⟨j, below, ?_⟩
      rw [List.getElem?_append_left (by omega)]
      exact earlier
    · have atEnd : i = places.length := by
        have inside := (List.getElem?_eq_some_iff.mp found).1
        simp only [List.length_append, List.length_singleton] at inside
        omega
      subst atEnd
      have same : last = place := by simpa using found
      subst same
      obtain ⟨j, earlier⟩ := List.mem_iff_getElem?.mp (present step inner mem)
      have below := (List.getElem?_eq_some_iff.mp earlier).1
      refine ⟨j, below, ?_⟩
      rw [List.getElem?_append_left below]
      exact earlier

end DependenciesFirst

namespace Shape

theorem inside_mem_recordsWithin {shape inner : Shape} {step : Step} (typeName path : String)
    (mem : step.field inner ∈ shape.toList) :
    ⟨step.typeName typeName, fieldPath path step.name, inner⟩ ∈
      shape.recordsWithin typeName path := by
  rw [recordsWithin_eq_flatMap]
  refine List.mem_flatMap.mpr ⟨step.field inner, mem, ?_⟩
  cases step with
  | record name => exact List.mem_append_right _ List.mem_cons_self
  | list name => exact List.mem_append_right _ List.mem_cons_self

theorem dependenciesFirst_recordsWithin (shape : Shape) (typeName path : String) :
    DependenciesFirst (shape.recordsWithin typeName path) := by
  induction shape generalizing typeName path with
  | nil => exact .nil
  | scalar name kind rest ih => exact ih typeName path
  | scalars name kind rest ih => exact ih typeName path
  | record name fields rest inner ih | records name fields rest inner ih =>
    -- the record of a field stands behind the records inside it, and before those of later fields
    rw [recordsWithin, List.append_cons]
    refine .append (.snoc (inner _ _) ?_) (ih typeName path)
    intro step deeper mem
    exact inside_mem_recordsWithin _ _ mem

theorem dependenciesFirst_recordPlaces (shape : Shape) (root : String) :
    DependenciesFirst (shape.recordPlaces root) :=
  (shape.dependenciesFirst_recordsWithin root "").snoc
    fun _ _ mem => inside_mem_recordsWithin root "" mem

theorem length_recordsWithin (shape : Shape) (typeName path : String) :
    (shape.recordsWithin typeName path).length = shape.innerCount := by
  induction shape generalizing typeName path with
  | nil => rfl
  | scalar name kind rest ih => exact ih typeName path
  | scalars name kind rest ih => exact ih typeName path
  | record name fields rest inner ih | records name fields rest inner ih =>
    simp only [recordsWithin, innerCount, List.length_append, List.length_cons, inner, ih]
    omega

end Shape

/-- Before a position a class of a name stands for a record: it declares the fields of that
record. -/
def DeclaredBefore (classes : List (String × Document)) (i : Nat) (typeName : String)
    (record : Shape) : Prop :=
  ∃ j < i, ∃ body, classes[j]? = some ("export class " ++ typeName, body) ∧
    body.DeclaresFields typeName record.toList

/-- The lines for a field in the class at a position. They name a class exactly if the field holds a
record or a list of records, and that class was declared before for the record. -/
structure Resolves (classes : List (String × Document)) (i : Nat) (typeName : String)
    (field : Field) : Prop where
  plain : field.value.inner? = none → ∃ kind : Scalar,
    field.lines typeName = scalarLines field.name kind.names.2 ∨
      field.lines typeName =
        referenceLines field.name ("[" ++ kind.names.1 ++ "]") (kind.names.2 ++ "[]")
  record : ∀ fields, field.value = .record fields → ∃ className,
    field.lines typeName = referenceLines field.name className className ∧
      DeclaredBefore classes i className fields
  records : ∀ element, field.value = .records element → ∃ className,
    field.lines typeName = referenceLines field.name ("[" ++ className ++ "]") (className ++ "[]") ∧
      DeclaredBefore classes i className element

namespace Declaration

theorem blocks_succ? {endpoint : Endpoint} {i : Nat} {place : RecordPlace}
    (found : (endpoint.response.recordPlaces (Naming.responseType endpoint.name))[i]? =
      some place) :
    (documentOf (ofEndpoint endpoint)).blocks[i + 1]? =
      some ("export class " ++ place.typeName, (ofPlace place).body) := by
  rw [blocks_documentOf, List.getElem?_map, ofEndpoint, List.getElem?_cons_succ,
    List.getElem?_map, found]
  rfl

theorem length_blocks (endpoint : Endpoint) :
    (documentOf (ofEndpoint endpoint)).blocks.length = 2 + endpoint.response.innerCount := by
  simp only [blocks_documentOf, ofEndpoint, Shape.recordPlaces, List.length_cons, List.length_map,
    List.length_append, List.length_nil, Shape.length_recordsWithin]
  omega

theorem head?_blocks (endpoint : Endpoint) :
    ∃ body, (documentOf (ofEndpoint endpoint)).blocks.head? =
        some ("export class " ++ endpoint.name ++ "Params", body) ∧
      body.DeclaresParameters endpoint.parameters := by
  refine ⟨_, ?_, declaresParameters_ofParameters (endpoint.name ++ "Params") endpoint.parameters⟩
  rw [blocks_documentOf, String.append_assoc]
  rfl

theorem declaredBefore_of_mem {endpoint : Endpoint} {i : Nat} {place : RecordPlace} {step : Step}
    {inner : Shape}
    (found : (endpoint.response.recordPlaces (Naming.responseType endpoint.name))[i]? =
      some place)
    (mem : step.field inner ∈ place.fields.toList) :
    DeclaredBefore (documentOf (ofEndpoint endpoint)).blocks (i + 1)
      (step.typeName place.typeName) inner := by
  have ordered := endpoint.response.dependenciesFirst_recordPlaces
    (Naming.responseType endpoint.name)
  obtain ⟨j, below, earlier⟩ := ordered.exists_earlier found mem
  exact ⟨j + 1, by omega, _, blocks_succ? earlier, declaresFields_ofPlace (place.inside step inner)⟩

theorem resolves_of_mem {endpoint : Endpoint} {i : Nat} {place : RecordPlace} {field : Field}
    (found : (endpoint.response.recordPlaces (Naming.responseType endpoint.name))[i]? =
      some place)
    (mem : field ∈ place.fields.toList) :
    Resolves (documentOf (ofEndpoint endpoint)).blocks (i + 1) place.typeName field where
  plain := by
    obtain ⟨name, value⟩ := field
    cases value with
    | scalar kind => exact fun _ => ⟨kind, .inl rfl⟩
    | scalars kind => exact fun _ => ⟨kind, .inr rfl⟩
    | record _ | records _ => exact nofun
  record := by
    intro fields holds
    obtain ⟨name, value⟩ := field
    subst holds
    have inside : (Step.record name).field fields ∈ place.fields.toList := mem
    exact ⟨_, rfl, declaredBefore_of_mem found inside⟩
  records := by
    intro element holds
    obtain ⟨name, value⟩ := field
    subst holds
    have inside : (Step.list name).field element ∈ place.fields.toList := mem
    exact ⟨_, lines_records place.typeName name element, declaredBefore_of_mem found inside⟩

theorem position_unique {endpoint : Endpoint} (accepted : endpoint.collision? = none) {j l : Nat}
    {header : String} {first second : Document}
    (atJ : (documentOf (ofEndpoint endpoint)).blocks[j]? = some (header, first))
    (atL : (documentOf (ofEndpoint endpoint)).blocks[l]? = some (header, second)) : j = l := by
  have distinct := headers_nodup accepted
  have inside : j < ((documentOf (ofEndpoint endpoint)).blocks.map Prod.fst).length := by
    rw [List.length_map]
    exact (List.getElem?_eq_some_iff.mp atJ).1
  refine (List.getElem?_inj inside distinct).mp ?_
  rw [List.getElem?_map, List.getElem?_map, atJ, atL, Option.map_some, Option.map_some]

/-- The classes are closed and in dependency order. The arguments come first and the whole response
last, there is one class more for each field that holds a record or a list of records, and the lines
for each field of a record are resolved before the class of that record. The class that is found for
them is the only one of its name if there are no collisions. -/
theorem classes_closed_in_order (endpoint : Endpoint) :
    let classes := (documentOf (ofEndpoint endpoint)).blocks
    let places := endpoint.response.recordPlaces (Naming.responseType endpoint.name)
    (classes.length = 2 + endpoint.response.innerCount ∧ classes.length = places.length + 1) ∧
    (∃ body, classes.head? = some ("export class " ++ endpoint.name ++ "Params", body) ∧
      body.DeclaresParameters endpoint.parameters) ∧
    (∃ body, classes.getLast? = some ("export class Res" ++ endpoint.name, body) ∧
      body.DeclaresFields ("Res" ++ endpoint.name) endpoint.response.toList) ∧
    (∀ (i : Nat) (place : RecordPlace), places[i]? = some place →
      ∃ body, classes[i + 1]? = some ("export class " ++ place.typeName, body) ∧
        body.DeclaresFields place.typeName place.fields.toList ∧
        ∀ field ∈ place.fields.toList, Resolves classes (i + 1) place.typeName field) ∧
    (endpoint.collision? = none → ∀ (j l : Nat) (header : String) (first second : Document),
      classes[j]? = some (header, first) → classes[l]? = some (header, second) → j = l) := by
  intro classes places
  refine ⟨⟨length_blocks endpoint, ?_⟩, head?_blocks endpoint, getLast?_blocks endpoint, ?_, ?_⟩
  · simp [classes, places, blocks_documentOf, ofEndpoint]
  · intro i place found
    exact ⟨_, blocks_succ? found, declaresFields_ofPlace place,
      fun field mem => resolves_of_mem found mem⟩
  · intro accepted j l header first second atJ atL
    exact position_unique accepted atJ atL

/-- Two lists in records that give one class name: the field of each finds the class of its own
elements. In the report the name of the class for `meta` stands at one position only. -/
theorem order_of_equal_class_names :
    let twins : Endpoint := ⟨"T", "GET", [],
      .record "a" (.records "b" (.scalar "x" .string .nil) .nil)
        (.records "ab" (.scalar "y" .number .nil) .nil)⟩
    let classes := (documentOf (ofEndpoint twins)).blocks
    let places := twins.response.recordPlaces "ResT"
    let reported := (documentOf (ofEndpoint Endpoint.report)).blocks
    (classes.map Prod.fst = ["export class TParams", "export class ResTabItem",
        "export class ResTa", "export class ResTabItem", "export class ResT"] ∧
      places[1]? = some ⟨"ResTa", "a", .records "b" (.scalar "x" .string .nil) .nil⟩ ∧
      places[3]? = some ⟨"ResT", "", twins.response⟩) ∧
    (∃ body, classes[2]? = some ("export class ResTa", body) ∧
      body.DeclaresFields "ResTa" [⟨"b", .records (.scalar "x" .string .nil)⟩] ∧
      ∀ field ∈ [⟨"b", .records (.scalar "x" .string .nil)⟩], Resolves classes 2 "ResTa" field) ∧
    (∃ body, classes[4]? = some ("export class ResT", body) ∧
      body.DeclaresFields "ResT" twins.response.toList ∧
      ∀ field ∈ twins.response.toList, Resolves classes 4 "ResT" field) ∧
    Endpoint.report.collision? = none ∧
    ∀ (l : Nat) (body : Document),
      reported[l]? = some ("export class ResReportpagerowsItemmeta", body) → 2 = l := by
  intro twins classes places reported
  have listed : classes.map Prod.fst = ["export class TParams", "export class ResTabItem",
        "export class ResTa", "export class ResTabItem", "export class ResT"] ∧
      places[1]? = some ⟨"ResTa", "a", .records "b" (.scalar "x" .string .nil) .nil⟩ ∧
      places[3]? = some ⟨"ResT", "", twins.response⟩ := by
    decide +kernel
  obtain ⟨-, -, -, resolved, -⟩ := classes_closed_in_order twins
  obtain ⟨-, -, -, -, unique⟩ := classes_closed_in_order Endpoint.report
  have accepted : Endpoint.report.collision? = none := by decide +kernel
  refine ⟨listed, resolved 1 _ listed.2.1, resolved 3 _ listed.2.2, accepted, ?_⟩
  intro l body atL
  have atTwo : reported[2]?.map Prod.fst = some "export class ResReportpagerowsItemmeta" := by
    decide +kernel
  obtain ⟨⟨header, first⟩, found, rfl⟩ := Option.map_eq_some_iff.mp atTwo
  exact unique accepted 2 l _ first body found atL

end Declaration

end RestGraph
