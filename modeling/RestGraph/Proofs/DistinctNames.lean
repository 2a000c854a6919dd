import Mathlib.Data.List.Forall2
import Mathlib.Data.List.Nodup
import RestGraph.Proofs.Inspection
import RestGraph.Proofs.Routes
/-!
The shapes of responses whose objects have distinct keys. They are exactly the trees without a
repeated name, and every record of a shape has the keys of its object as names, in their order.
-/

set_option autoImplicit false

namespace RestGraph

/-- The keys of every object inside a value are distinct. -/
inductive Json.Value.Distinct : Json.Value → Prop
  | null : Distinct .null
  | bool (value : Bool) : Distinct (.bool value)
  | num (value : Json.Number) : Distinct (.num value)
  | str (text : String) : Distinct (.str text)
  | arr {items : List Json.Value} : (∀ item ∈ items, Distinct item) → Distinct (.arr items)
  | obj {members : Json.Members} :
    members.keys.Nodup → (∀ member ∈ members, Distinct member.2) → Distinct (.obj members)

open Json.Value (Distinct)

theorem Inspects.distinct {value target : Json.Value} {route : List Move}
    (inspects : Inspects value route target) (distinct : Distinct value) : Distinct target := by
  induction inspects with
  | here _ => exact distinct
  | member mem _ ih =>
    cases distinct with
    | obj _ inside => exact ih (inside _ mem)
  | first _ ih =>
    cases distinct with
    | arr inside => exact ih (inside _ List.mem_cons_self)

theorem Inspects.unique {value first second : Json.Value} {route : List Move}
    (distinct : Distinct value) (inspects : Inspects value route first)
    (other : Inspects value route second) : first = second := by
  induction inspects with
  | here _ =>
    cases other with
    | here _ => rfl
  | member mem _ ih =>
    cases other with
    | member mem' other =>
      cases distinct with
      | obj keys inside =>
        obtain ⟨-, rfl⟩ := Prod.mk.inj (List.inj_on_of_nodup_map keys mem mem' rfl)
        exact ih (inside _ mem) other
  | first _ ih =>
    cases other with
    | first other =>
      cases distinct with
      | arr inside => exact ih (inside _ List.mem_cons_self) other

def Step.inside : Step → List Move
  | record _ => []
  | list _ => [.first]

def Route.moves (route : List Step) : List Move :=
  route.flatMap fun step => .member step.name :: step.inside

theorem Route.moves_cons (step : Step) (route : List Step) :
    moves (step :: route) = .member step.name :: (step.inside ++ moves route) :=
  rfl

theorem Inspects.exists_obj {value : Json.Value} {members : Json.Members} {route : List Step}
    (inspects : Inspects value (Route.moves route) (.obj members)) :
    ∃ others, value = .obj others := by
  cases route with
  | nil =>
    cases inspects with
    | here _ => exact ⟨members, rfl⟩
  | cons step route =>
    rw [Route.moves_cons] at inspects
    cases inspects with
    | member _ _ => exact ⟨_, rfl⟩

namespace Shape

/-- A field is made of a member: it has its key, and holds what its value is an example of. -/
structure Describes (path : String) (member : String × Json.Value) (field : Field) : Prop where
  key : field.name = member.1
  value : fieldOf (fieldPath path member.1) member.2 = .ok field.value

theorem describes_of_ofMembersAt {path : String} {members : Json.Members} {shape : Shape}
    (normal : ofMembersAt path members = .ok shape) :
    List.Forall₂ (Describes path) members shape.toList := by
  induction members generalizing shape with
  | nil =>
    obtain rfl := Except.ok.inj normal
    exact .nil
  | cons member rest ih =>
    obtain ⟨field, head, normal⟩ := exists_of_bind_eq_ok normal
    obtain ⟨others, tail, normal⟩ := exists_of_bind_eq_ok normal
    obtain rfl := Except.ok.inj normal
    rw [toList_cons]
    exact .cons ⟨rfl, head⟩ (ih tail)

private theorem exists_of_mem_right {α β : Type} {related : α → β → Prop} {first : List α}
    {second : List β} (pairs : List.Forall₂ related first second) {b : β} (mem : b ∈ second) :
    ∃ a ∈ first, related a b := by
  induction pairs with
  | nil => cases mem
  | cons head _ ih =>
    rcases List.mem_cons.mp mem with rfl | mem
    · exact ⟨_, List.mem_cons_self, head⟩
    · obtain ⟨a, found, pair⟩ := ih mem
      exact ⟨a, List.mem_cons_of_mem _ found, pair⟩

section Normalized

variable {path : String} {members : Json.Members} {shape : Shape}

theorem exists_member_of_field (normal : ofMembersAt path members = .ok shape) {field : Field}
    (mem : field ∈ shape.toList) : ∃ member ∈ members, Describes path member field :=
  exists_of_mem_right (describes_of_ofMembersAt normal) mem

theorem exists_field_of_member (normal : ofMembersAt path members = .ok shape)
    {member : String × Json.Value} (mem : member ∈ members) :
    ∃ field ∈ shape.toList, Describes path member field := by
  have flipped : List.Forall₂ (flip (Describes path)) shape.toList members :=
    (describes_of_ofMembersAt normal).flip
  exact exists_of_mem_right flipped mem

theorem names_of_ofMembersAt (normal : ofMembersAt path members = .ok shape) :
    shape.names = members.keys := by
  have described := describes_of_ofMembersAt normal
  unfold names Json.Members.keys
  clear normal
  generalize shape.toList = fields at described
  induction described with
  | nil => rfl
  | cons describes _ ih => rw [List.map_cons, List.map_cons, describes.key, ih]

end Normalized

theorem exists_object_of_fieldOf {path : String} {step : Step} {value : Json.Value}
    {inner : Shape} (held : fieldOf path value = .ok (step.field inner).value) :
    ∃ path' members, ofMembersAt path' members = .ok inner ∧
      ∀ route target, Inspects (.obj members) route target →
        Inspects value (step.inside ++ route) target := by
  cases step with
  | record name =>
    obtain ⟨members, rfl, normal⟩ : ∃ members, value = .obj members ∧
        ofMembersAt path members = .ok inner := by
      unfold fieldOf at held
      split at held
      all_goals try cases held
      · obtain ⟨fields, normal, held⟩ := exists_of_bind_eq_ok held
        cases held
        exact ⟨_, rfl, normal⟩
      · obtain ⟨fields, normal, held⟩ := exists_of_bind_eq_ok held
        cases held
    exact ⟨path, members, normal, fun _ _ inspects => inspects⟩
  | list name =>
    obtain ⟨members, others, rfl, normal⟩ : ∃ members others, value = .arr (.obj members :: others) ∧
        ofMembersAt (elementPath path) members = .ok inner := by
      unfold fieldOf at held
      split at held
      all_goals try cases held
      · obtain ⟨fields, normal, held⟩ := exists_of_bind_eq_ok held
        cases held
      · obtain ⟨fields, normal, held⟩ := exists_of_bind_eq_ok held
        cases held
        exact ⟨_, _, rfl, normal⟩
    exact ⟨elementPath path, members, normal, fun _ _ inspects => .first inspects⟩

theorem exists_record_of_fieldOf {path : String} {step : Step} {value : Json.Value}
    {field : FieldValue} {members : Json.Members} {route : List Step}
    (held : fieldOf path value = .ok field)
    (inspects : Inspects value (step.inside ++ Route.moves route) (.obj members)) :
    ∃ path' outer inner, field = (step.field inner).value ∧ ofMembersAt path' outer = .ok inner ∧
      Inspects (.obj outer) (Route.moves route) (.obj members) := by
  cases step with
  | record name =>
    obtain ⟨outer, rfl⟩ := Inspects.exists_obj inspects
    obtain ⟨inner, normal, held⟩ := exists_of_bind_eq_ok held
    obtain rfl := Except.ok.inj held
    exact ⟨path, outer, inner, rfl, normal, inspects⟩
  | list name =>
    cases inspects with
    | first inspects =>
      obtain ⟨outer, rfl⟩ := Inspects.exists_obj inspects
      obtain ⟨inner, normal, held⟩ := exists_of_bind_eq_ok held
      obtain rfl := Except.ok.inj held
      exact ⟨elementPath path, outer, inner, rfl, normal, inspects⟩

theorem Reaches.exists_object {path : String} {members : Json.Members} {shape target : Shape}
    {route : List Step} (reach : Reaches shape route target)
    (normal : ofMembersAt path members = .ok shape) :
    ∃ inner : Json.Members, Inspects (.obj members) (Route.moves route) (.obj inner) ∧
      target.names = inner.keys := by
  induction reach generalizing path members with
  | here shape => exact ⟨members, .here _, names_of_ofMembersAt normal⟩
  | @step _ _ _ step _ mem _ ih =>
    obtain ⟨⟨key, value⟩, found, describes⟩ := exists_member_of_field normal mem
    obtain ⟨path', outer, deeper, behind⟩ := exists_object_of_fieldOf describes.value
    obtain ⟨inner, inspects, names⟩ := ih deeper
    have named : step.name = key := by
      have same : (step.field _).name = key := describes.key
      rw [← same]
      cases step <;> rfl
    refine ⟨inner, ?_, names⟩
    rw [Route.moves_cons, named]
    exact .member found (behind _ _ inspects)

theorem exists_record_of_inspects {path : String} {members inner : Json.Members} {shape : Shape}
    {route : List Step} (inspects : Inspects (.obj members) (Route.moves route) (.obj inner))
    (normal : ofMembersAt path members = .ok shape) :
    ∃ target, Reaches shape route target ∧ target.names = inner.keys := by
  induction route generalizing path members shape with
  | nil =>
    cases inspects with
    | here _ => exact ⟨shape, .here shape, names_of_ofMembersAt normal⟩
  | cons step route ih =>
    rw [Route.moves_cons] at inspects
    cases inspects with
    | member mem inspects =>
      obtain ⟨⟨name, value⟩, found, describes⟩ := exists_field_of_member normal mem
      obtain ⟨path', outer, record, held, deeper, inspects⟩ :=
        exists_record_of_fieldOf describes.value inspects
      obtain ⟨target, reach, names⟩ := ih inspects deeper
      have same : (⟨name, value⟩ : Field) = step.field record := by
        have named : name = step.name := describes.key
        have valued : value = (step.field record).value := held
        subst named valued
        cases step <;> rfl
      rw [same] at found
      exact ⟨target, .step found reach, names⟩

end Shape

def Scalar.sample : Scalar → Json.Value
  | .string => .str ""
  | .number => .num (.int 0)
  | .boolean => .bool false

namespace Shape

def sample : Shape → Json.Members
  | .nil => []
  | .scalar name kind rest => (name, .str kind.name) :: rest.sample
  | .scalars name kind rest => (name, .arr [kind.sample]) :: rest.sample
  | .record name fields rest => (name, .obj fields.sample) :: rest.sample
  | .records name element rest => (name, .arr [.obj element.sample]) :: rest.sample

theorem ofTag_name (kind : Scalar) : Scalar.ofTag kind.name = kind := by
  cases kind <;> decide +kernel

theorem ofMembersAt_sample (shape : Shape) (path : String) :
    ofMembersAt path shape.sample = .ok shape := by
  induction shape generalizing path with
  | nil => rfl
  | scalar name kind rest ih =>
    rw [sample, ofMembersAt, fieldOf, ofTag_name, ih]
    rfl
  | scalars name kind rest ih =>
    have held : fieldOf (fieldPath path name) (.arr [kind.sample]) = .ok (.scalars kind) := by
      cases kind <;> rfl
    rw [sample, ofMembersAt, held, ih]
    rfl
  | record name fields rest inner ih =>
    rw [sample, ofMembersAt, fieldOf, inner, ih]
    rfl
  | records name element rest inner ih =>
    rw [sample, ofMembersAt, fieldOf, inner, ih]
    rfl

/-- Whenever a record is reached, its names are distinct. -/
def DistinctNames (shape : Shape) : Prop :=
  ∀ route target, Reaches shape route target → target.names.Nodup

theorem DistinctNames.of_mem {shape inner : Shape} {step : Step} (distinct : DistinctNames shape)
    (mem : step.field inner ∈ shape.toList) : DistinctNames inner :=
  fun _ _ reach => distinct _ _ (.step mem reach)

theorem DistinctNames.of_ofMembers {members : Json.Members} {shape : Shape}
    (distinct : Distinct (.obj members)) (normal : ofMembers members = .ok shape) :
    DistinctNames shape := by
  intro route target reach
  obtain ⟨inner, inspects, names⟩ := reach.exists_object normal
  cases inspects.distinct distinct with
  | obj keys _ =>
    rw [names]
    exact keys

private theorem distinct_sample_of_members {shape : Shape} (distinct : DistinctNames shape)
    (inside : ∀ member ∈ shape.sample, Distinct member.2) : Distinct (.obj shape.sample) := by
  have names := distinct [] shape (.here shape)
  rw [names_of_ofMembersAt (ofMembersAt_sample shape "")] at names
  exact .obj names inside

theorem distinct_sample {shape : Shape} (distinct : DistinctNames shape) :
    Distinct (.obj shape.sample) := by
  refine distinct_sample_of_members distinct ?_
  -- the fields are walked one by one, each with the record behind it
  have behind (step : Step) (inner : Shape) (mem : step.field inner ∈ shape.toList) :
      DistinctNames inner := distinct.of_mem mem
  clear distinct
  induction shape with
  | nil => exact fun _ mem => nomatch mem
  | scalar name kind rest ih =>
    have later := ih fun step inner found => behind step inner (List.mem_cons_of_mem _ found)
    exact List.forall_mem_cons.mpr ⟨.str _, later⟩
  | scalars name kind rest ih =>
    have later := ih fun step inner found => behind step inner (List.mem_cons_of_mem _ found)
    have first : Distinct kind.sample := by
      cases kind with
      | string => exact .str _
      | number => exact .num _
      | boolean => exact .bool _
    exact List.forall_mem_cons.mpr ⟨.arr (List.forall_mem_singleton.mpr first), later⟩
  | record name fields rest inside ih =>
    have later := ih fun step inner found => behind step inner (List.mem_cons_of_mem _ found)
    have distinct := behind (.record name) fields List.mem_cons_self
    have first := distinct_sample_of_members distinct (inside fun _ _ => distinct.of_mem)
    exact List.forall_mem_cons.mpr ⟨first, later⟩
  | records name element rest inside ih =>
    have later := ih fun step inner found => behind step inner (List.mem_cons_of_mem _ found)
    have distinct := behind (.list name) element List.mem_cons_self
    have first := distinct_sample_of_members distinct (inside fun _ _ => distinct.of_mem)
    exact List.forall_mem_cons.mpr ⟨.arr (List.forall_mem_singleton.mpr first), later⟩

/-- The shapes of responses with distinct keys are the trees without a repeated name, and the
records of a shape and the objects of its response are at the same places, with the same names. -/
theorem shapes_are_distinct_trees :
    (∀ shape, (∃ members : Json.Members, Distinct (.obj members) ∧ ofMembers members = .ok shape) ↔
        ∀ route target, Reaches shape route target → target.names.Nodup) ∧
      ∀ (members : Json.Members) shape, ofMembers members = .ok shape →
        (∀ route target, Reaches shape route target →
          ∃ inner : Json.Members, Inspects (.obj members) (Route.moves route) (.obj inner) ∧
            target.names = inner.keys) ∧
        (∀ route (inner : Json.Members), Inspects (.obj members) (Route.moves route) (.obj inner) →
          ∃ target, Reaches shape route target ∧ target.names = inner.keys) ∧
        (Distinct (.obj members) → ∀ route target (inner : Json.Members),
          Reaches shape route target →
            Inspects (.obj members) (Route.moves route) (.obj inner) →
              target.names = inner.keys) := by
  refine ⟨fun shape => ⟨?_, ?_⟩, fun members shape normal => ⟨?_, ?_, ?_⟩⟩
  · rintro ⟨members, distinct, normal⟩ route target reach
    obtain ⟨inner, inspects, names⟩ := reach.exists_object normal
    cases inspects.distinct distinct with
    | obj keys _ =>
      rw [names]
      exact keys
  · intro distinct
    exact ⟨shape.sample, distinct_sample distinct, ofMembersAt_sample shape ""⟩
  · exact fun _ _ reach => reach.exists_object normal
  · exact fun _ _ inspects => exists_record_of_inspects inspects normal
  · intro distinct route target inner reach inspects
    obtain ⟨found, inspects', names⟩ := reach.exists_object normal
    obtain rfl := Json.Value.obj.inj (inspects.unique distinct inspects')
    exact names

theorem names_of_first_owner :
    let owner : Json.Members := [("name", .str "string"), ("id", .num (.int 7))]
    let members : Json.Members := [("rows", .arr [.obj [("owner", .obj owner)], .null])]
    let fields : Shape := .scalar "name" .string (.scalar "id" .number .nil)
    let shape : Shape := .records "rows" (.record "owner" fields .nil) .nil
    let route : List Step := [.list "rows", .record "owner"]
    ofMembers members = .ok shape ∧ Distinct (.obj members) ∧ Reaches shape route fields ∧
      Inspects (.obj members) (Route.moves route) (.obj owner) ∧ fields.names = owner.keys := by
  intro owner members fields shape route
  have normal : ofMembers members = .ok shape := by decide +kernel
  have ownerDistinct : Distinct (.obj owner) := by
    refine .obj (by decide) (List.forall_mem_cons.mpr ⟨.str _, ?_⟩)
    exact List.forall_mem_singleton.mpr (.num _)
  have rowDistinct : Distinct (.obj [("owner", .obj owner)]) :=
    .obj (List.nodup_singleton _) (List.forall_mem_singleton.mpr ownerDistinct)
  have distinct : Distinct (.obj members) := by
    refine .obj (List.nodup_singleton _) (List.forall_mem_singleton.mpr (.arr ?_))
    exact List.forall_mem_cons.mpr ⟨rowDistinct, List.forall_mem_singleton.mpr .null⟩
  have reach : Reaches shape route fields := by
    have rows : (Step.list "rows").field (.record "owner" fields .nil) ∈ shape.toList :=
      List.mem_cons_self
    have inside : (Step.record "owner").field fields ∈
        (Shape.record "owner" fields .nil).toList := List.mem_cons_self
    exact .step rows (.step inside (.here fields))
  have inspects : Inspects (.obj members) (Route.moves route) (.obj owner) :=
    .member List.mem_cons_self (.first (.member List.mem_cons_self (.here _)))
  have names := (shapes_are_distinct_trees.2 members shape normal).2.2 distinct
  exact ⟨normal, distinct, reach, inspects, names route fields owner reach inspects⟩

end Shape

end RestGraph
