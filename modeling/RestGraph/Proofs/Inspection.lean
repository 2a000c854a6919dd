import Mathlib.Logic.Relation
import RestGraph.Proofs.Outcomes
import RestGraph.Shape.Basic
/-!
The values of an example response that are looked at. They are reached through members and through
the first elements of arrays. A response has a shape if none of them is at fault; otherwise its fault
is that of the first one, and the elements behind the first of an array do not count.
-/

set_option autoImplicit false

namespace RestGraph

inductive Move where
  | member (key : String)
  | first
  deriving DecidableEq

namespace Move

def path (before : String) : Move → String
  | member key => if before = "" then key else before ++ "." ++ key
  | first => before ++ "[0]"

def pathOf (route : List Move) : String :=
  route.foldl path ""

theorem pathOf_member (route : List Move) (key : String) :
    pathOf (route ++ [member key]) = fieldPath (pathOf route) key := by
  simp [pathOf, path, fieldPath]

theorem pathOf_first (route : List Move) :
    pathOf (route ++ [first]) = Shape.elementPath (pathOf route) := by
  simp [pathOf, path, Shape.elementPath]

end Move

/-- A route leads from a value to one inside it, in arrays to the first element only. -/
inductive Inspects : Json.Value → List Move → Json.Value → Prop
  | here (value : Json.Value) : Inspects value [] value
  | member {members : Json.Members} {key : String} {inner target : Json.Value}
    {route : List Move} :
    (key, inner) ∈ members → Inspects inner route target →
      Inspects (.obj members) (.member key :: route) target
  | first {inner target : Json.Value} {others : List Json.Value} {route : List Move} :
    Inspects inner route target → Inspects (.arr (inner :: others)) (.first :: route) target

structure Position where
  route : List Move
  value : Json.Value

namespace Position

/-- The fault that a position has by itself: a member may not be null, and an array needs a first
element other than null and other than an array. -/
def fault? (position : Position) : Option Shape.Fault :=
  let path := Move.pathOf position.route
  match position.route.getLast?, position.value with
  | some (.member _), .null => some (.unsupported path .null)
  | _, .arr [] => some (.emptyArray path)
  | _, .arr (.null :: _) => some (.unsupported (path ++ "[0]") .nullElement)
  | _, .arr (.arr _ :: _) => some (.unsupported (path ++ "[0]") .nestedArray)
  | _, _ => none

mutual

/-- The positions in a value at the end of a route, each before those inside it. -/
def within (route : List Move) : Json.Value → List Position
  | .obj members => ⟨route, .obj members⟩ :: withinMembers route members
  | .arr (inner :: others) =>
    ⟨route, .arr (inner :: others)⟩ :: within (route ++ [.first]) inner
  | value => [⟨route, value⟩]

def withinMembers (route : List Move) : List (String × Json.Value) → List Position
  | [] => []
  | (key, value) :: rest => within (route ++ [.member key]) value ++ withinMembers route rest

end

def inspected (members : Json.Members) : List Position :=
  within [] (.obj members)

theorem mem_withinMembers {position : Position} {route : List Move} {members : Json.Members} :
    position ∈ withinMembers route members ↔
      ∃ member ∈ members, position ∈ within (route ++ [.member member.1]) member.2 := by
  induction members with
  | nil => simp [withinMembers]
  | cons member rest ih => simp [withinMembers, ih]

theorem mem_within_here (route : List Move) (value : Json.Value) :
    ⟨route, value⟩ ∈ within route value := by
  unfold within
  split <;> exact List.mem_cons_self

theorem mem_within_of_inspects {value target : Json.Value} {deeper : List Move}
    (inspects : Inspects value deeper target) (route : List Move) :
    ⟨route ++ deeper, target⟩ ∈ within route value := by
  induction inspects generalizing route with
  | here value =>
    rw [List.append_nil]
    exact mem_within_here route value
  | @member members key _ _ _ mem _ ih =>
    rw [List.append_cons, within]
    exact List.mem_cons_of_mem _ (mem_withinMembers.mpr ⟨_, mem, ih _⟩)
  | @first _ _ _ _ _ ih =>
    rw [List.append_cons, within]
    exact List.mem_cons_of_mem _ (ih _)

mutual

theorem inspects_of_mem_within {position : Position} {route : List Move} (value : Json.Value)
    (mem : position ∈ within route value) :
    ∃ deeper, position.route = route ++ deeper ∧ Inspects value deeper position.value := by
  match value with
  | .obj members =>
    rw [within] at mem
    rcases List.mem_cons.mp mem with rfl | mem
    · exact ⟨[], by simp, .here _⟩
    · obtain ⟨key, inner, found, deeper, shown, inspects⟩ :=
        inspects_of_mem_withinMembers members mem
      exact ⟨_, shown, .member found inspects⟩
  | .arr (inner :: others) =>
    rw [within] at mem
    rcases List.mem_cons.mp mem with rfl | mem
    · exact ⟨[], by simp, .here _⟩
    · obtain ⟨deeper, shown, inspects⟩ := inspects_of_mem_within inner mem
      exact ⟨.first :: deeper, by simp [shown], .first inspects⟩
  | .arr [] | .null | .bool _ | .num _ | .str _ =>
    obtain rfl := List.mem_singleton.mp mem
    exact ⟨[], by simp, .here _⟩

theorem inspects_of_mem_withinMembers {position : Position} {route : List Move}
    (members : List (String × Json.Value)) (mem : position ∈ withinMembers route members) :
    ∃ key inner, (key, inner) ∈ members ∧ ∃ deeper,
      position.route = route ++ .member key :: deeper ∧ Inspects inner deeper position.value := by
  match members with
  | [] => cases mem
  | (key, inner) :: rest =>
    rw [withinMembers] at mem
    rcases List.mem_append.mp mem with mem | mem
    · obtain ⟨deeper, shown, inspects⟩ := inspects_of_mem_within inner mem
      exact ⟨key, inner, List.mem_cons_self, deeper, by simp [shown], inspects⟩
    · obtain ⟨key', inner', found, deeper⟩ := inspects_of_mem_withinMembers rest mem
      exact ⟨key', inner', List.mem_cons_of_mem _ found, deeper⟩

end

theorem mem_inspected {members : Json.Members} {position : Position} :
    position ∈ inspected members ↔ Inspects (.obj members) position.route position.value := by
  constructor
  · intro mem
    obtain ⟨deeper, shown, inspects⟩ := inspects_of_mem_within _ mem
    rw [shown]
    exact inspects
  · intro inspects
    exact mem_within_of_inspects inspects []

def firstFault? (positions : List Position) : Option Shape.Fault :=
  positions.findSome? fault?

theorem firstFault?_cons_of_none {position : Position} (rest : List Position)
    (sound : position.fault? = none) : firstFault? (position :: rest) = firstFault? rest := by
  rw [firstFault?, List.findSome?_cons, sound]
  rfl

theorem firstFault?_append (before after : List Position) :
    firstFault? (before ++ after) = (firstFault? before).or (firstFault? after) :=
  List.findSome?_append

end Position

namespace Shape

open Position

def faultOf {α : Type} : Except Fault α → Option Fault
  | .error fault => some fault
  | .ok _ => none

theorem faultOf_bind_pure {α β : Type} (first : Except Fault α) (f : α → β) :
    faultOf (first >>= fun value => pure (f value)) = faultOf first := by
  cases first <;> rfl

mutual

theorem faultOf_fieldOf (route : List Move) (key : String) (value : Json.Value) :
    faultOf (fieldOf (Move.pathOf (route ++ [.member key])) value) =
      firstFault? (within (route ++ [.member key]) value) := by
  match value with
  | .obj members =>
    have sound : fault? ⟨route ++ [.member key], .obj members⟩ = none := by simp [fault?]
    rw [fieldOf, faultOf_bind_pure, within, firstFault?_cons_of_none _ sound]
    exact faultOf_ofMembersAt _ members
  -- an array at fault comes before everything inside it, so its inside does not count
  | .arr [] | .arr (.null :: _) | .arr (.arr _ :: _) =>
    simp [fieldOf, faultOf, within, firstFault?, fault?, elementPath]
  | .arr (.obj members :: others) =>
    have sound : fault? ⟨route ++ [.member key], .arr (.obj members :: others)⟩ = none := by
      simp [fault?]
    have inside : fault? ⟨route ++ [.member key] ++ [.first], .obj members⟩ = none := by
      simp [fault?]
    rw [fieldOf, faultOf_bind_pure, within, firstFault?_cons_of_none _ sound, within,
      firstFault?_cons_of_none _ inside, ← Move.pathOf_first]
    exact faultOf_ofMembersAt _ members
  | .arr (.str _ :: _) | .arr (.num _ :: _) | .arr (.bool _ :: _) =>
    simp [fieldOf, faultOf, within, firstFault?, fault?]
  | .null | .str _ | .num _ | .bool _ =>
    simp [fieldOf, faultOf, within, firstFault?, fault?]

theorem faultOf_ofMembersAt (route : List Move) (members : List (String × Json.Value)) :
    faultOf (ofMembersAt (Move.pathOf route) members) =
      firstFault? (withinMembers route members) := by
  match members with
  | [] => rfl
  | (key, value) :: rest =>
    have head := faultOf_fieldOf route key value
    have tail := faultOf_ofMembersAt route rest
    rw [Move.pathOf_member] at head
    rw [ofMembersAt, withinMembers, firstFault?_append, ← head, ← tail]
    cases fieldOf (fieldPath (Move.pathOf route) key) value with
    | error _ => rfl
    | ok field => exact faultOf_bind_pure _ _

end

theorem faultOf_ofMembers (members : Json.Members) :
    faultOf (ofMembers members) = firstFault? (inspected members) := by
  have sound : fault? ⟨[], .obj members⟩ = none := by simp [fault?]
  rw [inspected, within, firstFault?_cons_of_none _ sound]
  exact faultOf_ofMembersAt [] members

/-- A change of the elements behind the first one of one array, anywhere in a value. -/
inductive TailEdit : Json.Value → Json.Value → Prop
  | tail (inner : Json.Value) (others others' : List Json.Value) :
    TailEdit (.arr (inner :: others)) (.arr (inner :: others'))
  | first {inner inner' : Json.Value} (others : List Json.Value) :
    TailEdit inner inner' → TailEdit (.arr (inner :: others)) (.arr (inner' :: others))
  | member (before : Json.Members) (key : String) {inner inner' : Json.Value}
    (after : Json.Members) :
    TailEdit inner inner' →
      TailEdit (.obj (before ++ (key, inner) :: after)) (.obj (before ++ (key, inner') :: after))

private theorem ofMembersAt_congr (path : String) (before : Json.Members) (key : String)
    {inner inner' : Json.Value} (after : Json.Members)
    (same : ∀ path, fieldOf path inner = fieldOf path inner') :
    ofMembersAt path (before ++ (key, inner) :: after) =
      ofMembersAt path (before ++ (key, inner') :: after) := by
  induction before with
  | nil => rw [List.nil_append, List.nil_append, ofMembersAt, ofMembersAt, same]
  | cons member before ih =>
    rw [List.cons_append, List.cons_append, ofMembersAt, ofMembersAt, ih]

/-- A field does not depend on the elements behind the first of an array, be it in the value of the
field or in the first element of an array that is its value. -/
theorem TailEdit.fieldOf_eq {value value' : Json.Value} (edit : TailEdit value value') :
    (∀ path, fieldOf path value = fieldOf path value') ∧
      ∀ path others, fieldOf path (.arr (value :: others)) = fieldOf path (.arr (value' :: others)) := by
  induction edit with
  | tail inner others others' =>
    -- inside another array the edited one is a nested array, before and after
    refine ⟨fun path => ?_, fun path others => ?_⟩
    · cases inner <;> simp only [fieldOf]
    · simp only [fieldOf]
  | first others _ ih =>
    refine ⟨fun path => ih.2 path others, fun path others => ?_⟩
    simp only [fieldOf]
  | member before key after _ ih =>
    have same (path : String) := ofMembersAt_congr path before key after ih.1
    refine ⟨fun path => ?_, fun path others => ?_⟩
    · rw [fieldOf, fieldOf, same]
    · rw [fieldOf, fieldOf, same]

private theorem ofMembers_eq_of_fieldOf_eq {members others : Json.Members}
    (same : fieldOf "" (.obj others) = fieldOf "" (.obj members)) :
    ofMembers others = ofMembers members := by
  rw [fieldOf, fieldOf] at same
  unfold ofMembers
  cases first : ofMembersAt "" others <;> cases second : ofMembersAt "" members <;>
    rw [first, second] at same <;> cases same <;> rfl

theorem ofMembers_eq_of_tailEdits {members others : Json.Members}
    (edits : Relation.ReflTransGen TailEdit (.obj members) (.obj others)) :
    ofMembers others = ofMembers members := by
  refine ofMembers_eq_of_fieldOf_eq ?_
  generalize Json.Value.obj others = value at edits ⊢
  induction edits with
  | refl => rfl
  | tail _ edit ih => rw [← edit.fieldOf_eq.1, ih]

/-- A response has a shape exactly if none of its inspected positions is at fault, and otherwise
fails with the fault of the first one. Elements behind the first of an array change nothing. -/
theorem first_fault_in_document_order (members : Json.Members) :
    (∀ position, position ∈ inspected members ↔
        Inspects (.obj members) position.route position.value) ∧
      ((∃ shape, ofMembers members = .ok shape) ↔
        ∀ position ∈ inspected members, position.fault? = none) ∧
      (∀ fault, ofMembers members = .error fault ↔
        ∃ before position after, inspected members = before ++ position :: after ∧
          (∀ earlier ∈ before, earlier.fault? = none) ∧ position.fault? = some fault) ∧
      (Unsupported.null.describe = "null" ∧
        Unsupported.nullElement.describe = "null array element" ∧
        Unsupported.nestedArray.describe = "nested array") ∧
      ∀ others, Relation.ReflTransGen TailEdit (.obj members) (.obj others) →
        ofMembers others = ofMembers members := by
  have found := faultOf_ofMembers members
  refine ⟨fun _ => mem_inspected, ?_, fun fault => ?_, ⟨rfl, rfl, rfl⟩,
    fun _ => ofMembers_eq_of_tailEdits⟩
  · rw [← List.findSome?_eq_none_iff, ← firstFault?, ← found]
    cases ofMembers members <;> simp [faultOf]
  · have split := List.findSome?_eq_some_iff (f := fault?) (l := inspected members) (b := fault)
    rw [← firstFault?, ← found] at split
    have failed : ofMembers members = .error fault ↔ faultOf (ofMembers members) = some fault := by
      cases ofMembers members <;> simp [faultOf]
    rw [failed, split]
    constructor
    · rintro ⟨before, position, after, whole, atFault, sound⟩
      exact ⟨before, position, after, whole, sound, atFault⟩
    · rintro ⟨before, position, after, whole, sound, atFault⟩
      exact ⟨before, position, after, whole, atFault, sound⟩

def ownerless (tags : List Json.Value) (rows : List Json.Value) : Json.Members :=
  [("rows", .arr (.obj [("tags", .arr (.str "string" :: tags)), ("owner", .null)] :: rows))]

theorem ownerless_fault_of_other_rows :
    ofMembers (ownerless [] []) = .error (.unsupported "rows[0].owner" .null) ∧
      ofMembers (ownerless [.null] [.arr []]) = ofMembers (ownerless [] []) := by
  have rows : TailEdit (.obj (ownerless [] [])) (.obj (ownerless [] [.arr []])) :=
    .member [] "rows" [] (.tail _ [] [.arr []])
  have tags : TailEdit (.obj (ownerless [] [.arr []])) (.obj (ownerless [.null] [.arr []])) :=
    .member [] "rows" [] (.first _ (.member [] "tags" _ (.tail _ [] [.null])))
  have edits := (Relation.ReflTransGen.single rows).tail tags
  have same := (first_fault_in_document_order (ownerless [] [])).2.2.2.2 _ edits
  exact ⟨rfl, same⟩

end Shape

end RestGraph
