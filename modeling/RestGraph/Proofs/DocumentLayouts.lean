import Mathlib.Data.List.Perm.Basic
import RestGraph.Proofs.DescriptorReading
/-!
The ways to lay out a descriptor document. What the four fields say can be given in any order, under
either key of each field, with keys that belong to no field in between, or as an array without keys;
all of these are read alike. A field that is given under both of its keys is never accepted.
-/

set_option autoImplicit false

namespace RestGraph

namespace Draft

open Json

def FieldName.key (small : Bool) (field : FieldName) : String :=
  if small then field.smallLabel else field.label

structure Content where
  name : Value
  method : Value
  parameters : Option Value
  response : Value

namespace Content

def assigned (content : Content) : List (FieldName × Value) :=
  (.name, content.name) :: (.method, content.method) ::
    (content.parameters.toList.map (FieldName.parameters, ·) ++ [(.response, content.response)])

def members (content : Content) (small : FieldName → Bool) : Members :=
  content.assigned.map fun entry => (entry.1.key (small entry.1), entry.2)

def draft (content : Content) : Except Error Draft := do
  let name ← stringOf content.name
  let method ← stringOf content.method
  let parameters ← (content.parameters.map stringsOf).getD (.ok [])
  let response ← membersOf content.response
  return ⟨name, method, parameters, response⟩

def array (content : Content) (parameters : Value) : Value :=
  .arr [content.name, content.method, parameters, content.response]

end Content

/-- A way to lay out what a document says as the members of an object: a choice between the keys of
each field, further members whose keys belong to no field, and an order of all of them. -/
structure Layout (content : Content) where
  small : FieldName → Bool
  others : Members
  members : Members
  unknown : ∀ member ∈ others, ∀ field : FieldName,
    member.1 ≠ field.label ∧ member.1 ≠ field.smallLabel
  order : members.Perm (content.members small ++ others)

def Layout.value {content : Content} (layout : Layout content) : Value :=
  .obj layout.members

section Keys

theorem FieldName.ofKey?_key (small : Bool) (field : FieldName) :
    ofKey? (field.key small) = some field := by
  cases small <;> cases field <;> decide

theorem FieldName.ofKey?_eq_none {key : String}
    (unknown : ∀ field : FieldName, key ≠ field.label ∧ key ≠ field.smallLabel) :
    ofKey? key = none := by
  rw [ofKey?, List.find?_eq_none]
  intro field _ found
  rw [Bool.or_eq_true, beq_iff_eq, beq_iff_eq] at found
  exact found.elim (fun label => (unknown field).1 label.symm)
    fun small => (unknown field).2 small.symm

end Keys

namespace Gathered

def take (fields : Option Gathered) (member : String × Value) : Option Gathered :=
  fields.bind fun fields => (fields.read member).toOption

private theorem foldl_take_none (members : Members) : members.foldl take none = none := by
  induction members with
  | nil => rfl
  | cons member rest ih => exact ih

theorem toOption_foldlM (members : Members) (fields : Gathered) :
    (members.foldlM read fields).toOption = members.foldl take (some fields) := by
  induction members generalizing fields with
  | nil => rfl
  | cons member rest ih =>
    rw [List.foldlM_cons, List.foldl_cons, take, Option.bind_some]
    cases fields.read member with
    | error _ => exact (foldl_take_none rest).symm
    | ok next => exact ih next

def change? (field : FieldName) (value : Value) : Option (Gathered → Gathered) :=
  match field with
  | .name => (stringOf value).toOption.map fun name fields => { fields with name := some name }
  | .method =>
    (stringOf value).toOption.map fun method fields => { fields with method := some method }
  | .parameters => (stringsOf value).toOption.map fun parameters fields =>
    { fields with parameters := some parameters }
  | .response =>
    (membersOf value).toOption.map fun response fields => { fields with response := some response }

section Changes

variable {field field' : FieldName} {value value' : Value} {change change' : Gathered → Gathered}

theorem has_change (found : change? field value = some change) (fields : Gathered)
    (other : FieldName) :
    (change fields).has other = (decide (other = field) || fields.has other) := by
  cases field <;> obtain ⟨_, _, rfl⟩ := Option.map_eq_some_iff.mp found <;> cases other <;> rfl

theorem change_comm (apart : field ≠ field') (found : change? field value = some change)
    (found' : change? field' value' = some change') (fields : Gathered) :
    change' (change fields) = change (change' fields) := by
  cases field <;> cases field' <;> first
    | exact absurd rfl apart
    | obtain ⟨_, _, rfl⟩ := Option.map_eq_some_iff.mp found
      obtain ⟨_, _, rfl⟩ := Option.map_eq_some_iff.mp found'
      rfl

theorem toOption_store (fields : Gathered) (field : FieldName) (value : Value) :
    (fields.store (some field) value).toOption = (change? field value).map (· fields) := by
  cases field with
  | name | method =>
    simp only [store, change?]
    cases stringOf value <;> rfl
  | parameters =>
    simp only [store, change?]
    cases stringsOf value <;> rfl
  | response =>
    simp only [store, change?]
    cases membersOf value <;> rfl

end Changes

theorem take_of_unknown {member : String × Value} (unknown : FieldName.ofKey? member.1 = none)
    (fields : Option Gathered) : take fields member = fields := by
  cases fields with
  | none => rfl
  | some fields =>
    rw [take, Option.bind_some, read_eq, freshKey, unknown]
    rfl

theorem take_of_field {member : String × Value} {field : FieldName}
    (found : FieldName.ofKey? member.1 = some field) (fields : Gathered) :
    take (some fields) member =
      if fields.has field then none else (change? field member.2).map (· fields) := by
  rw [take, Option.bind_some, read_eq, freshKey, found, ← toOption_store]
  dsimp only
  unfold fresh
  split <;> rfl

theorem take_of_wrong {member : String × Value} {field : FieldName}
    (found : FieldName.ofKey? member.1 = some field) (wrong : change? field member.2 = none)
    (fields : Option Gathered) : take fields member = none := by
  cases fields with
  | none => rfl
  | some fields => rw [take_of_field found, wrong, Option.map_none, ite_self]

theorem take_twice {first second : String × Value} {field : FieldName}
    (one : FieldName.ofKey? first.1 = some field) (two : FieldName.ofKey? second.1 = some field)
    (fields : Option Gathered) : take (take fields first) second = none := by
  cases found : change? field first.2 with
  | none =>
    rw [take_of_wrong one found]
    rfl
  | some change =>
    cases fields with
    | none => rfl
    | some fields =>
      rw [take_of_field one, found]
      split
      · rfl
      · rw [Option.map_some, take_of_field two, has_change found, decide_eq_true rfl,
          Bool.true_or, if_pos rfl]

/-- Two members can be read in either order. If they are for one field, the second of them is
refused in both. -/
theorem take_comm (fields : Option Gathered) (first second : String × Value) :
    take (take fields first) second = take (take fields second) first := by
  cases fields with
  | none => rfl
  | some fields =>
  cases one : FieldName.ofKey? first.1 with
  | none => rw [take_of_unknown one, take_of_unknown one]
  | some field =>
  cases two : FieldName.ofKey? second.1 with
  | none => rw [take_of_unknown two, take_of_unknown two]
  | some field' =>
  by_cases same : field = field'
  · subst same
    rw [take_twice one two, take_twice two one]
  cases found : change? field first.2 with
  | none =>
    rw [take_of_wrong one found, take_of_wrong one found]
    rfl
  | some change =>
  cases found' : change? field' second.2 with
  | none =>
    rw [take_of_wrong two found', take_of_wrong two found']
    rfl
  | some change' =>
    -- whether a field has been given does not depend on a change of the other one
    have kept : (change fields).has field' = fields.has field' := by
      simp [has_change found, Ne.symm same]
    have kept' : (change' fields).has field = fields.has field := by
      simp [has_change found', same]
    have nothing (member : String × Value) : take none member = none := rfl
    rw [take_of_field one, take_of_field two, found, found', Option.map_some, Option.map_some]
    by_cases given : fields.has field = true <;> by_cases given' : fields.has field' = true <;>
      simp [nothing, take_of_field one, take_of_field two, found, found', given, given', kept,
        kept', change_comm same found found']

theorem toOption_foldlM_perm {members others : Members} (order : members.Perm others) :
    (members.foldlM read {}).toOption = (others.foldlM read {}).toOption := by
  rw [toOption_foldlM, toOption_foldlM]
  exact order.foldl_eq' (fun first _ second _ fields => take_comm fields first second) _

end Gathered

section Layouts

variable {content : Content}

theorem fieldMembers_members (content : Content) (small : FieldName → Bool) :
    fieldMembers (content.members small) = content.members small := by
  rw [fieldMembers, List.filter_eq_self]
  intro member mem
  obtain ⟨entry, -, rfl⟩ := List.mem_map.mp mem
  rw [FieldName.ofKey?_key]
  rfl

theorem Layout.fieldMembers_others (layout : Layout content) : fieldMembers layout.others = [] := by
  rw [fieldMembers, List.filter_eq_nil_iff]
  intro member mem
  rw [FieldName.ofKey?_eq_none (layout.unknown member mem)]
  simp

theorem read_key {fields : Gathered} {field : FieldName} (small : Bool) (value : Value)
    (fresh : fields.has field = false) :
    fields.read (field.key small, value) = fields.store (some field) value := by
  have new : fields.freshKey (field.key small) = .ok () := by
    rw [Gathered.freshKey, FieldName.ofKey?_key]
    dsimp only
    rw [Gathered.fresh, fresh]
    rfl
  rw [Gathered.read_eq, new, FieldName.ofKey?_key, ok_bind]

theorem foldlM_members (content : Content) (small : FieldName → Bool) :
    (content.members small).foldlM Gathered.read {} >>= Gathered.finish = content.draft := by
  obtain ⟨name, method, parameters, response⟩ := content
  rw [Content.members, Content.draft, Content.assigned, List.map_cons, List.map_cons,
    List.foldlM_cons, read_key _ _ rfl, Gathered.store]
  cases stringOf name with
  | error _ => rfl
  | ok name =>
  rw [map_ok, ok_bind, List.foldlM_cons, read_key _ _ rfl, Gathered.store]
  cases stringOf method with
  | error _ => rfl
  | ok method =>
  rw [map_ok, ok_bind]
  cases parameters with
  | none =>
    show List.foldlM _ _ [_] >>= _ = _
    rw [List.foldlM_cons, read_key _ _ rfl, Gathered.store]
    cases membersOf response <;> rfl
  | some parameters =>
    show List.foldlM _ _ [_, _] >>= _ = _
    rw [List.foldlM_cons, read_key _ _ rfl, Gathered.store]
    show _ = (stringsOf parameters >>= _)
    cases stringsOf parameters with
    | error _ => rfl
    | ok parameters =>
      rw [map_ok, ok_bind, List.foldlM_cons, read_key _ _ rfl, Gathered.store]
      cases membersOf response <;> rfl

theorem Layout.toOption_ofValue (layout : Layout content) :
    (ofValue layout.value).toOption = content.draft.toOption := by
  have laid : fieldMembers (content.members layout.small ++ layout.others) =
      content.members layout.small := by
    rw [fieldMembers_append, fieldMembers_members, layout.fieldMembers_others, List.append_nil]
  have gathered : (layout.members.foldlM Gathered.read {}).toOption =
      ((content.members layout.small).foldlM Gathered.read {}).toOption := by
    rw [Gathered.toOption_foldlM_perm layout.order, ← foldlM_fieldMembers, laid]
  rw [← foldlM_members content layout.small, Layout.value, ofValue, toOption_bind, toOption_bind,
    gathered]

theorem ofValue_array (content : Content) (parameters : Value) :
    ofValue (content.array parameters) =
      Content.draft { content with parameters := some parameters } :=
  rfl

theorem draft_of_absent (content : Content) :
    Content.draft { content with parameters := none } =
      Content.draft { content with parameters := some (.arr []) } :=
  rfl

theorem toOption_ofValue_of_both {members : Members} {field : FieldName} {value other : Value}
    (capital : (field.label, value) ∈ members) (small : (field.smallLabel, other) ∈ members) :
    (ofValue (.obj members)).toOption = none := by
  have keys : field.label ≠ field.smallLabel := by cases field <;> decide
  obtain ⟨before, after, rfl⟩ := List.append_of_mem capital
  have rest : (field.smallLabel, other) ∈ before ++ after := by
    rcases List.mem_append.mp small with mem | mem
    · exact List.mem_append_left _ mem
    · rcases List.mem_cons.mp mem with same | mem
      · exact absurd (Prod.mk.inj same).1.symm keys
      · exact List.mem_append_right _ mem
  obtain ⟨front, back, split⟩ := List.append_of_mem rest
  have order : (before ++ (field.label, value) :: after).Perm
      ((field.label, value) :: (field.smallLabel, other) :: (front ++ back)) := by
    refine List.perm_middle.trans (.cons _ ?_)
    rw [split]
    exact List.perm_middle
  have twice : Gathered.take (Gathered.take (some {}) (field.label, value))
      (field.smallLabel, other) = none :=
    Gathered.take_twice (FieldName.ofKey?_key false field) (FieldName.ofKey?_key true field) _
  rw [ofValue, toOption_bind, Gathered.toOption_foldlM_perm order, Gathered.toOption_foldlM,
    List.foldl_cons, List.foldl_cons, twice, Gathered.foldl_take_none]
  rfl

namespace Layout

def plain (content : Content) : Layout content where
  small := fun _ => false
  others := []
  members := content.members fun _ => false
  unknown := by simp
  order := by simp

def strangers : Members :=
  [("Name", .null), ("api_name", .num (.int 1))]

def reversed (content : Content) : Layout content where
  small := fun _ => true
  others := strangers
  members := (content.members (fun _ => true) ++ strangers).reverse
  unknown := by
    intro member mem field
    rcases List.mem_cons.mp mem with rfl | mem
    · cases field <;> decide
    · obtain rfl := List.mem_singleton.mp mem
      cases field <;> decide
  order := List.reverse_perm _

end Layout

end Layouts

end Draft

namespace Endpoint

open Json Draft

/-- Two readings agree: they have the same outcome, or both report a value that has not the type of
its field. Which of several such values is reported depends on the layout. -/
def Agree (first second : Except Fault Endpoint) : Prop :=
  first = second ∨
    ∃ fault fault', first = .error (.json fault) ∧ second = .error (.json fault')

theorem agree_of_toOption_eq {value other : Value}
    (same : (Draft.ofValue value).toOption = (Draft.ofValue other).toOption) :
    Agree (ofValue value) (ofValue other) := by
  unfold ofValue
  cases first : Draft.ofValue value with
  | error fault =>
    cases second : Draft.ofValue other with
    | error fault' => exact .inr ⟨fault, fault', rfl, rfl⟩
    | ok _ =>
      rw [first, second] at same
      cases same
  | ok draft =>
    cases second : Draft.ofValue other with
    | error _ =>
      rw [first, second] at same
      cases same
    | ok draft' =>
      rw [first, second] at same
      obtain rfl : draft = draft' := Option.some.inj same
      exact .inl rfl

/-- The layout of a document makes no difference. It is read alike with its members in any order,
with either key of each field, with further members whose keys belong to no field, and as an array
without keys; parameters that are left out are an empty list. A document that gives a field under
both of its keys is refused. -/
theorem layout_makes_no_difference :
    (∀ (content : Content) (layout other : Layout content),
      Agree (ofValue layout.value) (ofValue other.value)) ∧
    (∀ (content : Content) (parameters : Value)
      (layout : Layout { content with parameters := some parameters }),
      Agree (ofValue layout.value) (ofValue (content.array parameters))) ∧
    (∀ (content : Content) (absent : Layout { content with parameters := none })
      (empty : Layout { content with parameters := some (.arr []) }),
      Agree (ofValue absent.value) (ofValue empty.value)) ∧
    ∀ (members : Members) (field : FieldName) (value other : Value),
      (field.label, value) ∈ members → (field.smallLabel, other) ∈ members →
        ∃ fault, ofValue (.obj members) = .error fault := by
  refine ⟨?_, ?_, ?_, ?_⟩
  · intro content layout other
    apply agree_of_toOption_eq
    rw [layout.toOption_ofValue, other.toOption_ofValue]
  · intro content parameters layout
    apply agree_of_toOption_eq
    rw [layout.toOption_ofValue, ofValue_array]
  · intro content absent empty
    apply agree_of_toOption_eq
    rw [absent.toOption_ofValue, empty.toOption_ofValue, draft_of_absent]
  · intro members field value other capital small
    have refused := toOption_ofValue_of_both capital small
    unfold ofValue
    cases read : Draft.ofValue (.obj members) with
    | error fault => exact ⟨_, rfl⟩
    | ok draft =>
      rw [read] at refused
      cases refused

theorem reversed_document_read :
    let content : Content := ⟨.str " T ", .str "get", none, .obj [("a", .str "number")]⟩
    let given : Content := { content with parameters := some (.arr []) }
    let endpoint : Endpoint := ⟨"T", "get", [], .scalar "a" .number .nil⟩
    ofValue (Layout.plain content).value = .ok endpoint ∧
      ofValue (Layout.reversed content).value = .ok endpoint ∧
      ofValue (Layout.reversed given).value = .ok endpoint ∧
      ofValue (content.array (.arr [])) = .ok endpoint ∧
      ∃ fault, ofValue (.obj (("name", .str "U") :: (Layout.plain content).members)) =
        .error fault := by
  intro content given endpoint
  have plain : ofValue (Layout.plain content).value = .ok endpoint := by decide +kernel
  have agrees {first second : Except Fault Endpoint} (agree : Agree first second)
      (read : first = .ok endpoint) : second = .ok endpoint := by
    rcases agree with same | ⟨_, _, failed, -⟩
    · rw [← same, read]
    · rw [read] at failed
      cases failed
  obtain ⟨orders, arrays, absences, refused⟩ := layout_makes_no_difference
  have empty := agrees (absences content (Layout.plain content) (Layout.reversed given)) plain
  refine ⟨plain, agrees (orders content _ _) plain, empty,
    agrees (arrays content (.arr []) (Layout.reversed given)) empty, ?_⟩
  have capital : (FieldName.name.label, Value.str " T ") ∈ (Layout.plain content).members :=
    List.mem_cons_self
  exact refused _ .name _ _ (List.mem_cons_of_mem _ capital) List.mem_cons_self

end Endpoint

end RestGraph
