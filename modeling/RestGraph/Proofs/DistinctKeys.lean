import RestGraph.Proofs.DistinctNames
import RestGraph.Proofs.TypedReading
/-!
Objects that are read have distinct keys: a key that is given again is settled while its object is
put together. So the response of a descriptor that is read from a text names no field twice.
-/

set_option autoImplicit false

namespace RestGraph

namespace Json

open Value (Distinct)

namespace Members

theorem mem_put {members : Members} {key : String} {v : Value} {member : String × Value}
    (mem : member ∈ members.put key v) : member = (key, v) ∨ member ∈ members := by
  induction members with
  | nil => exact .inl (List.mem_singleton.mp mem)
  | cons first rest ih =>
    rw [put] at mem
    split at mem
    · rename_i same
      rcases List.mem_cons.mp mem with rfl | mem
      · exact .inl (by rw [same])
      · exact .inr (List.mem_cons_of_mem _ mem)
    · rcases List.mem_cons.mp mem with rfl | mem
      · exact .inr List.mem_cons_self
      · exact (ih mem).imp_right (List.mem_cons_of_mem _)

theorem nodup_keys_put {members : Members} (distinct : members.keys.Nodup) (key : String)
    (v : Value) : (members.put key v).keys.Nodup := by
  induction members with
  | nil => exact List.nodup_singleton key
  | cons first rest ih =>
    obtain ⟨fresh, others⟩ := List.nodup_cons.mp distinct
    rw [put]
    split
    · exact List.nodup_cons.mpr ⟨fresh, others⟩
    · rename_i other
      refine List.nodup_cons.mpr ⟨fun again => ?_, ih others⟩
      obtain ⟨member, mem, same⟩ := List.mem_map.mp again
      rcases mem_put mem with rfl | mem
      · exact other same.symm
      · exact fresh (List.mem_map.mpr ⟨member, mem, same⟩)

theorem distinct_put {members : Members} {key : String} {v : Value}
    (distinct : Distinct (.obj members)) (new : Distinct v) :
    Distinct (.obj (members.put key v)) := by
  cases distinct with
  | obj keys inside =>
    refine .obj (nodup_keys_put keys key v) fun member mem => ?_
    rcases mem_put mem with rfl | mem
    · exact new
    · exact inside member mem

theorem distinct_ofPairs {pairs : List (String × Value)}
    (inside : ∀ pair ∈ pairs, Distinct pair.2) : Distinct (.obj (ofPairs pairs)) := by
  have none : Distinct (.obj []) := .obj List.nodup_nil nofun
  refine List.foldlRecOn (motive := fun members => Distinct (.obj members)) pairs _ none ?_
  intro members before pair mem
  exact distinct_put before (inside pair mem)

end Members

section Reading

variable {depth : Nat} {text after : List Char}

private theorem ElementsRead.forall_values {α : Type} {element : Reader α} {property : α → Prop}
    {values : List α} (read : ElementsRead element text values after)
    (each : ∀ text taken, element text = .ok taken → property taken.value) :
    ∀ v ∈ values, property v := by
  induction read with
  | last head _ => exact List.forall_mem_singleton.mpr (each _ _ head)
  | more head _ _ _ _ ih => exact List.forall_mem_cons.mpr ⟨each _ _ head, ih⟩

private theorem MembersRead.forall_values {α : Type} {member : Reader α} {property : α → Prop}
    {members : List (String × α)} (read : MembersRead member text members after)
    (each : ∀ text taken, member text = .ok taken → property taken.value) :
    ∀ pair ∈ members, property pair.2 := by
  induction read with
  | last _ head _ => exact List.forall_mem_singleton.mpr (each _ _ head)
  | more _ head _ _ _ ih => exact List.forall_mem_cons.mpr ⟨each _ _ head, ih⟩

private theorem distinct_of_object {taken : Taken (List (String × Value)) text}
    (each : ∀ text taken, value depth text = .ok taken → Distinct taken.value)
    (read : object (value depth) text = .ok taken) :
    Distinct (.obj (Members.ofPairs taken.value)) := by
  refine Members.distinct_ofPairs ?_
  rcases object_eq_ok read with ⟨-, none⟩ | ⟨_, _, -, -, listed⟩
  · rw [none]
    exact nofun
  · exact listed.forall_values each

theorem distinct_of_value {taken : Taken Value text} (read : value depth text = .ok taken) :
    Distinct taken.value := by
  induction depth using Nat.strongRecOn generalizing text taken with
  | ind depth ih =>
    have found := valueRead_of_value read
    generalize taken.value = v, taken.rest = rest at found
    cases found with
    | @array depth _ _ inner _ listed =>
      refine .arr ?_
      rcases items_eq_ok listed with ⟨-, none⟩ | ⟨_, _, -, -, elements⟩
      · rw [none]
        exact nofun
      · exact elements.forall_values fun _ _ => ih depth (Nat.lt_succ_self depth)
    | @object depth _ _ inner _ listed =>
      exact distinct_of_object (fun _ _ => ih depth (Nat.lt_succ_self depth)) listed
    | scalar _ _ _ plain =>
      rcases scalar_eq_ok plain with ⟨_, -, -, kind, -⟩ | ⟨-, kind | ⟨_, kind⟩ | ⟨_, kind⟩⟩
      · rw [kind]
        exact .str _
      · rw [kind]
        exact .null
      · rw [kind]
        exact .bool _
      · rw [kind]
        exact .num _

theorem distinct_of_objectOnly {taken : Taken Members text}
    (read : objectOnly depth text = .ok taken) : Distinct (.obj taken.value) := by
  unfold objectOnly opening at read
  split at read
  · cases read
  split at read
  · obtain ⟨outer, read, result⟩ := exists_of_bind_eq_ok read
    obtain ⟨inner, listed, made⟩ := exists_of_bind_eq_ok read
    obtain rfl := Except.ok.inj made
    obtain rfl := Except.ok.inj result
    exact distinct_of_object (fun _ _ => distinct_of_value) listed
  · cases read

end Reading

end Json

namespace Draft

open Json

namespace Gathered

def DistinctKeys (fields : Gathered) : Prop :=
  ∀ response ∈ fields.response, Value.Distinct (.obj response)

theorem DistinctKeys.readField {fields : Gathered} {field : Option FieldName} {text : List Char}
    {taken : Taken Gathered text} (distinct : fields.DistinctKeys)
    (read : fields.readField field text = .ok taken) : taken.value.DistinctKeys := by
  rcases field with _ | field
  · obtain ⟨_, -, read⟩ := exists_of_bind_eq_ok read
    obtain rfl := Except.ok.inj read
    exact distinct
  cases field with
  | name | method | parameters =>
    obtain ⟨_, -, read⟩ := exists_of_bind_eq_ok read
    obtain rfl := Except.ok.inj read
    exact distinct
  | response =>
    obtain ⟨inner, found, read⟩ := exists_of_bind_eq_ok read
    obtain rfl := Except.ok.inj read
    intro response mem
    obtain rfl := Option.some.inj mem
    exact distinct_of_objectOnly found

theorem DistinctKeys.readMembers {fields : Gathered} {text : List Char}
    {taken : Taken Gathered text} (distinct : fields.DistinctKeys)
    (read : fields.readMembers text = .ok taken) : taken.value.DistinctKeys := by
  fun_induction Gathered.readMembers fields text with
  | case1 fields text ih =>
    obtain ⟨key, -, read⟩ := exists_of_bind_eq_ok read
    obtain ⟨mark, -, read⟩ := exists_of_bind_eq_ok read
    obtain ⟨next, found, read⟩ := exists_of_bind_eq_ok read
    have further := distinct.readField found
    split at read
    · cases read
    rename_i c rest start
    dsimp only at read
    split at read
    · obtain rfl := Except.ok.inj read
      exact further
    split at read
    · obtain ⟨_, -, read⟩ := exists_of_bind_eq_ok read
      obtain ⟨others, later, read⟩ := exists_of_bind_eq_ok read
      obtain rfl := Except.ok.inj read
      exact ih key mark next c rest start further later
    · cases read

theorem response_of_finish {fields : Gathered} {draft : Draft}
    (finished : fields.finish = .ok draft) : fields.response = some draft.response := by
  obtain ⟨_, -, finished⟩ := exists_of_bind_eq_ok finished
  obtain ⟨_, -, finished⟩ := exists_of_bind_eq_ok finished
  obtain ⟨response, given, finished⟩ := exists_of_bind_eq_ok finished
  obtain rfl := Except.ok.inj finished
  cases found : fields.response with
  | none =>
    rw [found] at given
    cases given
  | some other =>
    rw [found] at given
    obtain rfl := Except.ok.inj given
    rfl

theorem DistinctKeys.of_finish {fields : Gathered} {draft : Draft} (distinct : fields.DistinctKeys)
    (finished : fields.finish = .ok draft) : Value.Distinct (.obj draft.response) :=
  distinct _ (response_of_finish finished)

end Gathered

theorem distinct_of_readObject {text : List Char} {taken : Taken Draft text}
    (read : readObject text = .ok taken) : Value.Distinct (.obj taken.value.response) := by
  have start : Gathered.DistinctKeys {} := nofun
  unfold readObject at read
  split at read
  · cases read
  split at read
  · obtain ⟨draft, finished, read⟩ := exists_of_bind_eq_ok read
    obtain rfl := Except.ok.inj read
    exact start.of_finish finished
  · obtain ⟨fields, gathered, read⟩ := exists_of_bind_eq_ok read
    obtain ⟨draft, finished, read⟩ := exists_of_bind_eq_ok read
    obtain rfl := Except.ok.inj read
    exact (start.readMembers gathered).of_finish finished

theorem distinct_of_readList {text : List Char} {taken : Taken Draft text}
    (read : readList text = .ok taken) : Value.Distinct (.obj taken.value.response) := by
  obtain ⟨name, -, read⟩ := exists_of_bind_eq_ok read
  obtain ⟨method, -, read⟩ := exists_of_bind_eq_ok read
  obtain ⟨parameters, -, read⟩ := exists_of_bind_eq_ok read
  obtain ⟨response, found, read⟩ := exists_of_bind_eq_ok read
  obtain ⟨close, -, read⟩ := exists_of_bind_eq_ok read
  obtain rfl := Except.ok.inj read
  obtain ⟨next, -, found⟩ := exists_of_bind_eq_ok found
  rcases next with _ | left
  · cases found
  · obtain ⟨inner, object, found⟩ := exists_of_bind_eq_ok found
    obtain rfl := Except.ok.inj found
    have distinct := distinct_of_objectOnly object
    exact distinct

/-- The response in a text that is read as a descriptor has distinct keys. -/
theorem distinct_of_parse {text : String} {draft : Draft} (parsed : parse text = .ok draft) :
    Value.Distinct (.obj draft.response) := by
  obtain ⟨taken, read, parsed⟩ := exists_of_bind_eq_ok parsed
  obtain ⟨_, -, parsed⟩ := exists_of_bind_eq_ok parsed
  obtain rfl := Except.ok.inj parsed
  unfold Draft.read at read
  split at read
  · cases read
  dsimp only at read
  split at read
  · obtain ⟨inner, list, read⟩ := exists_of_bind_eq_ok read
    obtain rfl := Except.ok.inj read
    have distinct := distinct_of_readList list
    exact distinct
  split at read
  · obtain ⟨inner, object, read⟩ := exists_of_bind_eq_ok read
    obtain rfl := Except.ok.inj read
    have distinct := distinct_of_readObject object
    exact distinct
  · cases read

end Draft

end RestGraph
