import Mathlib.Data.List.Forall2
import RestGraph.Proofs.DistinctNames
import RestGraph.Proofs.WrittenParameters
/-!
Drafts and the endpoints they describe. A draft is at fault for its name, then for the first of its
parameters that cannot be read, then for its response; without a fault it describes one endpoint.
What was converted is in normal form, and a draft that is written from it is converted alike.
-/

set_option autoImplicit false

namespace RestGraph

def Parameter.ReadsAll : List String → List Parameter → Prop :=
  List.Forall₂ fun input parameter => parse input = .ok parameter

namespace Endpoint

open Parameter (IsWritable ReadsAll)

/-- The endpoint that a draft describes: its name is the name in the draft without the white space
around it, the method is kept, and parameters and response are understood. -/
structure Describes (draft : Draft) (endpoint : Endpoint) : Prop where
  name : Text.IsCore draft.name.toList endpoint.name.toList
  named : endpoint.name.toList ≠ []
  method : endpoint.method = draft.method
  parameters : ReadsAll draft.parameters endpoint.parameters
  response : Shape.ofMembers draft.response = .ok endpoint.response

/-- What a draft is converted to. Of several things that are wrong with it the first one counts,
from the name over the parameters in their order to the response. -/
inductive Converts (draft : Draft) : Except Fault Endpoint → Prop
  | emptyName : Text.IsCore draft.name.toList [] → Converts draft (.error .emptyName)
  | parameter {name : List Char} {before after : List String} {input : String}
    {fault : Parameter.Fault} : Text.IsCore draft.name.toList name → name ≠ [] →
    draft.parameters = before ++ input :: after →
    (∀ earlier ∈ before, ∃ parameter, Parameter.parse earlier = .ok parameter) →
    Parameter.parse input = .error fault → Converts draft (.error (.parameter input fault))
  | response {name : List Char} {parameters : List Parameter} {fault : Shape.Fault} :
    Text.IsCore draft.name.toList name → name ≠ [] → ReadsAll draft.parameters parameters →
    Shape.ofMembers draft.response = .error fault → Converts draft (.error (.response fault))
  | accepted {endpoint : Endpoint} : Describes draft endpoint → Converts draft (.ok endpoint)

/-- The form of a converted endpoint: the name is not empty and has no white space at its ends, and
the names of the parameters can be written. -/
structure IsNormal (endpoint : Endpoint) : Prop where
  named : endpoint.name.toList ≠ []
  first : ∀ c, endpoint.name.toList.head? = some c → Text.isBlank c = false
  last : ∀ c, endpoint.name.toList.getLast? = some c → Text.isBlank c = false
  parameters : ∀ parameter ∈ endpoint.parameters, IsWritable parameter.name.toList

def written (endpoint : Endpoint) (response : Json.Members) : Draft :=
  ⟨endpoint.name, endpoint.method, endpoint.parameters.map Parameter.written, response⟩

section Parameters

variable {inputs before after : List String} {input : String} {parameters : List Parameter}

theorem parseParameters_cons_ok {parameter : Parameter}
    (read : Parameter.parse input = .ok parameter) (rest : List String) :
    parseParameters (input :: rest) =
      (parseParameters rest).map fun others => parameter :: others := by
  rw [parseParameters, read]
  cases parseParameters rest <;> rfl

theorem parseParameters_cons_error {fault : Parameter.Fault}
    (failed : Parameter.parse input = .error fault) (rest : List String) :
    parseParameters (input :: rest) = .error (.parameter input fault) := by
  rw [parseParameters, failed]

theorem parseParameters_of_readsAll (reads : ReadsAll inputs parameters) :
    parseParameters inputs = .ok parameters := by
  induction reads with
  | nil => rfl
  | cons head _ ih =>
    rw [parseParameters_cons_ok head, ih]
    rfl

theorem readsAll_of_parseParameters (read : parseParameters inputs = .ok parameters) :
    ReadsAll inputs parameters := by
  induction inputs generalizing parameters with
  | nil =>
    obtain rfl := Except.ok.inj read
    exact .nil
  | cons input rest ih =>
    cases first : Parameter.parse input with
    | error fault =>
      rw [parseParameters_cons_error first] at read
      cases read
    | ok parameter =>
      rw [parseParameters_cons_ok first] at read
      cases further : parseParameters rest with
      | error fault =>
        rw [further] at read
        cases read
      | ok others =>
        rw [further] at read
        obtain rfl := Except.ok.inj read
        exact .cons first (ih further)

theorem parseParameters_of_first_fault {fault : Parameter.Fault}
    (sound : ∀ earlier ∈ before, ∃ parameter, Parameter.parse earlier = .ok parameter)
    (failed : Parameter.parse input = .error fault) :
    parseParameters (before ++ input :: after) = .error (.parameter input fault) := by
  induction before with
  | nil => exact parseParameters_cons_error failed after
  | cons earlier rest ih =>
    rw [List.forall_mem_cons] at sound
    obtain ⟨⟨parameter, first⟩, sound⟩ := sound
    rw [List.cons_append, parseParameters_cons_ok first, ih sound]
    rfl

theorem exists_first_fault {fault : Fault} (failed : parseParameters inputs = .error fault) :
    ∃ before input after cause, inputs = before ++ input :: after ∧
      (∀ earlier ∈ before, ∃ parameter, Parameter.parse earlier = .ok parameter) ∧
        Parameter.parse input = .error cause ∧ fault = .parameter input cause := by
  induction inputs with
  | nil => cases failed
  | cons input rest ih =>
    cases first : Parameter.parse input with
    | error cause =>
      rw [parseParameters_cons_error first] at failed
      exact ⟨[], input, rest, cause, rfl, by simp, first, (Except.error.inj failed).symm⟩
    | ok parameter =>
      rw [parseParameters_cons_ok first] at failed
      cases further : parseParameters rest with
      | ok others =>
        rw [further] at failed
        cases failed
      | error later =>
        rw [further] at failed
        obtain rfl := Except.error.inj failed
        obtain ⟨before, input', after, cause, rfl, sound, wrong, shown⟩ := ih further
        refine ⟨input :: before, input', after, cause, rfl, ?_, wrong, shown⟩
        rw [List.forall_mem_cons]
        exact ⟨⟨parameter, first⟩, sound⟩

theorem exists_parse_of_readsAll (reads : ReadsAll inputs parameters) :
    ∀ input ∈ inputs, ∃ parameter, Parameter.parse input = .ok parameter := by
  have both : List.Forall₂ (fun input parameter =>
      (∃ read, Parameter.parse input = .ok read) ∧ Parameter.parse input = .ok parameter)
      inputs parameters := reads.imp fun _ parameter read => ⟨⟨parameter, read⟩, read⟩
  exact ((List.forall₂_and_left inputs parameters).mp both).1

theorem readsAll_written
    (writable : ∀ parameter ∈ parameters, IsWritable parameter.name.toList) :
    ReadsAll (parameters.map Parameter.written) parameters := by
  rw [ReadsAll, List.forall₂_map_left_iff, List.forall₂_same]
  exact fun parameter mem => Parameter.parse_written (writable parameter mem)

theorem isWritable_of_readsAll (reads : ReadsAll inputs parameters) :
    ∀ parameter ∈ parameters, IsWritable parameter.name.toList := by
  induction reads with
  | nil => simp
  | cons head _ ih =>
    rw [List.forall_mem_cons]
    exact ⟨Parameter.isWritable_of_parse head, ih⟩

end Parameters

section Conversion

variable {draft : Draft} {endpoint : Endpoint} {result : Except Fault Endpoint}

theorem ofDraft_of_isCore {name : List Char} (core : Text.IsCore draft.name.toList name) :
    ofDraft draft =
      if name = [] then .error .emptyName
      else parseParameters draft.parameters >>= fun parameters =>
        match Shape.ofMembers draft.response with
        | .error fault => .error (.response fault)
        | .ok response => .ok ⟨String.ofList name, draft.method, parameters, response⟩ := by
  obtain rfl := Text.isCore_iff.mp core
  have empty : (Text.trim draft.name).isEmpty = true ↔ Text.trimChars draft.name.toList = [] := by
    rw [String.isEmpty_iff, ← Text.toList_trim, String.toList_eq_nil_iff]
  unfold ofDraft
  simp only [empty]
  rfl

theorem converts_ofDraft (draft : Draft) : Converts draft (ofDraft draft) := by
  have core := Text.isCore_trimChars draft.name.toList
  rw [ofDraft_of_isCore core]
  split
  · rename_i empty
    rw [empty] at core
    exact .emptyName core
  rename_i filled
  cases read : parseParameters draft.parameters with
  | error fault =>
    obtain ⟨before, input, after, cause, split, sound, failed, rfl⟩ := exists_first_fault read
    exact .parameter core filled split sound failed
  | ok parameters =>
    have reads := readsAll_of_parseParameters read
    rw [ok_bind]
    cases normal : Shape.ofMembers draft.response with
    | error fault => exact .response core filled reads normal
    | ok response =>
      refine .accepted ⟨?_, ?_, rfl, reads, normal⟩
      · rwa [String.toList_ofList]
      · rwa [String.toList_ofList]

theorem ofDraft_of_describes (describes : Describes draft endpoint) :
    ofDraft draft = .ok endpoint := by
  obtain ⟨name, method, parameters, response⟩ := endpoint
  obtain ⟨core, named, rfl, reads, normal⟩ := describes
  rw [ofDraft_of_isCore core, if_neg named, parseParameters_of_readsAll reads, ok_bind, normal]
  simp only [String.ofList_toList]

theorem ofDraft_of_converts (converts : Converts draft result) : ofDraft draft = result := by
  cases converts with
  | emptyName core => rw [ofDraft_of_isCore core, if_pos rfl]
  | parameter core named split sound failed =>
    rw [ofDraft_of_isCore core, if_neg named, split, parseParameters_of_first_fault sound failed]
    rfl
  | response core named reads failed =>
    rw [ofDraft_of_isCore core, if_neg named, parseParameters_of_readsAll reads, ok_bind, failed]
  | accepted describes => exact ofDraft_of_describes describes

theorem ofDraft_eq_iff : ofDraft draft = result ↔ Converts draft result := by
  constructor
  · rintro rfl
    exact converts_ofDraft draft
  · exact ofDraft_of_converts

theorem ofDraft_eq_ok_iff : ofDraft draft = .ok endpoint ↔ Describes draft endpoint := by
  rw [ofDraft_eq_iff]
  constructor
  · intro converts
    cases converts with
    | accepted describes => exact describes
  · exact .accepted

theorem exists_describes_iff :
    (∃ endpoint, Describes draft endpoint) ↔ ¬ Text.IsCore draft.name.toList [] ∧
      (∀ input ∈ draft.parameters, ∃ parameter, Parameter.parse input = .ok parameter) ∧
        ∃ response, Shape.ofMembers draft.response = .ok response := by
  constructor
  · rintro ⟨endpoint, describes⟩
    refine ⟨fun empty => describes.named ?_, ?_, _, describes.response⟩
    · rw [← Text.isCore_iff.mp describes.name, Text.isCore_iff.mp empty]
    · exact exists_parse_of_readsAll describes.parameters
  · rintro ⟨filled, sound, response, normal⟩
    have converts := converts_ofDraft draft
    generalize ofDraft draft = result at converts
    cases converts with
    | emptyName empty => exact absurd empty filled
    | @parameter _ _ _ input _ _ _ split _ failed =>
      obtain ⟨parameter, read⟩ := sound input (by simp [split])
      rw [read] at failed
      cases failed
    | response _ _ _ failed =>
      rw [normal] at failed
      cases failed
    | accepted describes => exact ⟨_, describes⟩

theorem Describes.isNormal (describes : Describes draft endpoint) : IsNormal endpoint where
  named := describes.named
  first := describes.name.first
  last := describes.name.last
  parameters := isWritable_of_readsAll describes.parameters

theorem IsNormal.describes_written (normal : IsNormal endpoint) {response : Json.Members}
    (shaped : Shape.ofMembers response = .ok endpoint.response) :
    Describes (endpoint.written response) endpoint where
  name := ⟨⟨[], [], by simp [written], by simp, by simp⟩, normal.first, normal.last⟩
  named := normal.named
  method := rfl
  parameters := readsAll_written normal.parameters
  response := shaped

end Conversion

/-- Converting a draft reports the first thing that is wrong with it, and succeeds exactly if
nothing is. What comes out is in normal form, its records have distinct names if the objects of the
response have distinct keys, and the draft that is written from it is converted to it again. -/
theorem conversion_reports_first_fault (draft : Draft) :
    (∀ result, ofDraft draft = result ↔ Converts draft result) ∧
    ((∃ endpoint, ofDraft draft = .ok endpoint) ↔ ¬ Text.IsCore draft.name.toList [] ∧
      (∀ input ∈ draft.parameters, ∃ parameter, Parameter.parse input = .ok parameter) ∧
        ∃ response, Shape.ofMembers draft.response = .ok response) ∧
    ∀ endpoint, ofDraft draft = .ok endpoint →
      Describes draft endpoint ∧ IsNormal endpoint ∧
        (Json.Value.Distinct (.obj draft.response) → endpoint.response.DistinctNames) ∧
          ofDraft (endpoint.written draft.response) = .ok endpoint := by
  refine ⟨fun result => ofDraft_eq_iff, ?_, ?_⟩
  · simp only [ofDraft_eq_ok_iff]
    exact exists_describes_iff
  · intro endpoint converted
    have describes := ofDraft_eq_ok_iff.mp converted
    have normal := describes.isNormal
    refine ⟨describes, normal, ?_, ?_⟩
    · intro distinct
      exact Shape.DistinctNames.of_ofMembers distinct describes.response
    · exact ofDraft_of_describes (normal.describes_written describes.response)

def looseDraft : Draft where
  name := "\t List\u00a0"
  method := " get "
  parameters := ["$a,b)( Number ,REQUIRED", "q (text,)"]
  response := [("rows", .arr [.obj [("id", .num (.int 1)), ("owner", .obj [("id", .str "x")])]])]

def looseEndpoint : Endpoint where
  name := "List"
  method := " get "
  parameters := [⟨"$a,b)", .number, true⟩, ⟨"q", .string, false⟩]
  response := .records "rows"
    (.scalar "id" .number (.record "owner" (.scalar "id" .string .nil) .nil)) .nil

theorem looseDraft_converted :
    ofDraft looseDraft = .ok looseEndpoint ∧ IsNormal looseEndpoint ∧
      looseEndpoint.response.DistinctNames ∧
      (looseEndpoint.written looseDraft.response).parameters =
        ["$a,b) (number, required)", "q (string, optional)"] ∧
      ofDraft (looseEndpoint.written looseDraft.response) = .ok looseEndpoint ∧
      Converts { looseDraft with parameters := ["q (text,)", "id"], response := [("a", .null)] }
        (.error (.parameter "id" .missingOpen)) := by
  have converted : ofDraft looseDraft = .ok looseEndpoint := by decide +kernel
  obtain ⟨-, -, after⟩ := conversion_reports_first_fault looseDraft
  obtain ⟨-, normal, names, again⟩ := after looseEndpoint converted
  have ownerDistinct : Json.Value.Distinct (.obj [("id", .str "x")]) :=
    .obj (by decide) (List.forall_mem_singleton.mpr (.str _))
  have rowDistinct : Json.Value.Distinct
      (.obj [("id", .num (.int 1)), ("owner", .obj [("id", .str "x")])]) := by
    refine .obj (by decide) (List.forall_mem_cons.mpr ⟨.num _, ?_⟩)
    exact List.forall_mem_singleton.mpr ownerDistinct
  have distinct : Json.Value.Distinct (.obj looseDraft.response) := by
    refine .obj (by decide) (List.forall_mem_singleton.mpr (.arr ?_))
    exact List.forall_mem_singleton.mpr rowDistinct
  refine ⟨converted, normal, names distinct, by decide +kernel, again, ?_⟩
  exact ((conversion_reports_first_fault _).1 _).mp (by decide +kernel)

end Endpoint

end RestGraph
