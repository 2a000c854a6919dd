import Mathlib.Data.List.Induction
import RestGraph.Artifacts
import RestGraph.Endpoint.OfText
import RestGraph.Proofs.Expansion
/-!
Which fragments an operation needs. A fragment is generated for every list of records, but a record
in an element of a list is selected by the names of its fields alone, so no fragment for a list
behind such a record is ever spread.
-/

set_option autoImplicit false

namespace RestGraph

namespace Route

/-- Once a route is in the elements of a list, it goes on through lists alone. -/
def StaysInLists (route : List Step) : Prop :=
  route.Pairwise fun earlier later => earlier.isList = true → later.isList = true

instance (route : List Step) : Decidable (StaysInLists route) :=
  inferInstanceAs (Decidable (route.Pairwise _))

theorem staysInLists_of_isOutside {found : FoundList} (outside : found.isOutside = true) :
    StaysInLists found.route := by
  apply List.pairwise_of_forall_mem_list
  intro earlier mem later _ isList
  have record := List.all_eq_true.mp outside earlier mem
  rw [isList] at record
  cases record

theorem staysInLists_inside {found : FoundList} (stays : StaysInLists found.route) :
    StaysInLists found.inside := by
  refine List.pairwise_append.mpr ⟨stays, List.pairwise_singleton _ _, ?_⟩
  intro earlier _ later mem _
  obtain rfl := List.mem_singleton.mp mem
  rfl

end Route

theorem Endpoint.generate_eq_ok (options : Options) (endpoint : Endpoint)
    (valid : options.check = .ok ()) (accepted : endpoint.collision? = none) :
    endpoint.generate options = .ok (endpoint.artifacts options) := by
  simp [generate, valid, accepted]

theorem Endpoint.collision?_eq_none_of_generate {options : Options} {endpoint : Endpoint}
    {artifacts : Artifacts} (detects : options.detectCollisions = true)
    (generated : endpoint.generate options = .ok artifacts) : endpoint.collision? = none := by
  rw [generate] at generated
  cases check : options.check with
  | error fault => rw [check] at generated; cases generated
  | ok _ =>
    rw [check, detects] at generated
    cases found : endpoint.collision? with
    | none => rfl
    | some collision => simp [found] at generated

namespace Query

/-- The fragments that an operation needs: those that its selection spreads, and those that are
spread in the body of a fragment that it needs. -/
inductive Uses (query : Query) : String → Prop
  | operation {name : String} :
    name ∈ query.document.rootSelection.spreads → Uses query name
  | fragment {name : String} {user : Fragment} :
    user ∈ query.fragments → Uses query user.name → name ∈ user.body.spreads → Uses query name

variable {options : Options} {endpoint : Endpoint}

theorem uses_of_isOutside {found : FoundList} (plain : endpoint.response.Plain)
    (mem : found ∈ endpoint.response.lists) (outside : found.isOutside = true) :
    (ofEndpoint options endpoint).Uses found.fragmentName := by
  apply Uses.operation
  rw [rootSelection_document]
  show found.fragmentName ∈ (Selection.ofShape endpoint.response).document.spreads
  rw [Selection.spreads_ofShape plain]
  exact List.mem_map_of_mem (List.mem_filter.mpr ⟨mem, outside⟩)

theorem uses_inside {found : FoundList} {name : String} {element : Shape}
    (plain : endpoint.response.Plain) (mem : found ∈ endpoint.response.lists)
    (uses : (ofEndpoint options endpoint).Uses found.fragmentName)
    (inner : ⟨name, .records element⟩ ∈ found.element.toList) :
    (ofEndpoint options endpoint).Uses (Naming.fragment name) := by
  let user := Fragment.ofPlace (found.place (Naming.responseType endpoint.name) "" "")
  have userMem : user ∈ (ofEndpoint options endpoint).fragments := by
    rw [fragments_ofEndpoint]
    exact List.mem_map_of_mem mem
  have spread : Naming.fragment name ∈ user.body.spreads :=
    (Selection.mem_spreads_ofElement (plain.element mem)).mpr ⟨name, element, inner, rfl⟩
  exact .fragment userMem uses spread

theorem uses_of_staysInLists {found : FoundList} (plain : endpoint.response.Plain)
    (mem : found ∈ endpoint.response.lists) (stays : Route.StaysInLists found.route) :
    (ofEndpoint options endpoint).Uses found.fragmentName := by
  obtain ⟨route, name, element⟩ := found
  induction route using List.reverseRecOn generalizing name element with
  | nil => exact uses_of_isOutside plain mem rfl
  | append_singleton route step ih =>
    obtain ⟨before, _, last⟩ := List.pairwise_append.mp stays
    cases step with
    | record step =>
      -- No list comes before a record, so the operation itself spreads the fragment.
      apply uses_of_isOutside plain mem
      apply List.all_eq_true.mpr
      intro earlier earlierMem
      rcases List.mem_append.mp earlierMem with earlierMem | lastMem
      · have records := mt (last earlier earlierMem _ List.mem_cons_self) Bool.false_ne_true
        simpa using records
      · obtain rfl := List.mem_singleton.mp lastMem
        rfl
    | list step =>
      obtain ⟨holder, reach, inner⟩ := (Shape.mem_lists.mp mem).split_last
      have found : ⟨route, step, holder⟩ ∈ endpoint.response.lists := Shape.mem_lists.mpr reach
      exact uses_inside plain found (ih step holder found before) inner

theorem exists_staysInLists_of_uses {name : String} (plain : endpoint.response.Plain)
    (distinct : (endpoint.response.lists.map FoundList.fragmentName).Nodup)
    (uses : (ofEndpoint options endpoint).Uses name) :
    ∃ found ∈ endpoint.response.lists, found.fragmentName = name ∧
      Route.StaysInLists found.route := by
  induction uses with
  | operation mem =>
    rw [rootSelection_document] at mem
    have spread := Selection.spreads_ofShape plain ▸ mem
    obtain ⟨found, foundMem, named⟩ := List.mem_map.mp spread
    obtain ⟨foundMem, outside⟩ := List.mem_filter.mp foundMem
    exact ⟨found, foundMem, named, Route.staysInLists_of_isOutside outside⟩
  | fragment userMem _ mem ih =>
    obtain ⟨found, foundMem, named, stays⟩ := ih
    rw [fragments_ofEndpoint] at userMem
    obtain ⟨other, otherMem, rfl⟩ := List.mem_map.mp userMem
    obtain rfl := List.inj_on_of_nodup_map distinct foundMem otherMem named
    obtain ⟨field, element, inner, named⟩ :=
      (Selection.mem_spreads_ofElement (plain.element foundMem)).mp mem
    exact ⟨_, Shape.mem_lists_inside foundMem inner, named, Route.staysInLists_inside stays⟩

end Query

end RestGraph
