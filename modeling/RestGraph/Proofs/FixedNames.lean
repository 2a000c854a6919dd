import RestGraph.Proofs.TreeWalks
/-!
The names of the two classes that every endpoint has. No response leads to the class of the
arguments, whatever the name of the endpoint is; and the class of the response is met a second time
only behind fields that add nothing to it.
-/

set_option autoImplicit false

namespace RestGraph

namespace Naming

theorem paramsType_ne_append (endpoint more : String) :
    paramsType endpoint ≠ responseType endpoint ++ more := by
  intro same
  have spelled : endpoint.toList ++ ['P', 'a', 'r'] ++ ['a', 'm', 's'] =
      ['R', 'e', 's'] ++ endpoint.toList ++ more.toList := by
    have chars := congrArg String.toList same
    simpa [paramsType, responseType, String.toList_append] using chars
  have short : ['a', 'm', 's'].length = more.toList.length := by
    have total := congrArg List.length spelled
    simp only [List.length_append, List.length_cons, List.length_nil] at total ⊢
    omega
  obtain ⟨front, -⟩ := List.append_inj' spelled short
  have counts := congrArg (List.count 'P') front
  have once : ['P', 'a', 'r'].count 'P' = 1 := by decide
  have never : ['R', 'e', 's'].count 'P' = 0 := by decide
  rw [List.count_append, List.count_append, once, never] at counts
  omega

end Naming

theorem Step.part_eq_empty_iff (step : Step) : step.part = "" ↔ step = .record "" := by
  cases step with
  | record name => simp [part]
  | list name =>
    have longer : name ++ "Item" ≠ "" := by simp
    exact iff_of_false longer nofun

theorem Route.join_part_eq_empty_iff (route : List Step) :
    String.join (route.map Step.part) = "" ↔ ∀ step ∈ route, step = .record "" := by
  induction route with
  | nil => simp
  | cons step route ih =>
    rw [List.map_cons, String.join_cons, String.append_eq_empty_iff, List.forall_mem_cons,
      step.part_eq_empty_iff, ih]

namespace Site

theorem typeName_eq_root_iff (root : String) (site : Site) :
    site.typeName root = root ↔ ∀ step ∈ site.steps, step = .record "" := by
  rw [← Route.join_part_eq_empty_iff]
  exact String.append_eq_left_iff

theorem typeName_ne_paramsType (endpoint : String) (site : Site) :
    site.typeName (Naming.responseType endpoint) ≠ Naming.paramsType endpoint :=
  (Naming.paramsType_ne_append endpoint _).symm

end Site

/-- The classes of the arguments and of the response keep their names to themselves. No record of a
response has the class of the arguments. Of the records inside a response, all of which are listed
before it, only those have the class of the response itself that are reached through records alone,
and through empty names alone. -/
theorem fixed_classes_apart (name : String) (response : Shape) :
    let root := Naming.responseType name
    ∃ inner : List Site,
      Visits InsideFirst (fun site => response.Leads site.way site.record)
        (inner ++ [⟨[], response⟩]) ∧
      response.recordPlaces root = (inner ++ [Site.mk [] response]).map (Site.recordPlace root) ∧
      (∀ place ∈ response.recordPlaces root, place.typeName ≠ Naming.paramsType name) ∧
      ∀ site ∈ inner, site.steps ≠ [] ∧
        ((site.recordPlace root).typeName = root ↔ ∀ step ∈ site.steps, step = .record "") := by
  intro root
  have places := response.recordPlaces_eq_map root
  refine ⟨response.sites Site.after 0, response.visits_allSites arranges_after, places, ?_, ?_⟩
  · intro place mem
    rw [places] at mem
    obtain ⟨site, -, rfl⟩ := List.mem_map.mp mem
    exact site.typeName_ne_paramsType name
  · intro site mem
    have filled := Shape.way_ne_nil_of_mem_sites arranges_after mem
    exact ⟨Site.steps_ne_nil filled, site.typeName_eq_root_iff root⟩

example :
    let places := (Shape.record "" (.record "Params" .nil .nil) .nil).recordPlaces "ResResRes"
    places.map RecordPlace.typeName = ["ResResResParams", "ResResRes", "ResResRes"] ∧
      Naming.paramsType "ResRes" = "ResResParams" := by
  decide

end RestGraph
