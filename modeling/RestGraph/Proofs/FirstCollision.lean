import Mathlib.Data.List.Nodup
import RestGraph.Collision
import RestGraph.Declaration
import RestGraph.Proofs.Selections
/-!
The check for collisions against what is generated. The check looks at the names of fragments and
classes in the order of their places; it finds nothing exactly if the names in the documents are
distinct, and otherwise it reports the first name that stands a second time.
-/

set_option autoImplicit false

namespace RestGraph

theorem fresh_of_find?_eq_none {seen : List NamedPlace} {place : NamedPlace}
    (search : (seen.find? fun earlier => earlier.1 == place.1) = none) :
    place.1 ∉ seen.map Prod.fst := by
  intro mem
  obtain ⟨earlier, earlierMem, same⟩ := List.mem_map.mp mem
  exact List.find?_eq_none.mp search earlier earlierMem (beq_iff_eq.mpr same)

theorem firstRepeat_eq_none_iff (seen places : List NamedPlace)
    (distinct : (seen.map Prod.fst).Nodup) :
    firstRepeat seen places = none ↔ ((seen.reverse ++ places).map Prod.fst).Nodup := by
  induction places generalizing seen with
  | nil => simpa [firstRepeat, List.nodup_reverse] using distinct
  | cons place rest ih =>
    rw [firstRepeat]
    cases search : seen.find? fun earlier => earlier.1 == place.1 with
    | none =>
      have longer : ((place :: seen).map Prod.fst).Nodup :=
        List.nodup_cons.mpr ⟨fresh_of_find?_eq_none search, distinct⟩
      simpa using ih (place :: seen) longer
    | some earlier =>
      have same : earlier.1 = place.1 := by simpa using List.find?_some search
      have mem : earlier ∈ seen.reverse := List.mem_reverse.mpr (List.mem_of_find?_eq_some search)
      constructor
      · intro none
        cases none
      · intro nodup
        rw [List.map_append, List.map_cons, List.nodup_append] at nodup
        exact (nodup.2.2 _ (List.mem_map_of_mem mem) _ List.mem_cons_self same).elim

theorem firstRepeat_eq_some {seen places : List NamedPlace} {earlier later : NamedPlace}
    (distinct : (seen.map Prod.fst).Nodup)
    (found : firstRepeat seen places = some (earlier, later)) :
    ∃ before after, places = before ++ later :: after ∧ earlier ∈ seen.reverse ++ before ∧
      earlier.1 = later.1 ∧ ((seen.reverse ++ before).map Prod.fst).Nodup := by
  induction places generalizing seen with
  | nil => simp [firstRepeat] at found
  | cons place rest ih =>
    rw [firstRepeat] at found
    cases search : seen.find? fun earlier => earlier.1 == place.1 with
    | none =>
      rw [search] at found
      have longer : ((place :: seen).map Prod.fst).Nodup :=
        List.nodup_cons.mpr ⟨fresh_of_find?_eq_none search, distinct⟩
      obtain ⟨before, after, split, mem, same, nodup⟩ := ih longer found
      refine ⟨place :: before, after, by rw [split]; rfl, ?_, same, ?_⟩
      · simpa [or_assoc] using mem
      · simpa using nodup
    | some other =>
      rw [search] at found
      obtain ⟨rfl, rfl⟩ := Prod.mk.inj (Option.some.inj found)
      refine ⟨[], rest, rfl, ?_, by simpa using List.find?_some search, ?_⟩
      · simpa using List.mem_of_find?_eq_some search
      · simpa [List.nodup_reverse] using distinct

namespace Collision

/-- A collision reports the first repetition among names with paths: the name at a position `j` that
also stands at a smaller position `i`, where the names before `j` are distinct. -/
def IsFirst (names paths : List String) (found : Collision) : Prop :=
  ∃ i j : Nat, i < j ∧ names[i]? = some found.name ∧ names[j]? = some found.name ∧
    paths[i]? = some found.first ∧ paths[j]? = some found.second ∧
    ∀ l < j, ∀ k < l, names[k]? ≠ names[l]?

theorem among_eq_none_iff (kind : NameKind) (places : List NamedPlace) :
    among kind places = none ↔ (places.map Prod.fst).Nodup := by
  simpa [among] using firstRepeat_eq_none_iff [] places List.nodup_nil

theorem among_eq_some {kind : NameKind} {places : List NamedPlace} {found : Collision}
    (report : among kind places = some found) :
    found.kind = kind ∧ found.IsFirst (places.map Prod.fst) (places.map Prod.snd) := by
  obtain ⟨⟨earlier, later⟩, repeated, rfl⟩ := Option.map_eq_some_iff.mp report
  obtain ⟨before, after, split, mem, same, nodup⟩ :=
    @firstRepeat_eq_some [] places _ _ List.nodup_nil repeated
  rw [List.reverse_nil, List.nil_append] at mem nodup
  obtain ⟨i, inside, atI⟩ := List.mem_iff_getElem.mp mem
  have earlierAt : places[i]? = some earlier := by
    rw [split, List.getElem?_append_left inside, List.getElem?_eq_getElem inside, atI]
  have laterAt : places[before.length]? = some later := by
    rw [split]
    simp
  refine ⟨rfl, i, before.length, inside, ?_, ?_, ?_, ?_, ?_⟩
  · simp [earlierAt]
  · simp [laterAt, same]
  · simp [earlierAt]
  · simp [laterAt]
  · intro l below k lower eq
    have insideK : k < (before.map Prod.fst).length := by
      rw [List.length_map]
      omega
    have insideL : l < (before.map Prod.fst).length := by rwa [List.length_map]
    rw [split, List.map_append, List.getElem?_append_left insideK,
      List.getElem?_append_left insideL, List.getElem?_eq_getElem insideK,
      List.getElem?_eq_getElem insideL] at eq
    have equal : k = l := (List.Nodup.getElem_inj_iff nodup).mp (Option.some.inj eq)
    omega

end Collision

def RecordPlace.label (place : RecordPlace) : String :=
  if place.path.isEmpty then "<response>" else place.path

namespace Declaration

def header (declaration : Declaration) : String :=
  "export class " ++ declaration.name

def body (declaration : Declaration) : Document :=
  .separated (declaration.properties.map Property.document)

theorem blocks_documentOf (classes : List Declaration) :
    (documentOf classes).blocks =
      classes.map fun declaration => (declaration.header, declaration.body) := by
  rw [documentOf_eq_separated, Document.blocks_separated, List.flatMap_map, List.map_eq_flatMap]
  rfl

end Declaration

namespace Endpoint

theorem names_fragmentPlaces (options : Options) (endpoint : Endpoint) :
    endpoint.fragmentPlaces.map Prod.fst =
      (Query.ofEndpoint options endpoint).fragments.map Fragment.name := by
  simp [fragmentPlaces, Query.ofEndpoint, Fragment.ofPlace, Function.comp_def]

theorem names_typePlaces (endpoint : Endpoint) :
    endpoint.typePlaces.map Prod.fst =
      (Declaration.ofEndpoint endpoint).map Declaration.name := by
  simp [typePlaces, Declaration.ofEndpoint, Declaration.ofParameters, Declaration.ofPlace,
    Function.comp_def]

theorem paths_fragmentPlaces (endpoint : Endpoint) :
    endpoint.fragmentPlaces.map Prod.snd =
      (endpoint.response.listPlaces (Naming.responseType endpoint.name)).map ListPlace.path := by
  rw [fragmentPlaces, List.map_map]
  rfl

theorem paths_typePlaces (endpoint : Endpoint) :
    endpoint.typePlaces.map Prod.snd = "<parameters>" ::
      (endpoint.response.recordPlaces (Naming.responseType endpoint.name)).map
        RecordPlace.label := by
  rw [typePlaces, List.map_cons, List.map_map]
  rfl

theorem collision?_eq_none_iff (options : Options) (endpoint : Endpoint) :
    endpoint.collision? = none ↔
      ((Query.ofEndpoint options endpoint).fragments.map Fragment.name).Nodup ∧
        ((Declaration.ofEndpoint endpoint).map Declaration.name).Nodup := by
  rw [← names_fragmentPlaces, ← names_typePlaces, ← Collision.among_eq_none_iff .fragment,
    ← Collision.among_eq_none_iff .type, collision?]
  cases Collision.among .fragment endpoint.fragmentPlaces <;> simp

/-- The check is exact with respect to the documents, and what it reports is the first repetition.
Names are those of the generated fragments and classes, which open the blocks of their documents;
classes are compared only if the fragments have distinct names. -/
theorem collision_check_exact (options : Options) (endpoint : Endpoint) :
    let query := Query.ofEndpoint options endpoint
    let classes := Declaration.ofEndpoint endpoint
    let root := Naming.responseType endpoint.name
    let fragmentNames := query.fragments.map Fragment.name
    let classNames := classes.map Declaration.name
    (query.document.blocks.tail.map Prod.fst = query.fragments.map Fragment.header ∧
      (Declaration.documentOf classes).blocks.map Prod.fst = classes.map Declaration.header) ∧
    (endpoint.collision? = none ↔ fragmentNames.Nodup ∧ classNames.Nodup) ∧
    ∀ found, endpoint.collision? = some found →
      (¬ fragmentNames.Nodup → found.kind = .fragment ∧
        found.IsFirst fragmentNames ((endpoint.response.listPlaces root).map ListPlace.path)) ∧
      (fragmentNames.Nodup → found.kind = .type ∧
        found.IsFirst classNames
          ("<parameters>" :: (endpoint.response.recordPlaces root).map RecordPlace.label)) := by
  intro query classes root fragmentNames classNames
  have headers : query.document.blocks.tail.map Prod.fst = query.fragments.map Fragment.header := by
    rw [Query.tail_blocks_document, List.map_map]
    rfl
  have classHeaders :
      (Declaration.documentOf classes).blocks.map Prod.fst = classes.map Declaration.header := by
    rw [Declaration.blocks_documentOf, List.map_map]
    rfl
  refine ⟨⟨headers, classHeaders⟩, endpoint.collision?_eq_none_iff options, ?_⟩
  intro found report
  have fragmentsIff := Collision.among_eq_none_iff .fragment endpoint.fragmentPlaces
  rw [endpoint.names_fragmentPlaces options] at fragmentsIff
  rw [collision?] at report
  cases first : Collision.among .fragment endpoint.fragmentPlaces with
  | some collision =>
    rw [first] at report
    obtain rfl := Option.some.inj report
    obtain ⟨kind, isFirst⟩ := Collision.among_eq_some first
    rw [endpoint.names_fragmentPlaces options, paths_fragmentPlaces] at isFirst
    refine ⟨fun _ => ⟨kind, isFirst⟩, fun nodup => ?_⟩
    rw [fragmentsIff.mpr nodup] at first
    cases first
  | none =>
    rw [first] at report
    obtain ⟨kind, isFirst⟩ := Collision.among_eq_some report
    rw [names_typePlaces, paths_typePlaces] at isFirst
    exact ⟨fun repeated => (repeated (fragmentsIff.mp first)).elim, fun _ => ⟨kind, isFirst⟩⟩

theorem collision_check_of_equal_lists :
    let endpoint : Endpoint := ⟨"ListThings", "GET", [],
      .records "Items" (.scalar "id" .string .nil)
        (.record "Page" (.records "Items" (.scalar "other" .number .nil) .nil) .nil)⟩
    endpoint.collision? = some ⟨.fragment, "ItemsData", "Items", "Page.Items"⟩ ∧
      Collision.IsFirst ["ItemsData", "ItemsData"] ["Items", "Page.Items"]
        ⟨.fragment, "ItemsData", "Items", "Page.Items"⟩ := by
  intro endpoint
  have report : endpoint.collision? = some ⟨.fragment, "ItemsData", "Items", "Page.Items"⟩ := by
    decide +kernel
  obtain ⟨repeated, _⟩ := (collision_check_exact {} endpoint).2.2 _ report
  exact ⟨report, (repeated (by decide +kernel)).2⟩

end Endpoint

end RestGraph
