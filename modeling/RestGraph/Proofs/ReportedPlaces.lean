import RestGraph.Endpoint.OfText
import RestGraph.Proofs.AbsentMarks
import RestGraph.Proofs.ClassOrder
import RestGraph.Proofs.DistinctKeys
import RestGraph.Proofs.DraftConversion
import RestGraph.Proofs.FixedNames
/-!
The places that a report of a collision names. They are always two different places of the response,
never the class of the arguments, and each is shown by its path. A path says which place is meant
only as far as the names on it do: a name with a point in it looks like two names.
-/

set_option autoImplicit false

namespace RestGraph

namespace Shape

theorem getElem?_names {shape inner : Shape} {i : Nat} {step : Step}
    (found : shape.toList[i]? = some (step.field inner)) : shape.names[i]? = some step.name := by
  rw [names, List.getElem?_map, found]
  cases step <;> rfl

theorem Leads.way_eq {shape first second : Shape} {way other : List (Nat × Step)}
    (distinct : shape.DistinctNames) (leads : shape.Leads way first)
    (leads' : shape.Leads other second)
    (same : (way.map Prod.snd).map Step.name = (other.map Prod.snd).map Step.name) :
    way = other := by
  induction leads generalizing other with
  | here shape =>
    cases leads' with
    | here _ => rfl
    | step _ _ => cases same
  | @step shape inner _ i step way found _ ih =>
    cases leads' with
    | here _ => cases same
    | @step _ inner' _ j step' way' found' deeper =>
      obtain ⟨named, rest⟩ := List.cons.inj same
      have atI : shape.names[i]? = some step.name := getElem?_names found
      have atJ : shape.names[j]? = some step.name := (getElem?_names found').trans (by rw [named])
      have inside : i < shape.names.length := (List.getElem?_eq_some_iff.mp atI).1
      have nodup : shape.names.Nodup := distinct [] shape (.here shape)
      obtain rfl : i = j := (List.getElem?_inj inside nodup).mp (atI.trans atJ.symm)
      obtain ⟨rfl, rfl⟩ := Step.field_inj.mp (Option.some.inj (found.symm.trans found'))
      have mem : step.field inner ∈ shape.toList := List.mem_of_getElem? found
      rw [ih (distinct.of_mem mem) deeper rest]

end Shape

theorem eq_of_intercalate_eq {first second : List String} (filled : first ≠ [])
    (filled' : second ≠ []) (pointless : ∀ name ∈ first, '.' ∉ name.toList)
    (pointless' : ∀ name ∈ second, '.' ∉ name.toList)
    (same : ".".intercalate first = ".".intercalate second) : first = second := by
  have chars := congrArg (fun path => path.toList.splitOn '.') same
  simp only [String.toList_intercalate] at chars
  have point : ".".toList = ['.'] := by decide
  rw [point, List.splitOn_intercalate _ (List.forall_mem_map.mpr pointless) (by simpa using filled),
    List.splitOn_intercalate _ (List.forall_mem_map.mpr pointless') (by simpa using filled')]
    at chars
  exact List.map_injective_iff.mpr (fun _ _ => String.toList_injective) chars

namespace Site

/-- A site is given a name: as the class of its record, or as the fragment of the list whose
elements it is. -/
def Bears (root : String) (site : Site) : NameKind → String → Prop
  | .fragment, name => site.isElement = true ∧ Naming.fragment (site.names.getLast?.getD "") = name
  | .type, name => site.typeName root = name

section Sites

variable {shape : Shape} {before : List Nat → List Nat → Prop} {wanted : Site → Prop}
  {sites : List Site} {first second : Site}

theorem names_ne_of_lt (distinct : shape.DistinctNames) (visits : Visits before wanted sites)
    (inside : ∀ site, wanted site → shape.Leads site.way site.record) {i j : Nat} (below : i < j)
    (atI : sites[i]? = some first) (atJ : sites[j]? = some second) :
    first.names ≠ second.names := by
  intro same
  have leads := inside first ((visits.complete first).mp (List.mem_of_getElem? atI))
  have leads' := inside second ((visits.complete second).mp (List.mem_of_getElem? atJ))
  -- equal names are equal ways, and a visit lists no address twice
  have ways : first.way = second.way := leads.way_eq distinct leads' same
  have addressI : (sites.map address)[i]? = some first.address := by
    rw [List.getElem?_map, atI]
    rfl
  have addressJ : (sites.map address)[j]? = some first.address := by
    rw [List.getElem?_map, atJ, address, ways]
    rfl
  have bound : i < (sites.map address).length := (List.getElem?_eq_some_iff.mp addressI).1
  have positions : i = j :=
    (List.getElem?_inj bound visits.distinct).mp (addressI.trans addressJ.symm)
  omega

theorem names_ne_nil_of_isElement (element : first.isElement = true) : first.names ≠ [] := by
  intro none
  have noSteps : first.steps = [] := List.map_eq_nil_iff.mp none
  rw [isElement, noSteps] at element
  cases element

end Sites

theorem path_eq_intercalate {site : Site} (headed : site.names.head? ≠ some "") :
    site.path = ".".intercalate site.names := by
  rw [path]
  cases names : site.names with
  | nil => rfl
  | cons name rest =>
    have filled : name ≠ "" := by simpa [names] using headed
    rw [List.dropWhile_cons_of_neg (by simpa using filled)]

theorem path_ne_empty {site : Site} (headed : site.names.head? ≠ some "")
    (some : site.names ≠ []) : site.path ≠ "" := by
  rw [path_eq_intercalate headed]
  cases names : site.names with
  | nil => exact absurd names some
  | cons name rest =>
    have filled : name ≠ "" := by simpa [names] using headed
    cases rest with
    | nil => simpa using filled
    | cons _ _ => simp [String.intercalate_cons_cons]

end Site

namespace Collision

theorem IsFirst.exists_places {places : List NamedPlace} {found : Collision}
    (isFirst : found.IsFirst (places.map Prod.fst) (places.map Prod.snd)) :
    ∃ i j : Nat, i < j ∧ places[i]? = some (found.name, found.first) ∧
      places[j]? = some (found.name, found.second) := by
  obtain ⟨i, j, below, nameI, nameJ, pathI, pathJ, -⟩ := isFirst
  have place {k : Nat} {name path : String} (named : (places.map Prod.fst)[k]? = some name)
      (shown : (places.map Prod.snd)[k]? = some path) : places[k]? = some (name, path) := by
    rw [List.getElem?_map] at named shown
    obtain ⟨⟨_, _⟩, found, rfl⟩ := Option.map_eq_some_iff.mp named
    rw [found] at shown
    obtain rfl := Option.some.inj shown
    exact found
  exact ⟨i, j, below, place nameI pathI, place nameJ pathJ⟩

/-- A report points at a site of a response and shows it: the site has been given the name that is
reported, and it is shown by its path. What is shown of a site with an empty path is left open. -/
structure PointsAt (found : Collision) (root : String) (response : Shape) (site : Site)
    (shown : String) : Prop where
  there : response.Leads site.way site.record
  named : site.Bears root found.kind found.name
  path : site.path ≠ "" → shown = site.path

section PointsAt

variable {found : Collision} {root shown shown' : String} {response : Shape} {first second : Site}

theorem PointsAt.names_ne_nil (points : found.PointsAt root response first shown)
    (points' : found.PointsAt root response second shown') (apart : first.names ≠ second.names)
    (headed : second.names.head? ≠ some "") : first.names ≠ [] := by
  intro none
  have named := points.named
  have named' := points'.named
  cases kind : found.kind with
  | fragment =>
    rw [kind] at named
    exact Site.names_ne_nil_of_isElement named.1 none
  | type =>
    rw [kind] at named named'
    have noSteps : first.steps = [] := List.map_eq_nil_iff.mp none
    have outermost : first.typeName root = root :=
      (first.typeName_eq_root_iff root).mpr (by simp [noSteps])
    have same : second.typeName root = root := named'.trans (named.symm.trans outermost)
    have empty := (second.typeName_eq_root_iff root).mp same
    cases steps : second.steps with
    | nil =>
      apply apart
      rw [Site.names, Site.names, noSteps, steps]
    | cons step rest =>
      have nameless : step = .record "" := empty step (by rw [steps]; exact List.mem_cons_self)
      apply headed
      rw [Site.names, steps, nameless]
      rfl

theorem PointsAt.pointless (points : found.PointsAt root response first shown)
    (pointless : ∀ name ∈ response.deepNames, '.' ∉ name.toList) :
    ∀ name ∈ first.names, '.' ∉ name.toList := by
  intro name mem
  obtain ⟨step, stepMem, rfl⟩ := List.mem_map.mp mem
  obtain ⟨place, placeMem, rfl⟩ := List.mem_map.mp stepMem
  exact pointless _ (points.there.name_mem_deepNames place placeMem)

theorem PointsAt.shown_ne (points : found.PointsAt root response first shown)
    (points' : found.PointsAt root response second shown') (apart : first.names ≠ second.names)
    (pointless : ∀ name ∈ response.deepNames, '.' ∉ name.toList)
    (headed : first.names.head? ≠ some "") (headed' : second.names.head? ≠ some "") :
    shown ≠ shown' := by
  have filled := points.names_ne_nil points' apart headed'
  have filled' := points'.names_ne_nil points apart.symm headed
  intro same
  apply apart
  apply eq_of_intercalate_eq filled filled' (points.pointless pointless)
    (points'.pointless pointless)
  calc ".".intercalate first.names
      _ = first.path := (Site.path_eq_intercalate headed).symm
      _ = shown := (points.path (Site.path_ne_empty headed filled)).symm
      _ = shown' := same
      _ = second.path := points'.path (Site.path_ne_empty headed' filled')
      _ = ".".intercalate second.names := Site.path_eq_intercalate headed'

end PointsAt

end Collision

namespace Endpoint

variable {endpoint : Endpoint} {found : Collision}

theorem fragmentPlaces_eq_map (endpoint : Endpoint) :
    endpoint.fragmentPlaces =
      ((endpoint.response.allSites Site.ahead).filter Site.isElement).map fun site =>
        (Naming.fragment (site.names.getLast?.getD ""), site.path) := by
  rw [fragmentPlaces, Shape.listPlaces_eq_map_sites, List.map_map]
  rfl

theorem typePlaces_eq_map (endpoint : Endpoint) :
    endpoint.typePlaces = (Naming.paramsType endpoint.name, "<parameters>") ::
      (endpoint.response.allSites Site.after).map fun site =>
        (site.typeName (Naming.responseType endpoint.name),
          if site.path.isEmpty then "<response>" else site.path) := by
  rw [typePlaces, Shape.recordPlaces_eq_map, List.map_map]
  rfl

def PointsAtTwo (endpoint : Endpoint) (found : Collision) : Prop :=
  ∃ first second : Site, first.names ≠ second.names ∧
    found.PointsAt (Naming.responseType endpoint.name) endpoint.response first found.first ∧
    found.PointsAt (Naming.responseType endpoint.name) endpoint.response second found.second

theorem pointsAtTwo_of_fragments (distinct : endpoint.response.DistinctNames)
    (report : Collision.among .fragment endpoint.fragmentPlaces = some found) :
    endpoint.PointsAtTwo found := by
  obtain ⟨kind, isFirst⟩ := Collision.among_eq_some report
  obtain ⟨i, j, below, atI, atJ⟩ := isFirst.exists_places
  rw [fragmentPlaces_eq_map, List.getElem?_map, Option.map_eq_some_iff] at atI atJ
  obtain ⟨first, firstAt, firstPlace⟩ := atI
  obtain ⟨second, secondAt, secondPlace⟩ := atJ
  have visits := (endpoint.response.visits_allSites arranges_ahead).filter Site.isElement
  have apart := Site.names_ne_of_lt distinct visits (fun _ wanted => wanted.1) below firstAt
    secondAt
  have points {site : Site} {k : Nat} {shown : String}
      (found' : ((endpoint.response.allSites Site.ahead).filter Site.isElement)[k]? = some site)
      (place : (Naming.fragment (site.names.getLast?.getD ""), site.path) = (found.name, shown)) :
      found.PointsAt (Naming.responseType endpoint.name) endpoint.response site shown := by
    obtain ⟨there, element⟩ := (visits.complete site).mp (List.mem_of_getElem? found')
    obtain ⟨named, path⟩ := Prod.mk.inj place
    refine ⟨there, ?_, fun _ => path.symm⟩
    rw [kind]
    exact ⟨element, named⟩
  exact ⟨first, second, apart, points firstAt firstPlace, points secondAt secondPlace⟩

theorem pointsAtTwo_of_types (distinct : endpoint.response.DistinctNames)
    (report : Collision.among .type endpoint.typePlaces = some found) :
    endpoint.PointsAtTwo found := by
  obtain ⟨kind, isFirst⟩ := Collision.among_eq_some report
  obtain ⟨i, j, below, atI, atJ⟩ := isFirst.exists_places
  rw [typePlaces_eq_map] at atI atJ
  have visits := endpoint.response.visits_allSites arranges_after
  have points {site : Site} {k : Nat} {shown : String}
      (found' : (endpoint.response.allSites Site.after)[k]? = some site)
      (place : (site.typeName (Naming.responseType endpoint.name),
        if site.path.isEmpty then "<response>" else site.path) = (found.name, shown)) :
      found.PointsAt (Naming.responseType endpoint.name) endpoint.response site shown := by
    obtain ⟨named, path⟩ := Prod.mk.inj place
    refine ⟨(visits.complete site).mp (List.mem_of_getElem? found'), ?_, fun filled => ?_⟩
    · rw [kind]
      exact named
    · rw [← path, if_neg (by simpa using filled)]
  obtain ⟨j, rfl⟩ : ∃ j', j = j' + 1 := ⟨j - 1, by omega⟩
  rw [List.getElem?_cons_succ, List.getElem?_map, Option.map_eq_some_iff] at atJ
  obtain ⟨second, secondAt, secondPlace⟩ := atJ
  cases i with
  | zero =>
    -- the class of the arguments has a name of its own
    obtain ⟨arguments, -⟩ := Prod.mk.inj (Option.some.inj atI)
    obtain ⟨named, -⟩ := Prod.mk.inj secondPlace
    exact absurd (named.trans arguments.symm) (second.typeName_ne_paramsType endpoint.name)
  | succ i =>
    rw [List.getElem?_cons_succ, List.getElem?_map, Option.map_eq_some_iff] at atI
    obtain ⟨first, firstAt, firstPlace⟩ := atI
    have apart := Site.names_ne_of_lt distinct visits (fun _ leads => leads) (by omega) firstAt
      secondAt
    exact ⟨first, second, apart, points firstAt firstPlace, points secondAt secondPlace⟩

theorem pointsAtTwo_of_collision (distinct : endpoint.response.DistinctNames)
    (report : endpoint.collision? = some found) : endpoint.PointsAtTwo found := by
  rw [collision?] at report
  cases fragments : Collision.among .fragment endpoint.fragmentPlaces with
  | some collision =>
    rw [fragments] at report
    obtain rfl := Option.some.inj report
    exact pointsAtTwo_of_fragments distinct fragments
  | none =>
    rw [fragments] at report
    exact pointsAtTwo_of_types distinct report

theorem distinctNames_of_parse {text : String} (parsed : Endpoint.parse text = .ok endpoint) :
    endpoint.response.DistinctNames := by
  unfold Endpoint.parse at parsed
  split at parsed
  · cases parsed
  · rename_i read
    have described := (ofDraft_eq_ok_iff.mp parsed).response
    exact Shape.DistinctNames.of_ofMembers (Draft.distinct_of_parse read) described

theorem headed_of_outermost {site : Site}
    (outermost : ∀ field ∈ endpoint.response.toList, field.value.inner?.isSome → field.name ≠ "")
    (there : endpoint.response.Leads site.way site.record) : site.names.head? ≠ some "" := by
  obtain ⟨way, record⟩ := site
  cases there with
  | here _ => exact nofun
  | @step _ inner _ _ step _ found _ =>
    intro empty
    have nameless : step.name = "" := Option.some.inj empty
    apply outermost (step.field inner) (List.mem_of_getElem? found)
    · cases step <;> rfl
    · cases step <;> exact nameless

/-- A report of a collision in an accepted descriptor points at two different places of the response
and shows each of them by its path. The two texts that it shows differ if no name has a point and no
outermost record or list of records has an empty name. -/
theorem report_of_two_places {text : String} (parsed : Endpoint.parse text = .ok endpoint)
    (report : endpoint.collision? = some found) :
    endpoint.PointsAtTwo found ∧
    ((∀ name ∈ endpoint.response.deepNames, '.' ∉ name.toList) →
      (∀ field ∈ endpoint.response.toList, field.value.inner?.isSome → field.name ≠ "") →
      found.first ≠ found.second) := by
  have two := pointsAtTwo_of_collision (distinctNames_of_parse parsed) report
  refine ⟨two, fun pointless outermost => ?_⟩
  obtain ⟨first, second, apart, points, points'⟩ := two
  exact points.shown_ne points' apart pointless (headed_of_outermost outermost points.there)
    (headed_of_outermost outermost points'.there)

def textOf (response : String) : String :=
  "\x7b\"name\":\"R\",\"method\":\"GET\",\"response\":" ++ response ++ "\x7d"

theorem report_of_joined_names :
    let text := textOf "\x7b\"a\":\x7b\"bc\":\x7b\x7d\x7d,\"ab\":\x7b\"c\":\x7b\x7d\x7d\x7d"
    let endpoint : Endpoint := ⟨"R", "GET", [],
      .record "a" (.record "bc" .nil .nil) (.record "ab" (.record "c" .nil .nil) .nil)⟩
    Endpoint.parse text = .ok endpoint ∧
      endpoint.collision? = some ⟨.type, "ResRabc", "a.bc", "ab.c"⟩ ∧
      endpoint.PointsAtTwo ⟨.type, "ResRabc", "a.bc", "ab.c"⟩ ∧ "a.bc" ≠ "ab.c" := by
  intro text endpoint
  have parsed : Endpoint.parse text = .ok endpoint := by decide +kernel
  have report : endpoint.collision? = some ⟨.type, "ResRabc", "a.bc", "ab.c"⟩ := by decide +kernel
  obtain ⟨two, differ⟩ := report_of_two_places parsed report
  exact ⟨parsed, report, two, differ (by decide +kernel) (by decide +kernel)⟩

/-- Not every report shows two texts: a name with a point in it can make two routes look alike. -/
theorem not_every_report_shows_two_paths :
    ¬ ∀ (text : String) (endpoint : Endpoint) (found : Collision),
      Endpoint.parse text = .ok endpoint → endpoint.collision? = some found →
        found.first ≠ found.second := by
  intro differ
  let rows : Shape := .records "rows" .nil .nil
  let endpoint : Endpoint :=
    ⟨"R", "GET", [], .record "a.b" rows (.record "a" (.record "b" rows .nil) .nil)⟩
  let text := textOf <| "\x7b\"a.b\":\x7b\"rows\":[\x7b\x7d]\x7d," ++
    "\"a\":\x7b\"b\":\x7b\"rows\":[\x7b\x7d]\x7d\x7d\x7d"
  have parsed : Endpoint.parse text = .ok endpoint := by decide +kernel
  have report : endpoint.collision? = some ⟨.fragment, "rowsData", "a.b.rows", "a.b.rows"⟩ := by
    decide +kernel
  exact differ text endpoint _ parsed report rfl

example :
    let rows : Shape := .records "rows" .nil .nil
    let endpoint : Endpoint := ⟨"R", "GET", [], .record "" rows rows⟩
    endpoint.collision? = some ⟨.fragment, "rowsData", "rows", "rows"⟩ := by
  decide +kernel

end Endpoint

end RestGraph
