import Mathlib.Data.List.Nodup
import Mathlib.Data.Multiset.AddSub
import RestGraph.Proofs.Routes
/-!
The two walks over a response. A record of a response is found by its way: the fields that lead to
it, each with its position among the fields of its record. The walk for fragments meets the lists of
records before what is inside them, the walk for classes meets the records after what is inside
them, and both name what they meet by the way to it.
-/

set_option autoImplicit false

namespace RestGraph

def Step.part : Step → String
  | record name => name
  | list name => name ++ "Item"

/-- A record inside a response, with the way to it. -/
structure Site where
  way : List (Nat × Step)
  record : Shape

namespace Site

def address (site : Site) : List Nat :=
  site.way.map Prod.fst

def steps (site : Site) : List Step :=
  site.way.map Prod.snd

def names (site : Site) : List String :=
  site.steps.map Step.name

def typeName (root : String) (site : Site) : String :=
  root ++ String.join (site.steps.map Step.part)

/-- The path of the record: the names with points between them, from the first that is not empty. -/
def path (site : Site) : String :=
  ".".intercalate (site.names.dropWhile String.isEmpty)

def recordPlace (root : String) (site : Site) : RecordPlace :=
  ⟨site.typeName root, site.path, site.record⟩

/-- The entry for the list that the record is the element of. Its field is the last on the way, and
its parent is the field before. -/
def listPlace (root : String) (site : Site) : ListPlace :=
  ⟨site.names.getLast?.getD "", site.names.dropLast.getLast?.getD "", site.path,
    site.typeName root, site.record⟩

def isElement (site : Site) : Bool :=
  match site.steps.getLast? with
  | some (.list _) => true
  | _ => false

def isField (site : Site) : Bool :=
  match site.steps.getLast? with
  | some (.record _) => true
  | _ => false

def behind (step : Nat × Step) (site : Site) : Site :=
  { site with way := step :: site.way }

end Site

def ListPlace.elements (place : ListPlace) : RecordPlace :=
  ⟨place.typeName, place.path, place.element⟩

inductive Shape.Leads : Shape → List (Nat × Step) → Shape → Prop
  | here (shape : Shape) : Leads shape [] shape
  | step {shape inner target : Shape} {i : Nat} {step : Step} {way : List (Nat × Step)} :
    shape.toList[i]? = some (step.field inner) → Leads inner way target →
      Leads shape ((i, step) :: way) target

/-- The order of addresses in which a record comes after everything inside it, and otherwise fields
come in the order of their positions. -/
inductive InsideFirst : List Nat → List Nat → Prop
  | inside (i : Nat) (rest : List Nat) : InsideFirst (i :: rest) []
  | left {i j : Nat} (first second : List Nat) : i < j → InsideFirst (i :: first) (j :: second)
  | deeper (i : Nat) {first second : List Nat} : InsideFirst first second →
    InsideFirst (i :: first) (i :: second)

def Site.Ordered (before : List Nat → List Nat → Prop) (sites : List Site) : Prop :=
  sites.Pairwise fun first second => before first.address second.address

/-- Sites are visited in an order of their addresses: those with a property, and each of them
once. -/
structure Visits (before : List Nat → List Nat → Prop) (wanted : Site → Prop)
    (sites : List Site) : Prop where
  ordered : Site.Ordered before sites
  distinct : (sites.map Site.address).Nodup
  complete : ∀ site, site ∈ sites ↔ wanted site

/-- A way to arrange a record with the sites inside it, and the order of addresses that results. -/
structure Arranges (arrange : Site → List Site → List Site)
    (before : List Nat → List Nat → Prop) : Prop where
  perm : ∀ site inside, (arrange site inside).Perm (site :: inside)
  irrefl : ∀ address, ¬ before address address
  left : ∀ i j first second, i < j → before (i :: first) (j :: second)
  deeper : ∀ i first second, before first second → before (i :: first) (i :: second)
  around : ∀ record inside, (∀ site ∈ inside, site.way ≠ []) →
    Site.Ordered before inside → Site.Ordered before (arrange ⟨[], record⟩ inside)

def Shape.sites (arrange : Site → List Site → List Site) (start : Nat) : Shape → List Site
  | .nil => []
  | .scalar _ _ rest => rest.sites arrange (start + 1)
  | .scalars _ _ rest => rest.sites arrange (start + 1)
  | .record name fields rest =>
    (arrange ⟨[], fields⟩ (fields.sites arrange 0)).map (.behind (start, .record name)) ++
      rest.sites arrange (start + 1)
  | .records name element rest =>
    (arrange ⟨[], element⟩ (element.sites arrange 0)).map (.behind (start, .list name)) ++
      rest.sites arrange (start + 1)

def Site.ahead (site : Site) (inside : List Site) : List Site :=
  site :: inside

def Site.after (site : Site) (inside : List Site) : List Site :=
  inside ++ [site]

theorem arranges_ahead : Arranges Site.ahead (· < ·) where
  perm _ _ := .refl _
  irrefl address := List.lt_irrefl address
  left _ _ _ _ less := List.cons_lt_cons_iff.mpr (.inl less)
  deeper _ _ _ less := List.cons_lt_cons_iff.mpr (.inr ⟨rfl, less⟩)
  around record inside filled ordered := by
    refine List.pairwise_cons.mpr ⟨fun site mem => ?_, ordered⟩
    obtain ⟨step, way, split⟩ := List.exists_cons_of_ne_nil (filled site mem)
    show [] < site.way.map Prod.fst
    rw [split]
    exact List.nil_lt_cons _ _

theorem InsideFirst.irrefl (address : List Nat) : ¬ InsideFirst address address := by
  intro before
  induction address with
  | nil => cases before
  | cons i rest ih =>
    cases before with
    | left _ _ less => exact absurd less (Nat.lt_irrefl i)
    | deeper _ before => exact ih before

theorem arranges_after : Arranges Site.after InsideFirst where
  perm site inside := List.perm_append_singleton site inside
  irrefl := InsideFirst.irrefl
  left _ _ first second less := .left first second less
  deeper i _ _ before := .deeper i before
  around record inside filled ordered := by
    refine List.pairwise_append.mpr ⟨ordered, List.pairwise_singleton _ _, ?_⟩
    intro site mem last lastMem
    obtain rfl := List.mem_singleton.mp lastMem
    obtain ⟨step, way, split⟩ := List.exists_cons_of_ne_nil (filled site mem)
    show InsideFirst (site.way.map Prod.fst) []
    rw [split]
    exact .inside _ _

theorem Site.mem_map_behind {step : Nat × Step} {sites : List Site} {site : Site} :
    site ∈ sites.map (.behind step) ↔
      ∃ way, site.way = step :: way ∧ ⟨way, site.record⟩ ∈ sites := by
  rw [List.mem_map]
  constructor
  · rintro ⟨deeper, mem, rfl⟩
    exact ⟨deeper.way, rfl, mem⟩
  · obtain ⟨whole, record⟩ := site
    rintro ⟨way, rfl, mem⟩
    exact ⟨⟨way, record⟩, mem, rfl⟩

theorem Step.field_inj {step other : Step} {inner inner' : Shape} :
    step.field inner = other.field inner' ↔ step = other ∧ inner = inner' := by
  cases step <;> cases other <;> simp [Step.field]

def Site.Through (start : Nat) (fields : List Field) (site : Site) : Prop :=
  ∃ i step inner way, site.way = (start + i, step) :: way ∧
    fields[i]? = some (step.field inner) ∧ inner.Leads way site.record

theorem Site.through_cons {start : Nat} {field : Field} {rest : List Field} {site : Site} :
    site.Through start (field :: rest) ↔
      (∃ step inner way, field = step.field inner ∧ site.way = (start, step) :: way ∧
        inner.Leads way site.record) ∨ site.Through (start + 1) rest := by
  constructor
  · rintro ⟨_ | i, step, inner, way, split, found, leads⟩
    · exact .inl ⟨step, inner, way, Option.some.inj found, split, leads⟩
    · refine .inr ⟨i, step, inner, way, ?_, found, leads⟩
      rw [split, Nat.add_assoc, Nat.add_comm 1]
  · rintro (⟨step, inner, way, rfl, split, leads⟩ | ⟨i, step, inner, way, split, found, leads⟩)
    · exact ⟨0, step, inner, way, split, rfl, leads⟩
    · refine ⟨i + 1, step, inner, way, ?_, found, leads⟩
      rw [split, Nat.add_assoc, Nat.add_comm 1]

namespace Shape

theorem leads_iff {shape : Shape} {site : Site} :
    shape.Leads site.way site.record ↔ site = ⟨[], shape⟩ ∨ site.Through 0 shape.toList := by
  obtain ⟨way, record⟩ := site
  constructor
  · intro leads
    cases leads with
    | here _ => exact .inl rfl
    | step found deeper => exact .inr ⟨_, _, _, _, by simp, found, deeper⟩
  · rintro (same | ⟨i, step, inner, way', split, found, deeper⟩)
    · cases same
      exact .here shape
    · obtain rfl : way = (i, step) :: way' := by simpa using split
      exact .step found deeper

def allSites (arrange : Site → List Site → List Site) (shape : Shape) : List Site :=
  arrange ⟨[], shape⟩ (shape.sites arrange 0)

section Sites

variable {arrange : Site → List Site → List Site} {before : List Nat → List Nat → Prop}
  {shape inner : Shape} {start : Nat} {site : Site}

theorem mem_allSites_of_mem_sites (arranged : Arranges arrange before)
    (inside : ∀ site, site ∈ inner.sites arrange 0 ↔ site.Through 0 inner.toList) :
    site ∈ inner.allSites arrange ↔ inner.Leads site.way site.record := by
  rw [allSites, (arranged.perm _ _).mem_iff, List.mem_cons, inside, leads_iff]

private theorem mem_sites_step (arranged : Arranges arrange before) (step : Step) {rest : Shape}
    (inside : ∀ site, site ∈ inner.sites arrange 0 ↔ site.Through 0 inner.toList)
    (later : site ∈ rest.sites arrange (start + 1) ↔ site.Through (start + 1) rest.toList) :
    site ∈ (inner.allSites arrange).map (.behind (start, step)) ++ rest.sites arrange (start + 1) ↔
      site.Through start (step.field inner :: rest.toList) := by
  rw [List.mem_append, later, Site.through_cons, Site.mem_map_behind]
  refine or_congr_left ?_
  constructor
  · rintro ⟨way, split, mem⟩
    exact ⟨step, inner, way, rfl, split, (mem_allSites_of_mem_sites arranged inside).mp mem⟩
  · rintro ⟨other, inner', way, same, split, leads⟩
    obtain ⟨rfl, rfl⟩ := Step.field_inj.mp same
    exact ⟨way, split, (mem_allSites_of_mem_sites arranged inside).mpr leads⟩

theorem mem_sites (arranged : Arranges arrange before) :
    site ∈ shape.sites arrange start ↔ site.Through start shape.toList := by
  induction shape generalizing start site with
  | nil => simp [sites, toList, Site.Through]
  | scalar name kind rest ih | scalars name kind rest ih =>
    rw [sites, ih, toList, Site.through_cons]
    constructor
    · exact .inr
    · rintro (⟨step, _, _, same, -⟩ | later)
      · cases step <;> cases same
      · exact later
  | record name fields rest inner ih =>
    exact mem_sites_step arranged (.record name) (fun _ => inner) ih
  | records name element rest inner ih =>
    exact mem_sites_step arranged (.list name) (fun _ => inner) ih

theorem mem_allSites (arranged : Arranges arrange before) :
    site ∈ shape.allSites arrange ↔ shape.Leads site.way site.record :=
  mem_allSites_of_mem_sites arranged fun _ => mem_sites arranged

theorem way_ne_nil_of_mem_sites (arranged : Arranges arrange before)
    (mem : site ∈ shape.sites arrange start) : site.way ≠ [] := by
  obtain ⟨i, step, _, way, split, -⟩ := (mem_sites arranged).mp mem
  rw [split]
  exact List.cons_ne_nil _ _

private theorem ordered_sites_step (arranged : Arranges arrange before) {step : Step}
    {rest : Shape} (inside : Site.Ordered before (inner.sites arrange 0))
    (later : Site.Ordered before (rest.sites arrange (start + 1))) :
    Site.Ordered before ((inner.allSites arrange).map (.behind (start, step)) ++
      rest.sites arrange (start + 1)) := by
  refine List.pairwise_append.mpr ⟨?_, later, ?_⟩
  · have around := arranged.around inner _ (fun _ => way_ne_nil_of_mem_sites arranged) inside
    rw [List.pairwise_map]
    exact List.Pairwise.imp (fun less => arranged.deeper _ _ _ less) around
  · -- a later field is further to the right, whatever lies behind it
    intro first mem second mem'
    obtain ⟨way, split, -⟩ := Site.mem_map_behind.mp mem
    obtain ⟨i, step', _, way', split', -⟩ := (mem_sites arranged).mp mem'
    rw [Site.address, Site.address, split, split']
    exact arranged.left _ _ _ _ (by simp only; omega)

theorem ordered_sites (arranged : Arranges arrange before) :
    Site.Ordered before (shape.sites arrange start) := by
  induction shape generalizing start with
  | nil => exact .nil
  | scalar name kind rest ih | scalars name kind rest ih => exact ih
  | record name fields rest inner ih => exact ordered_sites_step arranged inner ih
  | records name element rest inner ih => exact ordered_sites_step arranged inner ih

theorem visits_allSites (arranged : Arranges arrange before) (shape : Shape) :
    Visits before (fun site => shape.Leads site.way site.record) (shape.allSites arrange) := by
  have ordered : Site.Ordered before (shape.allSites arrange) :=
    arranged.around shape _ (fun _ => way_ne_nil_of_mem_sites arranged) (ordered_sites arranged)
  refine ⟨ordered, ?_, fun site => mem_allSites arranged⟩
  rw [List.Nodup, List.pairwise_map]
  refine List.Pairwise.imp (fun {first second} less same => ?_) ordered
  rw [same] at less
  exact arranged.irrefl _ less

end Sites

end Shape

namespace Route

theorem typeName_eq_join (root : String) (route : List Step) :
    typeName root route = root ++ String.join (route.map Step.part) := by
  induction route generalizing root with
  | nil => simp [typeName]
  | cons step route ih =>
    have first : step.typeName root = root ++ step.part := by
      cases step with
      | record name => rfl
      | list name => exact String.append_assoc ..
    rw [List.map_cons, String.join_cons, ← String.append_assoc, ← first]
    exact ih (step.typeName root)

theorem path_of_filled {start : String} (filled : start.isEmpty = false) (route : List Step) :
    path start route = ".".intercalate (start :: route.map Step.name) := by
  induction route generalizing start with
  | nil => simp [path]
  | cons step route ih =>
    have further : fieldPath start step.name = start ++ "." ++ step.name := by
      rw [fieldPath, filled]
      rfl
    have longer : (fieldPath start step.name).isEmpty = false := by
      rw [further]
      simp
    have unfolded : path start (step :: route) = path (fieldPath start step.name) route := rfl
    rw [unfolded, ih longer, further, List.map_cons, String.intercalate_cons_cons]
    cases route with
    | nil => simp
    | cons _ _ =>
      rw [List.map_cons, String.intercalate_cons_cons, String.intercalate_cons_cons]
      simp only [String.append_assoc]

theorem path_eq_intercalate (route : List Step) :
    path "" route = ".".intercalate ((route.map Step.name).dropWhile String.isEmpty) := by
  induction route with
  | nil => rfl
  | cons step route ih =>
    cases filled : step.name.isEmpty with
    | true =>
      have start : fieldPath "" step.name = "" := String.isEmpty_iff.mp filled
      have unfolded : path "" (step :: route) = path (fieldPath "" step.name) route := rfl
      rw [unfolded, start, ih, List.map_cons, List.dropWhile_cons_of_pos filled]
    | false =>
      rw [List.map_cons, List.dropWhile_cons_of_neg (by simp [filled]), ← path_of_filled filled]
      rfl

theorem holder_eq_getLast? (parent : String) (route : List Step) :
    holder parent route = (route.map Step.name).getLast?.getD parent := by
  induction route generalizing parent with
  | nil => rfl
  | cons step route ih =>
    rw [List.map_cons, List.getLast?_cons, Option.getD_some]
    exact ih step.name

end Route

theorem Visits.filter {before : List Nat → List Nat → Prop} {wanted : Site → Prop}
    {sites : List Site} (visits : Visits before wanted sites) (kept : Site → Bool) :
    Visits before (fun site => wanted site ∧ kept site = true) (sites.filter kept) where
  ordered := List.Pairwise.filter kept visits.ordered
  distinct := visits.distinct.sublist (List.filter_sublist.map Site.address)
  complete site := by rw [List.mem_filter, visits.complete]

namespace Site

def recordWithin (typeName path : String) (site : Site) : RecordPlace :=
  ⟨Route.typeName typeName site.steps, Route.path path site.steps, site.record⟩

def listWithin (typeName parent path : String) (site : Site) : ListPlace :=
  ⟨Route.holder parent site.steps, Route.holder parent site.steps.dropLast,
    Route.path path site.steps, Route.typeName typeName site.steps, site.record⟩

theorem recordWithin_root (root : String) : recordWithin root "" = recordPlace root := by
  funext site
  rw [recordWithin, Route.typeName_eq_join, Route.path_eq_intercalate]
  rfl

theorem listWithin_root (root : String) : listWithin root "" "" = listPlace root := by
  funext site
  rw [listWithin, Route.typeName_eq_join, Route.path_eq_intercalate, Route.holder_eq_getLast?,
    Route.holder_eq_getLast?, List.map_dropLast]
  rfl

section Behind

variable {site : Site} (filled : site.way ≠ [])
include filled

theorem steps_ne_nil : site.steps ≠ [] := by
  rwa [steps, Ne, List.map_eq_nil_iff]

theorem exists_last : ∃ last, site.steps.getLast? = some last := by
  have nonempty : site.steps ≠ [] := steps_ne_nil filled
  exact ⟨_, List.getLast?_eq_some_getLast nonempty⟩

theorem getLast?_steps_behind (step : Nat × Step) :
    (site.behind step).steps.getLast? = site.steps.getLast? := by
  obtain ⟨last, found⟩ := exists_last filled
  show (step.2 :: site.steps).getLast? = site.steps.getLast?
  rw [List.getLast?_cons, found, Option.getD_some]

theorem isElement_behind (step : Nat × Step) : (site.behind step).isElement = site.isElement := by
  rw [isElement, isElement, getLast?_steps_behind filled]

theorem isField_eq_not_isElement : site.isField = !site.isElement := by
  obtain ⟨last, found⟩ := exists_last filled
  rw [isField, isElement, found]
  cases last <;> rfl

theorem listWithin_behind (typeName parent path : String) (i : Nat) (step : Step) :
    listWithin typeName parent path (site.behind (i, step)) =
      listWithin (step.typeName typeName) step.name (fieldPath path step.name) site := by
  have shorter : (site.behind (i, step)).steps.dropLast = step :: site.steps.dropLast :=
    List.dropLast_cons_of_ne_nil (steps_ne_nil filled)
  rw [listWithin, shorter]
  rfl

end Behind

end Site

namespace Shape

theorem recordsWithin_eq_map (shape : Shape) (typeName path : String) (start : Nat) :
    shape.recordsWithin typeName path =
      (shape.sites Site.after start).map (Site.recordWithin typeName path) := by
  induction shape generalizing typeName path start with
  | nil => rfl
  | scalar name kind rest ih | scalars name kind rest ih => exact ih typeName path _
  | record name fields rest inner ih | records name fields rest inner ih =>
    rw [recordsWithin, sites, Site.after, List.map_append, List.map_map, List.map_append,
      ← ih, inner _ _ 0, ← List.singleton_append, ← List.append_assoc]
    rfl

private theorem listWithin_map_behind (shape : Shape) (typeName parent path : String) (i : Nat)
    (step : Step) :
    (((shape.sites Site.ahead 0).map (.behind (i, step))).filter Site.isElement).map
        (Site.listWithin typeName parent path) =
      ((shape.sites Site.ahead 0).filter Site.isElement).map
        (Site.listWithin (step.typeName typeName) step.name (fieldPath path step.name)) := by
  have filled (site : Site) (mem : site ∈ shape.sites Site.ahead 0) : site.way ≠ [] :=
    way_ne_nil_of_mem_sites arranges_ahead mem
  have kept : (shape.sites Site.ahead 0).filter (Site.isElement ∘ Site.behind (i, step)) =
      (shape.sites Site.ahead 0).filter Site.isElement :=
    List.filter_congr fun site mem => Site.isElement_behind (filled site mem) (i, step)
  rw [List.filter_map, kept, List.map_map]
  refine List.map_congr_left fun site mem => ?_
  exact Site.listWithin_behind (filled site (List.mem_of_mem_filter mem)) _ _ _ _ _

theorem listsWithin_eq_map_sites (shape : Shape) (typeName parent path : String) (start : Nat) :
    shape.listsWithin typeName parent path =
      ((shape.sites Site.ahead start).filter Site.isElement).map
        (Site.listWithin typeName parent path) := by
  induction shape generalizing typeName parent path start with
  | nil => rfl
  | scalar name kind rest ih | scalars name kind rest ih => exact ih typeName parent path _
  | record name fields rest inner ih =>
    have here : (Site.behind (start, .record name) ⟨[], fields⟩).isElement = false := rfl
    rw [listsWithin, inner _ _ _ 0, ih _ _ _ (start + 1), sites, Site.ahead, List.map_cons,
      List.cons_append, List.filter_cons_of_neg (by simp [here]), List.filter_append,
      List.map_append, listWithin_map_behind]
    rfl
  | records name fields rest inner ih =>
    have here : (Site.behind (start, .list name) ⟨[], fields⟩).isElement = true := rfl
    rw [listsWithin, inner _ _ _ 0, ih _ _ _ (start + 1), sites, Site.ahead, List.map_cons,
      List.cons_append, List.filter_cons_of_pos here, List.map_cons, List.filter_append,
      List.map_append, listWithin_map_behind]
    rfl

theorem recordPlaces_eq_map (shape : Shape) (root : String) :
    shape.recordPlaces root = (shape.allSites Site.after).map (Site.recordPlace root) := by
  rw [recordPlaces, allSites, Site.after, List.map_append, recordsWithin_eq_map _ _ _ 0,
    ← Site.recordWithin_root]
  rfl

theorem listPlaces_eq_map_sites (shape : Shape) (root : String) :
    shape.listPlaces root =
      ((shape.allSites Site.ahead).filter Site.isElement).map (Site.listPlace root) := by
  have here : (Site.mk [] shape).isElement = false := rfl
  rw [listPlaces, listsWithin_eq_map_sites _ _ _ _ 0, Site.listWithin_root, allSites, Site.ahead,
    List.filter_cons_of_neg (by simp [here])]

theorem allSites_perm (shape : Shape) :
    (shape.allSites Site.after).Perm ((shape.allSites Site.ahead).filter Site.isElement ++
      ⟨[], shape⟩ :: (shape.allSites Site.ahead).filter Site.isField) := by
  have before := visits_allSites arranges_ahead shape
  have after := visits_allSites arranges_after shape
  have same : (shape.allSites Site.after).Perm (shape.allSites Site.ahead) := by
    have nodup := List.Nodup.of_map Site.address after.distinct
    have nodup' := List.Nodup.of_map Site.address before.distinct
    refine (List.perm_ext_iff_of_nodup nodup nodup').mpr fun site => ?_
    rw [after.complete, before.complete]
  have elements : (shape.allSites Site.ahead).filter Site.isElement =
      (shape.sites Site.ahead 0).filter Site.isElement :=
    List.filter_cons_of_neg (by simp [Site.isElement, Site.steps])
  have fields : (shape.allSites Site.ahead).filter Site.isField =
      (shape.sites Site.ahead 0).filter fun site => !site.isElement := by
    rw [allSites, Site.ahead, List.filter_cons_of_neg (by simp [Site.isField, Site.steps])]
    exact List.filter_congr fun site mem =>
      Site.isField_eq_not_isElement (way_ne_nil_of_mem_sites arranges_ahead mem)
  rw [elements, fields]
  refine same.trans ((List.Perm.cons _ ?_).trans List.perm_middle.symm)
  exact (List.filter_append_perm Site.isElement _).symm

end Shape

/-- The two walks over a response see the same tree. The walk for fragments visits the elements of
lists and the walk for classes visits every record, each of them once: the first in the order of
addresses, the second with what is inside a record before it. Both name what they visit by the way
to it, so that the entries for classes are those for fragments, the response itself, and one for
each field that is a record. -/
theorem walks_see_one_tree (shape : Shape) (root : String) :
    ∃ lists records fields : List Site,
      Visits (· < ·) (fun site => shape.Leads site.way site.record ∧ site.isElement) lists ∧
      shape.listPlaces root = lists.map (Site.listPlace root) ∧
      Visits InsideFirst (fun site => shape.Leads site.way site.record) records ∧
      records.getLast? = some ⟨[], shape⟩ ∧
      shape.recordPlaces root = records.map (Site.recordPlace root) ∧
      Visits (· < ·) (fun site => shape.Leads site.way site.record ∧ site.isField) fields ∧
      Multiset.ofList (shape.recordPlaces root) =
        Multiset.ofList ((shape.listPlaces root).map ListPlace.elements) + {⟨root, "", shape⟩} +
          Multiset.ofList (fields.map (Site.recordPlace root)) := by
  have before := shape.visits_allSites arranges_ahead
  have after := shape.visits_allSites arranges_after
  refine ⟨_, _, _, before.filter Site.isElement, shape.listPlaces_eq_map_sites root, after,
    List.getLast?_concat, shape.recordPlaces_eq_map root, before.filter Site.isField, ?_⟩
  have here : (Site.mk [] shape).recordPlace root = ⟨root, "", shape⟩ := by
    simp [Site.recordPlace, Site.typeName, Site.path, Site.names, Site.steps]
  have split := shape.allSites_perm.map (Site.recordPlace root)
  rw [← shape.recordPlaces_eq_map, List.map_append, List.map_cons, here] at split
  rw [Multiset.coe_eq_coe.mpr split, shape.listPlaces_eq_map_sites, List.map_map,
    Multiset.add_assoc, Multiset.singleton_add]
  rfl

example :
    let row : Shape := .scalar "id" .number (.record "owner" .nil .nil)
    let shape : Shape := .records "rows" row (.record "page" .nil .nil)
    (shape.allSites Site.ahead).map Site.address = [[], [0], [0, 1], [1]] ∧
      (shape.allSites Site.after).map Site.address = [[0, 1], [0], [1], []] := by
  decide

end RestGraph
