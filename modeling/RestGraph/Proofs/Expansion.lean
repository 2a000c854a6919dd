import Mathlib.Logic.Relation
import RestGraph.Proofs.FirstCollision
/-!
Expansion of the fragments of a query document. Spread lines are replaced by the bodies of the
fragments they name, one at a time and in any order; the replacements come to an end, and the end is
the tree of the field names of the response.
-/

set_option autoImplicit false

namespace RestGraph

inductive FieldTree where
  | nil
  | leaf (name : String) (rest : FieldTree)
  | node (name : String) (fields : FieldTree) (rest : FieldTree)
  deriving DecidableEq

namespace FieldTree

def ofNames (names : List String) : FieldTree :=
  names.foldr leaf nil

/-- The names in the elements of a list. A record in an element is cut after its own names. -/
def ofElement : Shape → FieldTree
  | .nil => nil
  | .scalar name _ rest => leaf name (ofElement rest)
  | .scalars name _ rest => leaf name (ofElement rest)
  | .record name fields rest => node name (ofNames fields.names) (ofElement rest)
  | .records name element rest => node name (ofElement element) (ofElement rest)

/-- The names in a response: records outside of lists in full, lists by their elements. -/
def ofResponse : Shape → FieldTree
  | .nil => nil
  | .scalar name _ rest => leaf name (ofResponse rest)
  | .scalars name _ rest => leaf name (ofResponse rest)
  | .record name fields rest => node name (ofResponse fields) (ofResponse rest)
  | .records name element rest => node name (ofElement element) (ofResponse rest)

def document : FieldTree → Document
  | nil => .nil
  | leaf name rest => .line name rest.document
  | node name fields rest => .block name fields.document rest.document

end FieldTree

section Expansion

variable {fragments : List Fragment}

/-- One spread line of a selection is replaced by the body of a fragment of its name. -/
inductive Unfolds (fragments : List Fragment) : Document → Document → Prop
  | here {text : String} {rest : Document} {fragment : Fragment} :
    fragment ∈ fragments → spreadName? text = some fragment.name →
      Unfolds fragments (.line text rest) (fragment.body ++ rest)
  | line {text : String} {rest next : Document} :
    Unfolds fragments rest next → Unfolds fragments (.line text rest) (.line text next)
  | body {header : String} {body next rest : Document} :
    Unfolds fragments body next →
      Unfolds fragments (.block header body rest) (.block header next rest)
  | block {header : String} {body rest next : Document} :
    Unfolds fragments rest next →
      Unfolds fragments (.block header body rest) (.block header body next)

/-- A selection becomes a result without spread lines after a number of replacements. -/
inductive Expands (fragments : List Fragment) : Document → Document → Nat → Prop
  | nil : Expands fragments .nil .nil 0
  | line {text : String} {rest result : Document} {count : Nat} :
    spreadName? text = none → Expands fragments rest result count →
      Expands fragments (.line text rest) (.line text result) count
  | spread {text : String} {rest inner result : Document} {fragment : Fragment}
    {first second : Nat} :
    fragment ∈ fragments → spreadName? text = some fragment.name →
      Expands fragments fragment.body inner first → Expands fragments rest result second →
      Expands fragments (.line text rest) (inner ++ result) (first + second + 1)
  | block {header : String} {body rest inner result : Document} {first second : Nat} :
    Expands fragments body inner first → Expands fragments rest result second →
      Expands fragments (.block header body rest) (.block header inner result) (first + second)

theorem Expands.append {start result later last : Document} {first second : Nat}
    (front : Expands fragments start result first) (back : Expands fragments later last second) :
    Expands fragments (start ++ later) (result ++ last) (first + second) := by
  induction front with
  | nil => simpa using back
  | line plain _ ih => exact .line plain ih
  | spread mem name inner _ _ ih =>
    rw [Document.append_assoc, Nat.add_right_comm, Nat.add_assoc _ _ second]
    exact .spread mem name inner ih
  | block inner _ _ ih =>
    rw [Nat.add_assoc]
    exact .block inner ih

/-- A replacement anywhere leaves the result as it is and one replacement less to do. Names have to
be distinct: by a shared name another body could come in. -/
theorem Expands.step {start next result : Document} {count : Nat}
    (expands : Expands fragments start result count)
    (distinct : (fragments.map Fragment.name).Nodup) (unfolds : Unfolds fragments start next) :
    ∃ fewer, count = fewer + 1 ∧ Expands fragments next result fewer := by
  induction expands generalizing next with
  | nil => cases unfolds
  | line plain _ ih =>
    cases unfolds with
    | here _ name => rw [plain] at name; cases name
    | line unfolds =>
      obtain ⟨fewer, eq, after⟩ := ih unfolds
      exact ⟨fewer, eq, .line plain after⟩
  | @spread text rest inner result fragment first second mem name body after _ ih =>
    cases unfolds with
    | @here _ _ other otherMem otherName =>
      -- the fragment that is put in has the name of the one that was expected
      have same : fragment.name = other.name := Option.some.inj (name.symm.trans otherName)
      obtain rfl := List.inj_on_of_nodup_map distinct mem otherMem same
      exact ⟨first + second, rfl, body.append after⟩
    | line unfolds =>
      obtain ⟨fewer, rfl, rest⟩ := ih unfolds
      exact ⟨first + fewer + 1, rfl, .spread mem name body rest⟩
  | @block header _ _ _ _ first second body after ihBody ih =>
    cases unfolds with
    | body unfolds =>
      obtain ⟨fewer, rfl, inner⟩ := ihBody unfolds
      exact ⟨fewer + second, by omega, .block inner after⟩
    | block unfolds =>
      obtain ⟨fewer, rfl, rest⟩ := ih unfolds
      exact ⟨first + fewer, rfl, .block body rest⟩

theorem Expands.acc {start result : Document} {count : Nat}
    (expands : Expands fragments start result count)
    (distinct : (fragments.map Fragment.name).Nodup) :
    Acc (fun next start => Unfolds fragments start next) start := by
  -- each replacement takes one away from those that are left to do
  induction count generalizing start with
  | zero =>
    constructor
    intro next unfolds
    obtain ⟨_, eq, _⟩ := expands.step distinct unfolds
    cases eq
  | succ count ih =>
    constructor
    intro next unfolds
    obtain ⟨_, eq, after⟩ := expands.step distinct unfolds
    obtain rfl := Nat.succ.inj eq
    exact ih after

theorem Expands.run {start last result : Document} {count : Nat}
    (expands : Expands fragments start result count)
    (distinct : (fragments.map Fragment.name).Nodup)
    (run : Relation.ReflTransGen (Unfolds fragments) start last) :
    ∃ fewer, Expands fragments last result fewer := by
  induction run with
  | refl => exact ⟨count, expands⟩
  | tail _ unfolds ih =>
    obtain ⟨_, before⟩ := ih
    obtain ⟨fewer, _, after⟩ := before.step distinct unfolds
    exact ⟨fewer, after⟩

theorem Expands.eq_of_stuck {last result : Document} {count : Nat}
    (expands : Expands fragments last result count)
    (stuck : ∀ next, ¬ Unfolds fragments last next) : last = result := by
  induction expands with
  | nil => rfl
  | line _ _ ih => rw [ih fun next unfolds => stuck _ (.line unfolds)]
  | spread mem name => exact (stuck _ (.here mem name)).elim
  | block _ _ ihBody ih =>
    rw [ihBody fun next unfolds => stuck _ (.body unfolds),
      ih fun next unfolds => stuck _ (.block unfolds)]

def Serves (fragments : List Fragment) (shape : Shape) : Prop :=
  ∀ found ∈ shape.lists, ∃ fragment ∈ fragments,
    fragment.name = found.fragmentName ∧ fragment.selection = .ofElement found.element

theorem serves_record {name : String} {fields rest : Shape} :
    Serves fragments (.record name fields rest) ↔
      Serves fragments fields ∧ Serves fragments rest := by
  simp [Serves, Shape.lists, FoundList.behind, FoundList.fragmentName, or_imp, forall_and]

theorem serves_records {name : String} {element rest : Shape} :
    Serves fragments (.records name element rest) ↔
      (∃ fragment ∈ fragments,
        fragment.name = Naming.fragment name ∧ fragment.selection = .ofElement element) ∧
      Serves fragments element ∧ Serves fragments rest := by
  simp [Serves, Shape.lists, FoundList.behind, FoundList.fragmentName, or_imp, forall_and]

theorem Expands.ofNames {names : List String} (plain : ∀ name ∈ names, spreadName? name = none) :
    Expands fragments (Selection.ofNames names).document (FieldTree.ofNames names).document 0 := by
  induction names with
  | nil => exact .nil
  | cons name names ih =>
    obtain ⟨head, tail⟩ := List.forall_mem_cons.mp plain
    exact .line head (ih tail)

theorem Expands.spreadOf {name : String} {element : Shape} {result : Document} {count : Nat}
    {fragment : Fragment} (mem : fragment ∈ fragments)
    (named : fragment.name = Naming.fragment name)
    (selects : fragment.selection = .ofElement element)
    (inner : Expands fragments (Selection.ofElement element).document result count) :
    Expands fragments (Selection.spreadOf name).document result (count + 1) := by
  have body : fragment.body = (Selection.ofElement element).document := by
    rw [Fragment.body, selects]
  have spread : spreadName? ("..." ++ Naming.fragment name) = some fragment.name := by
    rw [spreadName?_spread, named]
  show Expands fragments (.line ("..." ++ Naming.fragment name) .nil) result (count + 1)
  simpa using Expands.spread mem spread (body ▸ inner) .nil

theorem exists_expands_ofElement {shape : Shape} (plain : shape.Plain)
    (serves : Serves fragments shape) :
    ∃ count, Expands fragments (Selection.ofElement shape).document
      (FieldTree.ofElement shape).document count := by
  induction shape with
  | nil => exact ⟨0, .nil⟩
  | scalar name kind rest ih =>
    obtain ⟨head, tail⟩ := Shape.plain_scalar.mp plain
    obtain ⟨count, after⟩ := ih tail serves
    exact ⟨count, .line head after⟩
  | scalars name kind rest ih =>
    obtain ⟨head, tail⟩ := Shape.plain_scalars.mp plain
    obtain ⟨count, after⟩ := ih tail serves
    exact ⟨count, .line head after⟩
  | record name fields rest _ ih =>
    obtain ⟨_, inner, tail⟩ := Shape.plain_record.mp plain
    obtain ⟨_, servesRest⟩ := serves_record.mp serves
    obtain ⟨count, after⟩ := ih tail servesRest
    exact ⟨_, .block (.ofNames inner.names) after⟩
  | records name element rest ihElement ih =>
    obtain ⟨_, inner, tail⟩ := Shape.plain_records.mp plain
    obtain ⟨⟨fragment, mem, named, selects⟩, servesElement, servesRest⟩ :=
      serves_records.mp serves
    obtain ⟨_, element⟩ := ihElement inner servesElement
    obtain ⟨_, after⟩ := ih tail servesRest
    exact ⟨_, .block (.spreadOf mem named selects element) after⟩

theorem exists_expands_ofShape {shape : Shape} (plain : shape.Plain)
    (serves : Serves fragments shape) :
    ∃ count, Expands fragments (Selection.ofShape shape).document
      (FieldTree.ofResponse shape).document count := by
  induction shape with
  | nil => exact ⟨0, .nil⟩
  | scalar name kind rest ih =>
    obtain ⟨head, tail⟩ := Shape.plain_scalar.mp plain
    obtain ⟨count, after⟩ := ih tail serves
    exact ⟨count, .line head after⟩
  | scalars name kind rest ih =>
    obtain ⟨head, tail⟩ := Shape.plain_scalars.mp plain
    obtain ⟨count, after⟩ := ih tail serves
    exact ⟨count, .line head after⟩
  | record name fields rest ihFields ih =>
    obtain ⟨_, inner, tail⟩ := Shape.plain_record.mp plain
    obtain ⟨servesFields, servesRest⟩ := serves_record.mp serves
    obtain ⟨_, body⟩ := ihFields inner servesFields
    obtain ⟨_, after⟩ := ih tail servesRest
    exact ⟨_, .block body after⟩
  | records name element rest _ ih =>
    obtain ⟨_, inner, tail⟩ := Shape.plain_records.mp plain
    obtain ⟨⟨fragment, mem, named, selects⟩, servesElement, servesRest⟩ :=
      serves_records.mp serves
    obtain ⟨_, body⟩ := exists_expands_ofElement inner servesElement
    obtain ⟨_, after⟩ := ih tail servesRest
    exact ⟨_, .block (.spreadOf mem named selects body) after⟩

end Expansion

namespace Query

theorem serves_ofEndpoint (options : Options) (endpoint : Endpoint) :
    Serves (ofEndpoint options endpoint).fragments endpoint.response := by
  intro found mem
  rw [fragments_ofEndpoint]
  exact ⟨_, List.mem_map_of_mem mem, rfl, rfl⟩

theorem exists_list_of_mem_spreads {options : Options} {endpoint : Endpoint} {name : String}
    (plain : endpoint.response.Plain)
    (mem : name ∈ (ofEndpoint options endpoint).document.spreads) :
    ∃ found ∈ endpoint.response.lists, found.fragmentName = name := by
  rw [spreads_document, List.mem_append, List.mem_flatMap] at mem
  rcases mem with mem | ⟨fragment, fragmentMem, mem⟩
  · have operation : name ∈ (Selection.ofShape endpoint.response).document.spreads := mem
    rw [Selection.spreads_ofShape plain] at operation
    obtain ⟨found, foundMem, named⟩ := List.mem_map.mp operation
    exact ⟨found, List.mem_of_mem_filter foundMem, named⟩
  · rw [fragments_ofEndpoint] at fragmentMem
    obtain ⟨found, foundMem, rfl⟩ := List.mem_map.mp fragmentMem
    obtain ⟨field, element, inner, named⟩ :=
      (Selection.mem_spreads_ofElement (plain.element foundMem)).mp mem
    exact ⟨_, Shape.mem_lists_inside foundMem inner, named⟩

/-- Expanding the fragments of a query gives back the response. The blocks behind the operation are
the fragments, named after the lists of records; every name that is spread in the document is that
of exactly one fragment; replacing spread lines of the root selection comes to an end in any order,
and it ends with the tree of the field names of the response. -/
theorem expansion_restores_response (options : Options) (endpoint : Endpoint)
    (accepted : endpoint.collision? = none) (plain : endpoint.response.Plain) :
    let query := ofEndpoint options endpoint
    let names := query.fragments.map Fragment.name
    (query.document.blocks.tail =
        query.fragments.map (fun fragment => (fragment.header, fragment.body)) ∧
      names = endpoint.response.lists.map fun found => Naming.fragment found.name) ∧
    (∀ name ∈ query.document.spreads, names.count name = 1) ∧
    Acc (fun next start => Unfolds query.fragments start next) query.document.rootSelection ∧
    ∀ last, Relation.ReflTransGen (Unfolds query.fragments) query.document.rootSelection last →
      (∀ next, ¬ Unfolds query.fragments last next) →
        last = (FieldTree.ofResponse endpoint.response).document := by
  intro query names
  have distinct : names.Nodup := ((endpoint.collision?_eq_none_iff options).mp accepted).1
  obtain ⟨count, expands⟩ := exists_expands_ofShape plain (serves_ofEndpoint options endpoint)
  have root : query.document.rootSelection = (Selection.ofShape endpoint.response).document :=
    query.rootSelection_document
  refine ⟨⟨query.tail_blocks_document, names_fragments options endpoint⟩, ?_, ?_, ?_⟩
  · intro name mem
    obtain ⟨found, foundMem, rfl⟩ := exists_list_of_mem_spreads plain mem
    apply List.count_eq_one_of_mem distinct
    rw [show names = _ from names_fragments options endpoint]
    exact List.mem_map_of_mem foundMem
  · rw [root]
    exact expands.acc distinct
  · intro last run stuck
    rw [root] at run
    obtain ⟨_, after⟩ := expands.run distinct run
    exact after.eq_of_stuck stuck

theorem expansion_restores_report :
    Endpoint.report.collision? = none ∧ Endpoint.report.response.Plain ∧
      (ofEndpoint {} Endpoint.report).document.spreads = ["rowsData", "cellsData"] ∧
      ∀ last, Relation.ReflTransGen (Unfolds (ofEndpoint {} Endpoint.report).fragments)
          (ofEndpoint {} Endpoint.report).document.rootSelection last →
        (∀ next, ¬ Unfolds (ofEndpoint {} Endpoint.report).fragments last next) →
          last = .line "id" (.block "page" (.block "rows" (.block "meta" (.line "owners" .nil)
            (.block "cells" (.line "values" .nil) .nil)) .nil) .nil) :=
  ⟨by decide +kernel, by decide +kernel, by decide +kernel,
    (expansion_restores_response {} Endpoint.report (by decide +kernel)
      (by decide +kernel)).2.2.2⟩

end Query

end RestGraph
