import RestGraph.Declaration
import RestGraph.Proofs.Nodes
import RestGraph.Query
/-!
Sections. Adding a section at the end of a document is an operation with the empty document as its
neutral element, and it does not matter how three documents are bracketed. So it makes no difference
whether groups are added one by one, or separated first and then added at once.
-/

set_option autoImplicit false

namespace RestGraph

namespace Document

def isFilled (group : Document) : Bool :=
  !group.isEmpty

/-- The filled groups joined from the first one on: an empty line is due as soon as something has
been written. -/
def gather (groups : List Document) : Document :=
  (groups.filter isFilled).foldl
    (fun document group => if document.isEmpty then group else document ++ blank group) nil

theorem eq_nil_or_filled (document : Document) : document = nil ∨ document.isEmpty = false := by
  cases document with
  | nil => exact .inl rfl
  | line _ _ | blank _ | indent _ _ | block _ _ _ => exact .inr rfl

theorem isEmpty_append (first second : Document) :
    (first ++ second).isEmpty = (first.isEmpty && second.isEmpty) := by
  cases first <;> rfl

@[simp] theorem nil_pushSection (addition : Document) : nil.pushSection addition = addition := by
  cases addition <;> rfl

@[simp] theorem pushSection_nil (document : Document) : document.pushSection nil = document :=
  rfl

theorem pushSection_of_filled {document addition : Document} (before : document.isEmpty = false)
    (filled : addition.isEmpty = false) :
    document.pushSection addition = document ++ blank addition := by
  simp [pushSection, before, filled]

theorem isEmpty_pushSection (document addition : Document) :
    (document.pushSection addition).isEmpty = (document.isEmpty && addition.isEmpty) := by
  rcases document.eq_nil_or_filled with rfl | before
  · rw [nil_pushSection]
    rfl
  rcases addition.eq_nil_or_filled with rfl | filled
  · rw [pushSection_nil, before]
    rfl
  · rw [pushSection_of_filled before filled, isEmpty_append, before]
    rfl

theorem pushSection_assoc (first second third : Document) :
    (first.pushSection second).pushSection third =
      first.pushSection (second.pushSection third) := by
  rcases first.eq_nil_or_filled with rfl | one
  · rw [nil_pushSection, nil_pushSection]
  rcases second.eq_nil_or_filled with rfl | two
  · rw [pushSection_nil, nil_pushSection]
  rcases third.eq_nil_or_filled with rfl | three
  · rw [pushSection_nil, pushSection_nil]
  -- with all three filled, each side writes one empty line in front of the second and the third
  have ahead : (first.pushSection second).isEmpty = false := by
    rw [isEmpty_pushSection, one]
    rfl
  have behind : (second.pushSection third).isEmpty = false := by
    rw [isEmpty_pushSection, two]
    rfl
  rw [pushSection_of_filled ahead three, pushSection_of_filled one behind,
    pushSection_of_filled one two, pushSection_of_filled two three, append_assoc]
  rfl

instance : Std.Associative pushSection := ⟨pushSection_assoc⟩

instance : Std.LawfulIdentity pushSection nil where
  left_id := nil_pushSection
  right_id := pushSection_nil

theorem separated_cons (group : Document) (groups : List Document) :
    separated (group :: groups) = group.pushSection (separated groups) := by
  rcases group.eq_nil_or_filled with rfl | filled
  · rw [nil_pushSection]
    rfl
  · simp [separated, pushSection, filled]

theorem separated_eq_foldr (groups : List Document) :
    separated groups = groups.foldr pushSection nil := by
  induction groups with
  | nil => rfl
  | cons group groups ih => rw [separated_cons, List.foldr_cons, ih]

theorem foldl_pushSection (document : Document) (groups : List Document) :
    groups.foldl pushSection document = document.pushSection (separated groups) := by
  rw [separated_eq_foldr, List.foldl_eq_apply_foldr]

theorem foldl_pushSection_nil (groups : List Document) :
    groups.foldl pushSection nil = separated groups := by
  rw [foldl_pushSection, nil_pushSection]

theorem separated_append (groups more : List Document) :
    separated (groups ++ more) = (separated groups).pushSection (separated more) :=
  calc separated (groups ++ more)
    _ = (groups ++ more).foldl pushSection nil := (foldl_pushSection_nil _).symm
    _ = more.foldl pushSection (groups.foldl pushSection nil) := List.foldl_append
    _ = (separated groups).pushSection (separated more) := by
      rw [foldl_pushSection, foldl_pushSection_nil]

theorem gather_eq_separated (groups : List Document) : gather groups = separated groups := by
  -- on a filled group the loop does what adding a section does, and empty ones change nothing
  have step : (fun document group : Document =>
      if group.isFilled then if document.isEmpty then group else document ++ blank group
      else document) = pushSection := by
    funext document group
    cases empty : group.isEmpty <;> simp [isFilled, pushSection, empty]
  rw [gather, List.foldl_filter, step, foldl_pushSection_nil]

theorem separated_filter (groups : List Document) :
    separated (groups.filter isFilled) = separated groups := by
  rw [← gather_eq_separated, ← gather_eq_separated, gather, gather, List.filter_filter]
  simp only [Bool.and_self]

theorem nodes_separated_of_filled {groups : List Document}
    (filled : ∀ group ∈ groups, group.isEmpty = false) :
    (separated groups).nodes = [Node.blank].intercalate (groups.map nodes) := by
  induction groups with
  | nil => rfl
  | cons group groups ih =>
    obtain ⟨here, later⟩ := List.forall_mem_cons.mp filled
    cases groups with
    | nil =>
      rw [separated_cons, separated, pushSection_nil, List.map_singleton,
        List.intercalate_singleton]
    | cons next rest =>
      have more : (separated (next :: rest)).isEmpty = false := by
        rw [separated_cons, isEmpty_pushSection, later next List.mem_cons_self]
        rfl
      have joined : [Node.blank].intercalate ((group :: next :: rest).map nodes) =
          group.nodes ++ .blank :: [Node.blank].intercalate ((next :: rest).map nodes) := by
        simp [List.intercalate_cons_cons]
      rw [separated_cons, pushSection_of_filled here more, nodes_append, nodes, ih later, joined]

theorem nodes_separated (groups : List Document) :
    (separated groups).nodes =
      [Node.blank].intercalate ((groups.filter isFilled).map nodes) := by
  rw [← separated_filter]
  apply nodes_separated_of_filled
  intro group mem
  exact Bool.not_eq_true' _ ▸ (List.mem_filter.mp mem).2

theorem view_separated {α : Type} (view : Document → List α) (empty : view nil = [])
    (pushed : ∀ document addition : Document,
      view (document.pushSection addition) = view document ++ view addition)
    (groups : List Document) : view (separated groups) = groups.flatMap view := by
  induction groups with
  | nil => exact empty
  | cons group groups ih => rw [separated_cons, pushed, ih, List.flatMap_cons]

theorem blocks_separated (groups : List Document) :
    (separated groups).blocks = groups.flatMap blocks :=
  view_separated blocks rfl blocks_pushSection groups

theorem spreads_separated (groups : List Document) :
    (separated groups).spreads = groups.flatMap spreads :=
  view_separated spreads rfl spreads_pushSection groups

/-- Sections can be added one by one or at once. Whether an empty line is due is seen from the
document, from the groups that are still to come, or from those already written, and all three
agree; groups can be separated in two parts that are separated again, and the nodes are those of the
filled groups with one empty line between each two neighbours. -/
theorem sections_agree (document : Document) (groups more : List Document) :
    groups.foldl pushSection document = document.pushSection (separated groups) ∧
    groups.foldl pushSection nil = separated groups ∧
    gather groups = separated groups ∧
    separated (groups ++ more) = separated [separated groups, separated more] ∧
    (separated groups).nodes =
      [Node.blank].intercalate ((groups.filter isFilled).map nodes) ∧
    (groups.foldl pushSection document).nodes =
      [Node.blank].intercalate (((document :: groups).filter isFilled).map nodes) := by
  refine ⟨foldl_pushSection document groups, foldl_pushSection_nil groups,
    gather_eq_separated groups, ?_, nodes_separated groups, ?_⟩
  · rw [separated_append, separated_cons, separated_cons, separated, pushSection_nil]
  · rw [foldl_pushSection, ← separated_cons, nodes_separated]

theorem foldl_pushSection_map {α : Type} (layout : α → Document) (items : List α)
    (document : Document) :
    items.foldl (fun document item => document.pushSection (layout item)) document =
      document.pushSection (separated (items.map layout)) := by
  rw [← foldl_pushSection, List.foldl_map]

end Document

theorem Query.document_eq_separated (query : Query) :
    query.document =
      .separated (query.operationDocument :: query.fragments.map Fragment.document) := by
  rw [document, Document.foldl_pushSection_map, Document.nil_pushSection, Document.separated_cons]

theorem Declaration.documentOf_eq_separated (declarations : List Declaration) :
    documentOf declarations = .separated (declarations.map document) := by
  rw [documentOf, Document.foldl_pushSection_map, Document.nil_pushSection]

end RestGraph
