import RestGraph.Document
/-!
The nodes of a document: its outermost lines and passages, the blocks among them, and the spread
lines of its selections. Each of these views takes sections apart as they were put together.
-/

set_option autoImplicit false

namespace RestGraph

inductive Node where
  | line (text : String)
  | blank
  | indent (body : Document)
  | block (header : String) (body : Document)
  deriving DecidableEq

def Node.block? : Node → Option (String × Document)
  | .block header body => some (header, body)
  | _ => none

def spreadName? (text : String) : Option String :=
  match text.toList with
  | '.' :: '.' :: '.' :: name => some (String.ofList name)
  | _ => none

@[simp] theorem spreadName?_spread (name : String) : spreadName? ("..." ++ name) = some name := by
  simp [spreadName?, String.toList_append]

namespace Document

def nodes : Document → List Node
  | nil => []
  | line text rest => .line text :: rest.nodes
  | blank rest => .blank :: rest.nodes
  | indent body rest => .indent body :: rest.nodes
  | block header body rest => .block header body :: rest.nodes

def blocks (document : Document) : List (String × Document) :=
  document.nodes.filterMap Node.block?

def firstBody (document : Document) : Document :=
  ((document.blocks.head?).map Prod.snd).getD .nil

/-- The selection of the root field of an operation. The operation is the first block, and its root
field the first block in that one; with arguments, a block goes on behind them. -/
def rootSelection (document : Document) : Document :=
  document.firstBody.firstBody

def startsIndented : Document → Bool
  | indent _ _ => true
  | _ => false

/-- The names that are spread in the selections of a document, in order. An indented passage is a
list of arguments: neither its lines nor the line that opens it select anything. -/
def spreads : Document → List String
  | nil => []
  | line text rest =>
    if rest.startsIndented then rest.spreads else (spreadName? text).toList ++ rest.spreads
  | blank rest => rest.spreads
  | indent _ rest => rest.spreads
  | block _ body rest => body.spreads ++ rest.spreads

theorem nodes_append (first second : Document) :
    (first ++ second).nodes = first.nodes ++ second.nodes := by
  show (first.append second).nodes = _
  induction first <;> simp_all [append, nodes]

theorem nodes_ofLines (lines : List String) : (ofLines lines).nodes = lines.map Node.line := by
  induction lines with
  | nil => rfl
  | cons line lines ih => exact congrArg (Node.line line :: ·) ih

@[simp] theorem blocks_nil : nil.blocks = [] := rfl

@[simp] theorem blocks_block (header : String) (body rest : Document) :
    (block header body rest).blocks = (header, body) :: rest.blocks := rfl

theorem blocks_append (first second : Document) :
    (first ++ second).blocks = first.blocks ++ second.blocks := by
  rw [blocks, nodes_append, List.filterMap_append]
  rfl

theorem spreads_append_blank (first second : Document) :
    (first ++ blank second).spreads = first.spreads ++ second.spreads := by
  show (first.append (blank second)).spreads = _
  induction first with
  | nil => rfl
  | line text rest ih =>
    have starts : (rest.append (blank second)).startsIndented = rest.startsIndented := by
      cases rest <;> rfl
    simp only [append, spreads, starts, ih]
    split <;> simp
  | blank rest ih => simpa [append, spreads] using ih
  | indent body rest _ ih => simpa [append, spreads] using ih
  | block header body rest _ ih => simp [append, spreads, ih]

/-- A view that takes an empty line between two sections for nothing finds the parts of both. -/
theorem view_pushSection {α : Type} (view : Document → List α) (empty : view nil = [])
    (joined : ∀ first second, view (first ++ blank second) = view first ++ view second)
    (document addition : Document) :
    view (document.pushSection addition) = view document ++ view addition := by
  unfold pushSection
  cases addition with
  | nil => simp [isEmpty, empty]
  | line _ _ | blank _ | indent _ _ | block _ _ _ =>
    cases document <;> simp [isEmpty, empty, joined]

theorem blocks_pushSection (document addition : Document) :
    (document.pushSection addition).blocks = document.blocks ++ addition.blocks :=
  view_pushSection blocks rfl (fun first second => blocks_append first (blank second)) _ _

theorem spreads_pushSection (document addition : Document) :
    (document.pushSection addition).spreads = document.spreads ++ addition.spreads :=
  view_pushSection spreads rfl spreads_append_blank _ _

end Document

end RestGraph
