/-!
Texts under construction. A document is a sequence of lines, empty lines, indented passages and
blocks in braces; indentation and line ends are decided when it is rendered, and nowhere else.
-/

set_option autoImplicit false

namespace RestGraph

/-- A sequence of lines and of passages that hold further lines. -/
inductive Document where
  | nil
  | line (text : String) (rest : Document)
  | blank (rest : Document)
  | indent (body : Document) (rest : Document)
  | block (header : String) (body : Document) (rest : Document)
  deriving DecidableEq, Inhabited

namespace Document

def append : Document → Document → Document
  | nil, next => next
  | line text rest, next => line text (rest.append next)
  | blank rest, next => blank (rest.append next)
  | indent body rest, next => indent body (rest.append next)
  | block header body rest, next => block header body (rest.append next)

instance : Append Document := ⟨append⟩

def isEmpty : Document → Bool
  | nil => true
  | _ => false

def ofLines (lines : List String) : Document :=
  lines.foldr line nil

/-- Groups with an empty line between each two that are not empty. -/
def separated : List Document → Document
  | [] => nil
  | group :: rest =>
    let others := separated rest
    if group.isEmpty then others
    else if others.isEmpty then group
    else group ++ blank others

/-- Adds a section at the end. An empty line comes before it unless the document is empty, and an
empty section changes nothing. -/
def pushSection (document addition : Document) : Document :=
  if addition.isEmpty then document
  else if document.isEmpty then addition
  else document ++ blank addition

def commaSeparated : List String → Document
  | [] => nil
  | [last] => line last nil
  | item :: rest => line (item ++ ",") (commaSeparated rest)

def pushLine (output unit : String) (level : Nat) (text : String) : String :=
  (Nat.repeat (· ++ unit) level output ++ text).push '\n'

/-- Writes a document behind what is written, starting at a level of indentation. An empty line is
not indented, and the braces of a block stand at the level around its body. -/
def renderFrom (unit : String) (level : Nat) (output : String) : Document → String
  | nil => output
  | line text rest => rest.renderFrom unit level (pushLine output unit level text)
  | blank rest => rest.renderFrom unit level (output.push '\n')
  | indent body rest => rest.renderFrom unit level (body.renderFrom unit (level + 1) output)
  | block header body rest =>
    let opened := pushLine output unit level (header ++ " \x7b")
    let filled := body.renderFrom unit (level + 1) opened
    rest.renderFrom unit level (pushLine filled unit level "\x7d")

def render (unit : String) (document : Document) : String :=
  document.renderFrom unit 0 ""

@[simp] theorem nil_append (document : Document) : nil ++ document = document :=
  rfl

@[simp] theorem append_nil (document : Document) : document ++ nil = document := by
  show document.append nil = document
  induction document <;> simp_all [append]

theorem append_assoc (first second third : Document) :
    first ++ second ++ third = first ++ (second ++ third) := by
  show (first.append second).append third = first.append (second.append third)
  induction first <;> simp_all [append]

end Document

end RestGraph
