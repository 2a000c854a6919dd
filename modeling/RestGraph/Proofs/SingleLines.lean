import RestGraph.Artifacts
import RestGraph.Proofs.AbsentMarks
import RestGraph.Proofs.Literals
import RestGraph.Proofs.RenderedLines
/-!
The lines of the three documents. A mark is in a document only if it is in one of its lines or
headers, and what is in these is known from their parts. So if no name of an endpoint contains a
line feed, each line of its documents is one line of the finished text.
-/

set_option autoImplicit false

namespace RestGraph

open Text (Lacks IsMark)

namespace Document

/-- A mark occurs in no line and in no header of a document. -/
def Lacks (mark : Char) (document : Document) : Prop :=
  ∀ text ∈ document.texts, Text.Lacks mark text

section Lacks

variable {mark : Char}

@[simp] theorem lacks_nil : nil.Lacks mark :=
  nofun

@[simp] theorem lacks_line {text : String} {rest : Document} :
    (line text rest).Lacks mark ↔ Text.Lacks mark text ∧ rest.Lacks mark :=
  List.forall_mem_cons

@[simp] theorem lacks_indent {body rest : Document} :
    (indent body rest).Lacks mark ↔ body.Lacks mark ∧ rest.Lacks mark :=
  List.forall_mem_append

@[simp] theorem lacks_block {header : String} {body rest : Document} :
    (block header body rest).Lacks mark ↔
      Text.Lacks mark header ∧ body.Lacks mark ∧ rest.Lacks mark :=
  List.forall_mem_cons.trans (and_congr_right' List.forall_mem_append)

theorem texts_append (first second : Document) :
    (first ++ second).texts = first.texts ++ second.texts := by
  show (first.append second).texts = _
  induction first <;> simp_all [append, texts]

theorem lacks_pushSection {document addition : Document} (before : document.Lacks mark)
    (lacks : addition.Lacks mark) : (document.pushSection addition).Lacks mark := by
  unfold pushSection
  split
  · exact before
  · split
    · exact lacks
    · rw [Lacks, texts_append]
      exact List.forall_mem_append.mpr ⟨before, lacks⟩

theorem lacks_separated {groups : List Document} (lacks : ∀ group ∈ groups, group.Lacks mark) :
    (separated groups).Lacks mark := by
  induction groups with
  | nil => exact lacks_nil
  | cons group groups ih =>
    obtain ⟨here, later⟩ := List.forall_mem_cons.mp lacks
    rw [separated_cons]
    exact lacks_pushSection here (ih later)

theorem lacks_commaSeparated {items : List String} (comma : Text.Lacks mark ",")
    (lacks : ∀ item ∈ items, Text.Lacks mark item) : (commaSeparated items).Lacks mark := by
  induction items with
  | nil => exact lacks_nil
  | cons item rest ih =>
    obtain ⟨here, later⟩ := List.forall_mem_cons.mp lacks
    cases rest with
    | nil => exact lacks_line.mpr ⟨here, lacks_nil⟩
    | cons next rest => exact lacks_line.mpr ⟨Text.lacks_append.mpr ⟨here, comma⟩, ih later⟩

end Lacks

end Document

namespace Selection

section Lacks

variable {mark : Char} (isMark : IsMark mark) (points : Lacks mark "...")
include isMark points

theorem lacks_spreadOf {name : String} (lacks : Lacks mark name) :
    (spreadOf name).document.Lacks mark :=
  Document.lacks_line.mpr
    ⟨Text.lacks_append.mpr ⟨points, Text.lacks_append.mpr ⟨lacks, isMark.lacks_word (by decide)⟩⟩,
      Document.lacks_nil⟩

omit isMark points in
theorem lacks_ofNames {names : List String} (lacks : ∀ name ∈ names, Lacks mark name) :
    (ofNames names).document.Lacks mark := by
  induction names with
  | nil => exact Document.lacks_nil
  | cons name names ih =>
    obtain ⟨here, later⟩ := List.forall_mem_cons.mp lacks
    exact Document.lacks_line.mpr ⟨here, ih later⟩

theorem lacks_ofShape {shape : Shape} (lacks : ∀ name ∈ shape.deepNames, Lacks mark name) :
    (ofShape shape).document.Lacks mark := by
  induction shape with
  | nil => exact Document.lacks_nil
  | scalar name kind rest ih | scalars name kind rest ih =>
    obtain ⟨here, later⟩ := List.forall_mem_cons.mp lacks
    exact Document.lacks_line.mpr ⟨here, ih later⟩
  | record name fields rest inner ih =>
    obtain ⟨here, others⟩ := List.forall_mem_cons.mp lacks
    obtain ⟨inside, later⟩ := List.forall_mem_append.mp others
    exact Document.lacks_block.mpr ⟨here, inner inside, ih later⟩
  | records name element rest inner ih =>
    obtain ⟨here, others⟩ := List.forall_mem_cons.mp lacks
    obtain ⟨-, later⟩ := List.forall_mem_append.mp others
    exact Document.lacks_block.mpr ⟨here, lacks_spreadOf isMark points here, ih later⟩

theorem lacks_ofElement {shape : Shape} (lacks : ∀ name ∈ shape.deepNames, Lacks mark name) :
    (ofElement shape).document.Lacks mark := by
  induction shape with
  | nil => exact Document.lacks_nil
  | scalar name kind rest ih | scalars name kind rest ih =>
    obtain ⟨here, later⟩ := List.forall_mem_cons.mp lacks
    exact Document.lacks_line.mpr ⟨here, ih later⟩
  | record name fields rest inner ih =>
    obtain ⟨here, others⟩ := List.forall_mem_cons.mp lacks
    obtain ⟨inside, later⟩ := List.forall_mem_append.mp others
    have direct : ∀ name ∈ fields.names, Lacks mark name := fun name mem =>
      inside name (fields.names_subset_deepNames mem)
    exact Document.lacks_block.mpr ⟨here, lacks_ofNames direct, ih later⟩
  | records name element rest inner ih =>
    obtain ⟨here, others⟩ := List.forall_mem_cons.mp lacks
    obtain ⟨-, later⟩ := List.forall_mem_append.mp others
    exact Document.lacks_block.mpr ⟨here, lacks_spreadOf isMark points here, ih later⟩

end Lacks

end Selection

namespace Parameter

section Lacks

variable {mark : Char} {parameter : Parameter} (lacks : Lacks mark parameter.name)
include lacks

theorem lacks_variable (isMark : IsMark mark) (signs : Lacks mark "$: !") :
    Lacks mark parameter.variable := by
  have type : Lacks mark parameter.kind.graphqlType := by
    apply isMark.lacks_word
    cases parameter.kind <;> decide
  have flag : Lacks mark (if parameter.required then "!" else "") := by
    apply signs.mono
    cases parameter.required <;> decide
  simp only [Parameter.variable, Text.lacks_append]
  exact ⟨⟨⟨⟨signs.mono (by decide), lacks⟩, signs.mono (by decide)⟩, type⟩, flag⟩

theorem lacks_binding (signs : Lacks mark "$: !") : Lacks mark parameter.binding := by
  simp only [binding, Text.lacks_append]
  exact ⟨⟨lacks, signs.mono (by decide)⟩, lacks⟩

end Lacks

end Parameter

section LineFeeds

def PropertyType.IsSingle : PropertyType → Prop
  | .scalar _ | .scalars _ => True
  | .object typeName | .objects typeName => Lacks '\n' typeName

namespace PropertyType

variable {type : PropertyType} (single : type.IsSingle)
include single

theorem lacks_typescript : Lacks '\n' type.typescript := by
  have scalar (kind : Scalar) : Lacks '\n' kind.typescriptType := by cases kind <;> decide
  cases type with
  | scalar kind => exact scalar kind
  | scalars kind => exact Text.lacks_append.mpr ⟨scalar kind, by decide⟩
  | object typeName => exact single
  | objects typeName => exact Text.lacks_append.mpr ⟨single, by decide⟩

theorem lacks_decorated {text : String} (found : type.decorated? = some text) :
    Lacks '\n' text := by
  have scalar (kind : Scalar) : Lacks '\n' kind.graphqlType := by cases kind <;> decide
  have bracketed {inner : String} (lacks : Lacks '\n' inner) :
      Lacks '\n' ("[" ++ inner ++ "]") := by
    simp only [Text.lacks_append]
    exact ⟨⟨by decide, lacks⟩, by decide⟩
  cases type with
  | scalar kind => cases found
  | scalars kind =>
    cases found
    exact bracketed (scalar kind)
  | object typeName =>
    cases found
    exact single
  | objects typeName =>
    cases found
    exact bracketed single

end PropertyType

namespace Property

variable {property : Property}

theorem lacks_decorator (single : property.type.IsSingle) : Lacks '\n' property.decorator := by
  have inside : ∀ text ∈ (property.type.decorated?.map fun type => "() => " ++ type).toList,
      Lacks '\n' text := by
    intro text mem
    obtain ⟨inner, found, rfl⟩ := Option.map_eq_some_iff.mp (Option.mem_toList.mp mem)
    exact Text.lacks_append.mpr ⟨by decide, PropertyType.lacks_decorated single found⟩
  have setting : ∀ text ∈ (if property.required then none
      else some "\x7b nullable: true \x7d").toList, Lacks '\n' text := by
    cases property.required
    · decide
    · exact nofun
  simp only [decorator, Text.lacks_append]
  exact ⟨⟨by decide, Text.lacks_intercalate (by decide)
    (List.forall_mem_append.mpr ⟨inside, setting⟩)⟩, by decide⟩

theorem lacks_declaration (named : Lacks '\n' property.name) (single : property.type.IsSingle) :
    Lacks '\n' property.declaration := by
  have sign : Lacks '\n' (if property.required then "!: " else "?: ") := by
    cases property.required <;> decide
  simp only [declaration, Text.lacks_append]
  exact ⟨⟨⟨named, sign⟩, PropertyType.lacks_typescript single⟩, by decide⟩

theorem lacks_document (named : Lacks '\n' property.name) (single : property.type.IsSingle) :
    property.document.Lacks '\n' := by
  simp only [document, Document.lacks_line, Document.lacks_nil, and_true]
  exact ⟨lacks_decorator single, lacks_declaration named single⟩

end Property

namespace Declaration

theorem lacks_document {declaration : Declaration} (named : Lacks '\n' declaration.name)
    (properties : ∀ property ∈ declaration.properties,
      Lacks '\n' property.name ∧ property.type.IsSingle) : declaration.document.Lacks '\n' := by
  have role : Lacks '\n' declaration.role.decorator := by
    cases declaration.role <;> decide
  have body : (Document.separated (declaration.properties.map Property.document)).Lacks '\n' :=
    Document.lacks_separated <| List.forall_mem_map.mpr fun property mem =>
      property.lacks_document (properties property mem).1 (properties property mem).2
  simp only [document, Document.lacks_line, Document.lacks_block, Document.lacks_nil, and_true,
    Text.lacks_append]
  exact ⟨role, ⟨by decide, named⟩, body⟩

theorem isSingle_fieldProperty {typeName : String} {field : Field} (typed : Lacks '\n' typeName)
    (named : Lacks '\n' field.name) : (fieldProperty typeName field).type.IsSingle := by
  obtain ⟨name, value⟩ := field
  cases value with
  | scalar kind | scalars kind => trivial
  | record fields => exact Text.lacks_append.mpr ⟨typed, named⟩
  | records element =>
    exact Text.lacks_append.mpr ⟨Text.lacks_append.mpr ⟨typed, named⟩, by decide⟩

end Declaration

namespace Endpoint.Lacks

variable {endpoint : Endpoint} (lacks : endpoint.Lacks '\n')
include lacks

theorem operationDocument (options : Options) :
    (Query.ofEndpoint options endpoint).operationDocument.Lacks '\n' := by
  have isMark : IsMark '\n' := by decide
  have keyword : Text.Lacks '\n' (options.operation endpoint).keyword := by
    cases options.operation endpoint <;> decide
  have named : Text.Lacks '\n' (Naming.operation endpoint.name) := lacks.name.lower isMark
  have selection : (Selection.ofShape endpoint.response).document.Lacks '\n' :=
    Selection.lacks_ofShape isMark (by decide) lacks.fields
  have declared : (Document.commaSeparated
      (endpoint.parameters.map Parameter.variable)).Lacks '\n' :=
    Document.lacks_commaSeparated (by decide) <| List.forall_mem_map.mpr fun parameter mem =>
      Parameter.lacks_variable (lacks.parameters parameter mem) isMark (by decide)
  have bound : (Document.commaSeparated
      (endpoint.parameters.map Parameter.binding)).Lacks '\n' :=
    Document.lacks_commaSeparated (by decide) <| List.forall_mem_map.mpr fun parameter mem =>
      Parameter.lacks_binding (lacks.parameters parameter mem) (by decide)
  unfold Query.operationDocument Query.ofEndpoint
  split
  · simp only [Document.lacks_block, Document.lacks_nil, Text.lacks_append, and_true]
    exact ⟨⟨⟨keyword, by decide⟩, named⟩, named, selection⟩
  · simp only [Document.lacks_line, Document.lacks_indent, Document.lacks_block,
      Document.lacks_nil, Text.lacks_append, and_true]
    exact ⟨⟨⟨⟨keyword, by decide⟩, named⟩, by decide⟩, declared, by decide, ⟨named, by decide⟩,
      bound, by decide, selection⟩

theorem fragment {place : ListPlace}
    (mem : place ∈ endpoint.response.listPlaces (Naming.responseType endpoint.name)) :
    (Fragment.ofPlace place).document.Lacks '\n' := by
  have isMark : IsMark '\n' := by decide
  obtain ⟨named, typed, inside⟩ := lacks.listPlace isMark mem
  simp only [Fragment.document, Fragment.ofPlace, Naming.fragment, Document.lacks_block,
    Document.lacks_nil, Text.lacks_append, and_true]
  exact ⟨⟨⟨⟨by decide, named, by decide⟩, by decide⟩, typed⟩,
    Selection.lacks_ofElement isMark (by decide) inside⟩

theorem query (options : Options) : (Query.ofEndpoint options endpoint).document.Lacks '\n' := by
  rw [Query.document_eq_separated]
  refine Document.lacks_separated (List.forall_mem_cons.mpr
    ⟨lacks.operationDocument options, List.forall_mem_map.mpr ?_⟩)
  exact List.forall_mem_map.mpr fun _ mem => lacks.fragment mem

theorem declaration {declaration : Declaration}
    (mem : declaration ∈ Declaration.ofEndpoint endpoint) : declaration.document.Lacks '\n' := by
  have isMark : IsMark '\n' := by decide
  rcases List.mem_cons.mp mem with rfl | mem
  · apply Declaration.lacks_document
    · exact Text.lacks_append.mpr ⟨lacks.name, by decide⟩
    · exact List.forall_mem_map.mpr fun parameter inside =>
        ⟨lacks.parameters parameter inside, trivial⟩
  · obtain ⟨place, placeMem, rfl⟩ := List.mem_map.mp mem
    obtain ⟨typed, inside⟩ := lacks.recordPlace isMark placeMem
    have properties : ∀ property ∈ (Declaration.ofPlace place).properties,
        Text.Lacks '\n' property.name ∧ property.type.IsSingle := by
      refine List.forall_mem_map.mpr fun field fieldMem => ?_
      have named : Text.Lacks '\n' field.name :=
        inside _ (place.fields.names_subset_deepNames (List.mem_map_of_mem fieldMem))
      exact ⟨named, Declaration.isSingle_fieldProperty typed named⟩
    exact Declaration.lacks_document typed properties

theorem classes : (Declaration.documentOf (Declaration.ofEndpoint endpoint)).Lacks '\n' := by
  rw [Declaration.documentOf_eq_separated]
  exact Document.lacks_separated (List.forall_mem_map.mpr fun _ mem => lacks.declaration mem)

theorem argumentObject (options : Options) :
    Text.Lacks '\n' (Resolver.ofEndpoint options endpoint).argumentObject := by
  have names : ∀ name ∈ endpoint.parameters.map Parameter.name, Text.Lacks '\n' name :=
    List.forall_mem_map.mpr lacks.parameters
  unfold Resolver.argumentObject
  split
  · decide
  · simp only [Text.lacks_append]
    exact ⟨⟨by decide, Text.lacks_intercalate (by decide) names⟩, by decide⟩

theorem methodBody (options : Options) :
    (Resolver.ofEndpoint options endpoint).methodBody.Lacks '\n' := by
  have name := (Text.lacks_literal (by decide) (by decide)).mpr lacks.name
  have method := (Text.lacks_literal (by decide) (by decide)).mpr lacks.method
  simp only [Resolver.methodBody, Document.ofLines, List.foldr_cons, List.foldr_nil,
    Document.lacks_line, Document.lacks_nil, Text.lacks_append, and_true]
  exact ⟨⟨⟨⟨⟨⟨⟨by decide, name⟩, by decide⟩, method⟩, by decide⟩, lacks.argumentObject options⟩,
    by decide⟩, by decide⟩

theorem resolver (options : Options) :
    (Resolver.ofEndpoint options endpoint).document.Lacks '\n' := by
  have isMark : IsMark '\n' := by decide
  have operation : Text.Lacks '\n' (Naming.operation endpoint.name) := lacks.name.lower isMark
  have response := lacks.responseType isMark
  have decorator : Text.Lacks '\n' (options.operation endpoint).decorator := by
    cases options.operation endpoint <;> decide
  have arguments : Text.Lacks '\n' (Naming.paramsType endpoint.name) :=
    Text.lacks_append.mpr ⟨lacks.name, by decide⟩
  have className : Text.Lacks '\n' (Naming.resolverType endpoint.name) :=
    Text.lacks_append.mpr ⟨lacks.name, by decide⟩
  have parameters : (Document.ofLines ["@Ctx() ctx: Context,",
      "@Args() " ++ (Resolver.ofEndpoint options endpoint).argumentObject ++ ": " ++
        Naming.paramsType endpoint.name]).Lacks '\n' := by
    simp only [Document.ofLines, List.foldr_cons, List.foldr_nil, Document.lacks_line,
      Document.lacks_nil, Text.lacks_append, and_true]
    exact ⟨by decide, ⟨⟨by decide, lacks.argumentObject options⟩, by decide⟩, arguments⟩
  have method : (Resolver.ofEndpoint options endpoint).methodDocument.Lacks '\n' := by
    simp only [Resolver.methodDocument, Document.lacks_line, Document.lacks_indent,
      Document.lacks_block, Document.lacks_nil, Text.lacks_append, and_true]
    exact ⟨⟨⟨⟨⟨by decide, decorator⟩, by decide⟩, response⟩, by decide⟩,
      ⟨⟨by decide, operation⟩, by decide⟩, parameters,
      ⟨⟨by decide, response⟩, by decide⟩, lacks.methodBody options⟩
  simp only [Resolver.document, Document.lacks_line, Document.lacks_block, Document.lacks_nil,
    Text.lacks_append, and_true]
  exact ⟨⟨⟨by decide, response⟩, by decide⟩, ⟨by decide, className⟩, method⟩

end Endpoint.Lacks

end LineFeeds

end RestGraph
