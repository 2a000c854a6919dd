import RestGraph.Artifacts
import RestGraph.Proofs.ClassRecovery
/-!
One call in all artifacts. The operation, the class of the arguments and the resolver are written on
their own, yet they list the same parameters in the same order, under the same names and types, and
are of one kind of operation.
-/

set_option autoImplicit false

namespace RestGraph

/-- What the artifacts of an endpoint have to agree on. -/
structure Call where
  keyword : String
  decorator : String
  name : String
  parameters : List Parameter
  paramsType : String
  responseType : String

def ListsItems (lines : List Node) (items : List String) : Prop :=
  lines.length = items.length ∧ ∀ i item, items[i]? = some item →
    lines[i]? = some (Node.line (if i + 1 < items.length then item ++ "," else item))

/-- A text in front of a block. Items stand in parentheses between the two, and without items there
are no parentheses. -/
def OpensBlock (nodes : List Node) (text : String) (items : List String) (body : Document)
    (rest : List Node) : Prop :=
  if items.isEmpty then nodes = .block text body :: rest
  else ∃ passage, nodes = .line (text ++ "(") :: .indent passage :: .block ")" body :: rest ∧
    ListsItems passage.nodes items

def IsObjectOf (text : String) (names : List String) : Prop :=
  if names.isEmpty then text = "\x7b\x7d"
  else text = "\x7b " ++ String.intercalate ", " names ++ " \x7d"

/-- An operation with its keyword in GraphQL and its decorator in a resolver. -/
inductive Operation.Written : Operation → String → String → Prop
  | query : Written .query "query" "Query"
  | mutation : Written .mutation "mutation" "Mutation"

namespace Parameter

def variableText (parameter : Parameter) : String :=
  "$" ++ parameter.name ++ ": " ++ parameter.kind.names.1 ++
    (if parameter.required then "!" else "")

def bindingText (parameter : Parameter) : String :=
  parameter.name ++ ": $" ++ parameter.name

end Parameter

namespace Call

/-- The operation and its root field have the name of the call, and list its parameters. -/
def InQuery (call : Call) (document : Document) : Prop :=
  ∃ body selection fragments,
    OpensBlock document.nodes (call.keyword ++ " " ++ call.name)
      (call.parameters.map Parameter.variableText) body fragments ∧
    OpensBlock body.nodes call.name (call.parameters.map Parameter.bindingText) selection []

/-- The first class of a document holds the parameters of the call, the last one its response. -/
def InClasses (call : Call) (document : Document) : Prop :=
  2 ≤ document.blocks.length ∧
  (∃ body, document.blocks.head? = some ("export class " ++ call.paramsType, body) ∧
    body.DeclaresParameters call.parameters) ∧
  ∃ body, document.blocks.getLast? = some ("export class " ++ call.responseType, body)

/-- The method of a resolver takes the parameters out of their class and passes them on. -/
def InResolver (call : Call) (document : Document) : Prop :=
  ∃ className classBody arguments methodBody taken passed endpoint method,
    document.nodes =
      [.line ("@Resolver((of) => " ++ call.responseType ++ ")"),
        .block ("export class " ++ className) classBody] ∧
    classBody.nodes =
      [.line ("@" ++ call.decorator ++ "((returns) => " ++ call.responseType ++ ")"),
        .line ("async " ++ call.name ++ "("), .indent arguments,
        .block ("): Promise<" ++ call.responseType ++ " | undefined>") methodBody] ∧
    arguments.nodes =
      [.line "@Ctx() ctx: Context,", .line ("@Args() " ++ taken ++ ": " ++ call.paramsType)] ∧
    methodBody.nodes =
      [.line ("const res = await requestAPI(ctx, " ++ endpoint ++ ", " ++ method ++ ", " ++ passed ++
          ");"),
        .line "return res.data;"] ∧
    IsObjectOf taken (call.parameters.map Parameter.name) ∧
    IsObjectOf passed (call.parameters.map Parameter.name)

def InImports (call : Call) (document : Document) : Prop :=
  ∃ helpers,
    document.nodes =
      .line ("import \x7b " ++ call.decorator ++
          ", Ctx, Args, Resolver \x7d from 'type-graphql';") ::
        .line ("import \x7b " ++ call.paramsType ++ ", " ++ call.responseType ++
          " \x7d from './typeDefs';") :: helpers

end Call

namespace Parameter

/-- The variable and the property of a parameter have types of the same kind, and tell in the same
way whether the parameter is required. -/
structure Consistent (parameter : Parameter) : Prop where
  typed : ∃ type mark decorator,
    parameter.variableText = "$" ++ parameter.name ++ ": " ++ type ∧
    parameter.lines = [.line decorator,
      .line (parameter.name ++ mark ++ ": " ++ parameter.kind.names.2 ++ ";")] ∧
    (type = parameter.kind.names.1 ∨ type = parameter.kind.names.1 ++ "!") ∧
    (type.toList.getLast? = some '!' ↔ parameter.required) ∧
    (mark = "!" ↔ parameter.required) ∧
    (decorator = "@Field()" ↔ parameter.required)

theorem consistent (parameter : Parameter) : parameter.Consistent := by
  obtain ⟨name, kind, required⟩ := parameter
  cases required with
  | true =>
    have last : (kind.names.1 ++ "!").toList.getLast? = some '!' := by cases kind <;> decide
    refine ⟨kind.names.1 ++ "!", "!", "@Field()", ?_, ?_, .inr rfl, iff_of_true last rfl, by simp,
      by simp⟩
    · simp [variableText, String.append_assoc]
    · simp [lines, String.append_assoc]
  | false =>
    have last : kind.names.1.toList.getLast? ≠ some '!' := by cases kind <;> decide
    refine ⟨kind.names.1, "?", "@Field(\x7b nullable: true \x7d)", ?_, ?_, .inl rfl,
      by simp [last], by simp, by simp⟩
    · simp [variableText]
    · simp [lines, scalarLines, String.append_assoc]

theorem variable_eq (parameter : Parameter) : parameter.variable = parameter.variableText := by
  obtain ⟨name, kind, required⟩ := parameter
  cases kind <;> rfl

end Parameter

theorem Operation.written (operation : Operation) :
    operation.Written operation.keyword operation.decorator := by
  cases operation with
  | query => exact .query
  | mutation => exact .mutation

theorem listsItems_commaSeparated (items : List String) :
    ListsItems (Document.commaSeparated items).nodes items := by
  fun_induction Document.commaSeparated items with
  | case1 => exact ⟨rfl, fun _ _ found => nomatch found⟩
  | case2 last =>
    refine ⟨rfl, fun i item found => ?_⟩
    cases i with
    | zero =>
      obtain rfl := Option.some.inj found
      rfl
    | succ i => cases found
  | case3 item rest nonempty ih =>
    obtain ⟨total, listed⟩ := ih
    refine ⟨congrArg (· + 1) total, fun i other found => ?_⟩
    cases i with
    | zero =>
      obtain rfl := Option.some.inj found
      have more : 0 + 1 < (item :: rest).length := by
        have := List.length_pos_iff.mpr nonempty
        simpa using this
      rw [if_pos more]
      rfl
    | succ i =>
      have behind := listed i other found
      simp only [List.length_cons, Nat.add_lt_add_iff_right]
      exact behind

namespace Document

theorem exists_nodes_pushSection (document addition : Document) :
    ∃ rest, (document.pushSection addition).nodes = document.nodes ++ rest := by
  rcases document.eq_nil_or_filled with rfl | before
  · rw [nil_pushSection]
    exact ⟨addition.nodes, rfl⟩
  rcases addition.eq_nil_or_filled with rfl | filled
  · exact ⟨[], (List.append_nil _).symm⟩
  · rw [pushSection_of_filled before filled]
    exact ⟨_, nodes_append document (blank addition)⟩

end Document

theorem Resolver.isObjectOf_argumentObject (resolver : Resolver) :
    IsObjectOf resolver.argumentObject resolver.parameters := by
  unfold IsObjectOf argumentObject
  split <;> rfl

theorem OpensBlock.append {nodes rest : List Node} {text : String} {items : List String}
    {body : Document} (opens : OpensBlock nodes text items body rest) (more : List Node) :
    OpensBlock (nodes ++ more) text items body (rest ++ more) := by
  unfold OpensBlock at opens ⊢
  split at opens
  · rw [if_pos ‹_›, opens]
    rfl
  · obtain ⟨passage, rfl, listed⟩ := opens
    rw [if_neg ‹_›]
    exact ⟨passage, rfl, listed⟩

namespace Query

theorem opensBlock_operationDocument (query : Query) :
    ∃ body,
      OpensBlock query.operationDocument.nodes (query.operation.keyword ++ " " ++ query.name)
        (query.parameters.map Parameter.variableText) body [] ∧
      OpensBlock body.nodes query.name (query.parameters.map Parameter.bindingText)
        query.selection.document [] := by
  have typed : Parameter.variable = Parameter.variableText := funext Parameter.variable_eq
  have bound : Parameter.binding = Parameter.bindingText := rfl
  unfold operationDocument OpensBlock
  rw [typed, bound]
  simp only [List.isEmpty_map]
  split
  · exact ⟨_, rfl, rfl⟩
  · exact ⟨_, ⟨_, rfl, listsItems_commaSeparated _⟩, _, rfl, listsItems_commaSeparated _⟩

theorem exists_nodes_document (query : Query) :
    ∃ fragments, query.document.nodes = query.operationDocument.nodes ++ fragments := by
  rw [document_eq_separated, Document.separated_cons]
  exact Document.exists_nodes_pushSection _ _

end Query

def Endpoint.call (options : Options) (endpoint : Endpoint) : Call where
  keyword := (options.operation endpoint).keyword
  decorator := (options.operation endpoint).decorator
  name := Naming.operation endpoint.name
  parameters := endpoint.parameters
  paramsType := Naming.paramsType endpoint.name
  responseType := Naming.responseType endpoint.name

namespace Endpoint

variable (options : Options) (endpoint : Endpoint)

theorem call_inQuery :
    (endpoint.call options).InQuery (Query.ofEndpoint options endpoint).document := by
  obtain ⟨body, operation, root⟩ := (Query.ofEndpoint options endpoint).opensBlock_operationDocument
  obtain ⟨fragments, nodes⟩ := (Query.ofEndpoint options endpoint).exists_nodes_document
  refine ⟨body, _, fragments, ?_, root⟩
  rw [nodes]
  exact operation.append fragments

theorem call_inClasses :
    (endpoint.call options).InClasses
      (Declaration.documentOf (Declaration.ofEndpoint endpoint)) := by
  have classes := Declaration.blocks_documentOf (Declaration.ofEndpoint endpoint)
  have last := Declaration.getLast?_ofEndpoint endpoint
  have declares := Declaration.declaresParameters_ofParameters
    (Naming.paramsType endpoint.name) endpoint.parameters
  refine ⟨?_, ⟨_, ?_, declares⟩, ?_⟩
  · rw [classes, List.length_map]
    simp [Declaration.ofEndpoint, Shape.recordPlaces]
  · rw [classes]
    rfl
  · rw [classes, List.getLast?_map, last]
    exact ⟨_, rfl⟩

theorem call_inResolver :
    (endpoint.call options).InResolver (Resolver.ofEndpoint options endpoint).document := by
  have object := (Resolver.ofEndpoint options endpoint).isObjectOf_argumentObject
  exact ⟨_, _, _, _, _, _, _, _, rfl, rfl, rfl, rfl, object, object⟩

theorem call_inImports :
    (endpoint.call options).InImports (Resolver.ofEndpoint options endpoint).imports :=
  ⟨_, rfl⟩

end Endpoint

end RestGraph
