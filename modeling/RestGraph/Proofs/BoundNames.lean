import RestGraph.Endpoint.OfText
import RestGraph.Proofs.DraftConversion
import RestGraph.Proofs.Outcomes
import RestGraph.Proofs.SameCall
/-!
The names that the artifacts of a descriptor bind: the variables of the operation, the properties of
the class of the arguments, and what the method of the resolver binds. Each of them is read off its
document. A parameter is bound in all three under its own name, once for each time it is written.
-/

set_option autoImplicit false

namespace RestGraph

def words (text : List Char) : List (List Char) :=
  text.splitOn ' '

def Node.word (position : Nat) : Node → List Char
  | .line text => (words text.toList).getD position []
  | _ => []

/-- Names that are listed as words, each but the last one with a comma behind it. -/
def listedNames : List (List Char) → List String
  | [] => []
  | [last] => [String.ofList last]
  | word :: rest => String.ofList word.dropLast :: listedNames rest

def objectNames (object : List Char) : List String :=
  listedNames (words object).tail.dropLast

namespace Document

/-- The variable that a line declares behind a dollar sign and in front of a colon. -/
def variableName (node : Node) : String :=
  String.ofList (node.word 0).tail.dropLast

def declaredVariables (document : Document) : List String :=
  match document.nodes with
  | .line _ :: .indent passage :: _ => passage.nodes.map variableName
  | _ => []

/-- The properties in the body of a class. Each is declared below its decorator, in front of a mark
and a colon. -/
def propertiesOf : List Node → List String
  | .line _ :: declaration :: rest =>
    String.ofList (declaration.word 0).dropLast.dropLast :: propertiesOf rest
  | .blank :: rest => propertiesOf rest
  | _ => []

def declaredProperties (className : String) (document : Document) : List String :=
  match document.blocks.find? fun block => block.1 = "export class " ++ className with
  | some (_, body) => propertiesOf body.nodes
  | none => []

def takenObject (paramsType : String) (line : String) : List Char :=
  let behind := line.toList.drop "@Args() ".toList.length
  behind.take (behind.length - (": " ++ paramsType).toList.length)

/-- What the method of a resolver binds: the context and the names in the object of the arguments,
whose class is given, and then the constant in its body. -/
def bindings (paramsType : String) (document : Document) : List String :=
  match document.firstBody.nodes with
  | [_, _, .indent arguments, .block _ body] =>
    match arguments.nodes, body.nodes with
    | [context, .line taken], constant :: _ =>
      String.ofList (context.word 1).dropLast :: objectNames (takenObject paramsType taken) ++
        [String.ofList (constant.word 1)]
    | _, _ => []
  | _ => []

end Document

section Words

theorem words_append {word : List Char} (solid : ' ' ∉ word) (rest : List Char) :
    words (word ++ ' ' :: rest) = word :: words rest := by
  have none : ∀ c ∈ word, (c == ' ') = false := by
    intro c mem
    rw [beq_eq_false_iff_ne]
    rintro rfl
    exact solid mem
  rw [words, words, List.splitOn_eq_splitOnP, List.splitOn_eq_splitOnP,
    List.splitOnP_append_cons_of_forall_mem none ' ' (by simp)]

def listedWords : List String → List (List Char)
  | [] => []
  | [last] => [last.toList]
  | name :: rest => (name.toList ++ [',']) :: listedWords rest

theorem listedNames_listedWords (names : List String) :
    listedNames (listedWords names) = names := by
  fun_induction listedWords names with
  | case1 => rfl
  | case2 last => simp [listedNames]
  | case3 name rest more ih =>
    obtain ⟨next, others, rfl⟩ := List.exists_cons_of_ne_nil (by simpa using more)
    cases others with
    | nil => simp [listedWords, listedNames]
    | cons second others => simpa [listedWords, listedNames] using ih

theorem solid_listedWords {names : List String} (solid : ∀ name ∈ names, ' ' ∉ name.toList) :
    ∀ word ∈ listedWords names, ' ' ∉ word := by
  fun_induction listedWords names with
  | case1 => simp
  | case2 last => simpa using solid
  | case3 name rest more ih =>
    rw [List.forall_mem_cons] at solid ⊢
    exact ⟨by simpa using solid.1, ih solid.2⟩

theorem intercalate_listedWords {names : List String} (filled : names ≠ []) (close : List Char) :
    [' '].intercalate (listedWords names ++ [close]) =
      [',', ' '].intercalate (names.map String.toList) ++ ' ' :: close := by
  fun_induction listedWords names with
  | case1 => exact absurd rfl filled
  | case2 last => simp
  | case3 name rest more ih =>
    have others : rest ≠ [] := by simpa using more
    have further : listedWords rest ++ [close] ≠ [] := by simp
    have marked : [' '].intercalate ((name.toList ++ [',']) :: (listedWords rest ++ [close])) =
        (name.toList ++ [',']) ++ ' ' :: [' '].intercalate (listedWords rest ++ [close]) := by
      rw [List.intercalate_cons_of_ne_nil further]
      simp
    rw [List.cons_append, marked, ih others, List.map_cons,
      List.intercalate_cons_of_ne_nil (by simpa using others)]
    simp

theorem objectNames_of_isObjectOf {object : String} {names : List String}
    (solid : ∀ name ∈ names, ' ' ∉ name.toList) (isObject : IsObjectOf object names) :
    objectNames object.toList = names := by
  unfold IsObjectOf at isObject
  split at isObject
  · rename_i empty
    obtain rfl := List.isEmpty_iff.mp empty
    rw [isObject]
    decide
  · rename_i filled
    have some : names ≠ [] := fun none => filled (List.isEmpty_iff.mpr none)
    have text : object.toList = ['\x7b'] ++ ' ' ::
        [' '].intercalate (listedWords names ++ [['\x7d']]) := by
      rw [isObject, intercalate_listedWords some]
      simp [String.toList_append, String.toList_intercalate]
    have inside : words ([' '].intercalate (listedWords names ++ [['\x7d']])) =
        listedWords names ++ [['\x7d']] := by
      apply List.splitOn_intercalate
      · rw [List.forall_mem_append]
        exact ⟨solid_listedWords solid, by simp⟩
      · simp
    rw [objectNames, text, words_append (by simp), inside, List.tail_cons, List.dropLast_concat,
      listedNames_listedWords]

theorem word_zero {word : List Char} (solid : ' ' ∉ word) {text : String} {rest : List Char}
    (split : text.toList = word ++ ' ' :: rest) : (Node.line text).word 0 = word := by
  rw [Node.word, split, words_append solid]
  rfl

theorem word_one {first second : List Char} (solid : ' ' ∉ first) (further : ' ' ∉ second)
    {text : String} {rest : List Char}
    (split : text.toList = first ++ ' ' :: (second ++ ' ' :: rest)) :
    (Node.line text).word 1 = second := by
  rw [Node.word, split, words_append solid, words_append further]
  rfl

end Words

section Lists

theorem ListsItems.map_eq {α : Type} {lines : List Node} {items : List String}
    (lists : ListsItems lines items) {read : Node → α}
    (unmarked : ∀ item ∈ items, read (.line (item ++ ",")) = read (.line item)) :
    lines.map read = items.map fun item => read (.line item) := by
  obtain ⟨total, listed⟩ := lists
  apply List.ext_getElem?
  intro i
  rw [List.getElem?_map, List.getElem?_map]
  cases found : items[i]? with
  | none =>
    rw [List.getElem?_eq_none_iff, ← total, ← List.getElem?_eq_none_iff] at found
    rw [found]
    rfl
  | some item =>
    rw [listed i item found]
    split
    · exact congrArg some (unmarked item (List.mem_of_getElem? found))
    · rfl

end Lists

section Reading

variable {parameters : List Parameter} {document : Document}

def Solid (parameters : List Parameter) : Prop :=
  ∀ parameter ∈ parameters, ' ' ∉ parameter.name.toList

theorem variableName_variable {parameter : Parameter} (solid : ' ' ∉ parameter.name.toList)
    (ending : String) :
    Document.variableName (.line (parameter.variableText ++ ending)) = parameter.name := by
  have split : (parameter.variableText ++ ending).toList =
      '$' :: (parameter.name.toList ++ [':']) ++
        ' ' :: (parameter.kind.names.1 ++ (if parameter.required then "!" else "") ++
          ending).toList := by
    simp [Parameter.variableText, String.toList_append]
  rw [Document.variableName, word_zero (by simpa using solid) split, List.tail_cons,
    List.dropLast_concat, String.ofList_toList]

theorem declaredVariables_of_opensBlock {text : String} {body : Document} {rest : List Node}
    (solid : Solid parameters)
    (opens : OpensBlock document.nodes text (parameters.map Parameter.variableText) body rest) :
    document.declaredVariables = parameters.map Parameter.name := by
  unfold OpensBlock at opens
  split at opens
  · rename_i empty
    obtain rfl : parameters = [] := by simpa using empty
    rw [Document.declaredVariables, opens]
    rfl
  · obtain ⟨passage, nodes, listed⟩ := opens
    have named : ∀ parameter ∈ parameters,
        Document.variableName (.line parameter.variableText) = parameter.name := by
      intro parameter mem
      simpa using variableName_variable (solid parameter mem) ""
    have unmarked : ∀ item ∈ parameters.map Parameter.variableText,
        Document.variableName (.line (item ++ ",")) = Document.variableName (.line item) := by
      rw [List.forall_mem_map]
      intro parameter mem
      rw [variableName_variable (solid parameter mem), named parameter mem]
    rw [Document.declaredVariables, nodes]
    dsimp only
    rw [listed.map_eq unmarked, List.map_map]
    exact List.map_congr_left named

theorem word_declaration {name : String} (solid : ' ' ∉ name.toList) {mark : Char}
    (visible : mark ≠ ' ') (type : String) :
    (Node.line (name ++ String.ofList [mark, ':', ' '] ++ type ++ ";")).word 0 =
      name.toList ++ [mark, ':'] := by
  have split : (name ++ String.ofList [mark, ':', ' '] ++ type ++ ";").toList =
      (name.toList ++ [mark, ':']) ++ ' ' :: (type ++ ";").toList := by
    simp [String.toList_append]
  refine word_zero ?_ split
  simpa using ⟨solid, visible.symm⟩

theorem exists_lines (parameter : Parameter) :
    ∃ decorator mark type, mark ≠ ' ' ∧ parameter.lines = [.line decorator,
      .line (parameter.name ++ String.ofList [mark, ':', ' '] ++ type ++ ";")] := by
  cases required : parameter.required with
  | true =>
    refine ⟨"@Field()", '!', parameter.kind.names.2, by decide, ?_⟩
    rw [Parameter.lines, required]
    rfl
  | false =>
    refine ⟨"@Field(\x7b nullable: true \x7d)", '?', parameter.kind.names.2, by decide, ?_⟩
    rw [Parameter.lines, required]
    rfl

theorem propertiesOf_lines {parameter : Parameter} (solid : ' ' ∉ parameter.name.toList)
    (rest : List Node) :
    Document.propertiesOf (parameter.lines ++ rest) =
      parameter.name :: Document.propertiesOf rest := by
  obtain ⟨decorator, mark, type, visible, lines⟩ := exists_lines parameter
  have word := word_declaration solid visible type
  have shown : (parameter.name.toList ++ [mark, ':']).dropLast.dropLast = parameter.name.toList := by
    simp
  rw [lines, List.cons_append, List.cons_append, List.nil_append, Document.propertiesOf, word, shown,
    String.ofList_toList]

theorem propertiesOf_intercalate (solid : Solid parameters) :
    Document.propertiesOf ([Node.blank].intercalate (parameters.map Parameter.lines)) =
      parameters.map Parameter.name := by
  induction parameters with
  | nil => rfl
  | cons parameter rest ih =>
    rw [Solid, List.forall_mem_cons] at solid
    cases rest with
    | nil =>
      have alone := propertiesOf_lines solid.1 []
      rw [List.append_nil] at alone
      simpa [Document.propertiesOf] using alone
    | cons next rest =>
      have others := ih solid.2
      rw [List.map_cons, List.map_cons, List.intercalate_cons_cons, List.append_assoc,
        propertiesOf_lines solid.1, List.singleton_append, Document.propertiesOf]
      exact congrArg (parameter.name :: ·) others

theorem declaredProperties_of_inClasses {call : Call} (solid : Solid call.parameters)
    (inClasses : call.InClasses document) :
    document.declaredProperties call.paramsType = call.parameters.map Parameter.name := by
  obtain ⟨-, ⟨body, first, nodes⟩, -⟩ := inClasses
  obtain ⟨others, blocks⟩ := List.head?_eq_some_iff.mp first
  rw [Document.declaredProperties, blocks, List.find?_cons_of_pos (by simp)]
  dsimp only
  rw [nodes]
  exact propertiesOf_intercalate solid

theorem takenObject_line (taken paramsType : String) :
    Document.takenObject paramsType ("@Args() " ++ taken ++ ": " ++ paramsType) = taken.toList := by
  have parts : ("@Args() " ++ taken ++ ": " ++ paramsType).toList =
      "@Args() ".toList ++ (taken.toList ++ (": " ++ paramsType).toList) := by
    simp [String.toList_append]
  rw [Document.takenObject, parts, List.drop_left, List.length_append, Nat.add_sub_cancel,
    List.take_left]

theorem bindings_of_inResolver {call : Call} (solid : Solid call.parameters)
    (inResolver : call.InResolver document) :
    document.bindings call.paramsType =
      "ctx" :: call.parameters.map Parameter.name ++ ["res"] := by
  obtain ⟨_, classBody, arguments, methodBody, taken, passed, endpoint, method, nodes, inClass,
    lines, constant, isObject, -⟩ := inResolver
  have body : document.firstBody = classBody := by
    rw [Document.firstBody, Document.blocks, nodes]
    rfl
  have names : objectNames taken.toList = call.parameters.map Parameter.name :=
    objectNames_of_isObjectOf (List.forall_mem_map.mpr solid) isObject
  have context : (Node.line "@Ctx() ctx: Context,").word 1 = "ctx:".toList := by decide
  have result : (Node.line ("const res = await requestAPI(ctx, " ++ endpoint ++ ", " ++ method ++
      ", " ++ passed ++ ");")).word 1 = "res".toList := by
    have split : ("const res = await requestAPI(ctx, " ++ endpoint ++ ", " ++ method ++ ", " ++
        passed ++ ");").toList = "const".toList ++ ' ' :: ("res".toList ++ ' ' ::
          ("= await requestAPI(ctx, " ++ endpoint ++ ", " ++ method ++ ", " ++ passed ++
            ");").toList) := by
      simp [String.toList_append]
    exact word_one (by decide) (by decide) split
  rw [Document.bindings, body, inClass]
  dsimp only
  rw [lines, constant]
  dsimp only
  rw [takenObject_line, names, context, result]
  rfl

end Reading

namespace Endpoint

variable {text : String} {endpoint : Endpoint} {options : Options} {artifacts : Artifacts}

theorem solid_of_parse (parsed : Endpoint.parse text = .ok endpoint) :
    Solid endpoint.parameters := by
  intro parameter mem space
  unfold Endpoint.parse at parsed
  split at parsed
  · cases parsed
  · have normal := (ofDraft_eq_ok_iff.mp parsed).isNormal
    have solid := (normal.parameters parameter mem).solid ' ' space
    revert solid
    decide

theorem eq_artifacts_of_generate (generated : endpoint.generate options = .ok artifacts) :
    artifacts = endpoint.artifacts options := by
  rw [generate] at generated
  split at generated
  · cases generated
  · split at generated
    · cases generated
    · exact (Except.ok.inj generated).symm

theorem nodup_bindings_iff (names : List String) :
    ("ctx" :: names ++ ["res"]).Nodup ↔ names.Nodup ∧ "ctx" ∉ names ∧ "res" ∉ names := by
  have apart : "ctx" ≠ "res" := by decide
  rw [List.cons_append, List.nodup_cons, List.mem_append, List.mem_singleton,
    ← List.concat_eq_append, List.nodup_concat]
  tauto

/-- What the artifacts of an accepted descriptor bind. The variables of the operation and the
properties of the class of the arguments are the names of the parameters, as often as they are
written; the method of the resolver binds them between `ctx` and `res`. So the first two are
distinct exactly if the parameters have distinct names, and the last if, besides, none of them is
`ctx` or `res`. -/
theorem artifacts_bind_parameters (parsed : Endpoint.parse text = .ok endpoint)
    (generated : endpoint.generate options = .ok artifacts) :
    let query := (Query.ofEndpoint options endpoint).document
    let classes := Declaration.documentOf (Declaration.ofEndpoint endpoint)
    let resolver := (Resolver.ofEndpoint options endpoint).document
    let names := endpoint.parameters.map Parameter.name
    let properties := classes.declaredProperties (Naming.paramsType endpoint.name)
    let bindings := resolver.bindings (Naming.paramsType endpoint.name)
    artifacts = ⟨query.render options.indent, classes.render options.indent,
      resolver.render options.indent⟩ ∧
    query.declaredVariables = names ∧ properties = names ∧
    bindings = "ctx" :: names ++ ["res"] ∧
    (query.declaredVariables.Nodup ↔ names.Nodup) ∧ (properties.Nodup ↔ names.Nodup) ∧
    (bindings.Nodup ↔ names.Nodup ∧ "ctx" ∉ names ∧ "res" ∉ names) := by
  intro query classes resolver names properties bindings
  have solid := solid_of_parse parsed
  obtain ⟨body, selection, fragments, opens, -⟩ := endpoint.call_inQuery options
  have inQuery : query.declaredVariables = names := declaredVariables_of_opensBlock solid opens
  have inClasses : properties = names :=
    declaredProperties_of_inClasses solid (endpoint.call_inClasses options)
  have inResolver : bindings = "ctx" :: names ++ ["res"] :=
    bindings_of_inResolver solid (endpoint.call_inResolver options)
  refine ⟨eq_artifacts_of_generate generated, inQuery, inClasses, inResolver, ?_, ?_, ?_⟩
  · rw [inQuery]
  · rw [inClasses]
  · rw [inResolver]
    exact nodup_bindings_iff names

def pairText (first second : String) : String :=
  "\x7b\"API_NAME\":\"GetItem\",\"METHOD\":\"GET\",\"PARAMETERS\":[\"" ++ first ++ "\",\"" ++
    second ++ "\"],\"RESPONSE\":\x7b\"id\":\"string\"\x7d\x7d"

theorem context_bound_twice :
    let endpoint : Endpoint := ⟨"GetItem", "GET", [⟨"id", .string, true⟩, ⟨"ctx", .number, false⟩],
      .scalar "id" .string .nil⟩
    Endpoint.parse (pairText "id (string, required)" "ctx (number, optional)") = .ok endpoint ∧
    endpoint.generate {} = .ok (endpoint.artifacts {}) ∧
    (Query.ofEndpoint {} endpoint).document.declaredVariables.Nodup ∧
    ¬ ((Resolver.ofEndpoint {} endpoint).document.bindings "GetItemParams").Nodup := by
  intro endpoint
  have parsed : Endpoint.parse (pairText "id (string, required)" "ctx (number, optional)") =
      .ok endpoint := by decide +kernel
  have generated : endpoint.generate {} = .ok (endpoint.artifacts {}) := by decide +kernel
  obtain ⟨-, -, -, -, once, -, bound⟩ := artifacts_bind_parameters parsed generated
  exact ⟨parsed, generated, once.mpr (by decide), fun distinct =>
    (bound.mp distinct).2.1 (by decide)⟩

/-- Not every accepted descriptor binds its names once: nothing keeps two parameters from having
one name. -/
theorem not_every_name_bound_once :
    ¬ ∀ (text : String) (endpoint : Endpoint) (options : Options) (artifacts : Artifacts),
      Endpoint.parse text = .ok endpoint → options.detectCollisions = true →
      endpoint.generate options = .ok artifacts →
        (Query.ofEndpoint options endpoint).document.declaredVariables.Nodup ∧
        ((Declaration.documentOf (Declaration.ofEndpoint endpoint)).declaredProperties
          (Naming.paramsType endpoint.name)).Nodup ∧
        ((Resolver.ofEndpoint options endpoint).document.bindings
          (Naming.paramsType endpoint.name)).Nodup := by
  intro distinct
  let endpoint : Endpoint := ⟨"GetItem", "GET", [⟨"id", .string, true⟩, ⟨"id", .number, false⟩],
    .scalar "id" .string .nil⟩
  have once := (distinct (pairText "id (string, required)" "id (number, optional)") endpoint {}
    (endpoint.artifacts {}) (by decide +kernel) rfl (by decide +kernel)).1
  revert once
  decide +kernel

end Endpoint

end RestGraph
