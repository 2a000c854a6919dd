import RestGraph.Proofs.Brackets
/-!
The brackets of the generated files. As long as no name of an endpoint and no setting contains a
bracket, every line but those around a list of arguments closes what it opens, and these lines close
what they open together; so the three files are correctly nested.
-/

set_option autoImplicit false

namespace RestGraph

open Text (IsPlain IsBalanced Turns brackets isMark_of_mem_brackets)

/-- No name of an endpoint contains a bracket, and neither does its method. -/
def Endpoint.IsPlain (endpoint : Endpoint) : Prop :=
  ∀ mark ∈ brackets, endpoint.Lacks mark

structure Options.IsPlain (options : Options) : Prop where
  indent : Text.IsPlain options.indent
  requestModule : Text.IsPlain options.requestModule
  contextModule : Text.IsPlain options.contextModule

def PropertyType.IsPlain : PropertyType → Prop
  | .scalar _ | .scalars _ => True
  | .object typeName | .objects typeName => Text.IsPlain typeName

namespace PropertyType

variable {type : PropertyType} (plain : type.IsPlain)
include plain

theorem isBalanced_typescript : IsBalanced type.typescript := by
  have scalar (kind : Scalar) : IsBalanced kind.typescriptType := by cases kind <;> decide
  have list : IsBalanced "[]" := by decide
  cases type with
  | scalar kind => exact scalar kind
  | scalars kind => exact (scalar kind).append list
  | object typeName => exact Text.IsPlain.isBalanced plain
  | objects typeName => exact (Text.IsPlain.isBalanced plain).append list

theorem isBalanced_decorated {text : String} (found : type.decorated? = some text) :
    IsBalanced text := by
  have bracketed {inner : String} (balanced : IsBalanced inner) :
      IsBalanced ("[" ++ inner ++ "]") := by
    have opens : Turns "[" [] [']'] := by decide
    have closes : Turns "]" [']'] [] := by decide
    exact balanced.enclosed opens closes
  cases type with
  | scalar kind => cases found
  | scalars kind =>
    cases found
    apply bracketed
    cases kind <;> decide
  | object typeName =>
    cases found
    exact Text.IsPlain.isBalanced plain
  | objects typeName =>
    cases found
    exact bracketed (Text.IsPlain.isBalanced plain)

end PropertyType

namespace Property

variable {property : Property}

theorem isBalanced_decorator (plain : property.type.IsPlain) : IsBalanced property.decorator := by
  have reference : ∀ text ∈ (property.type.decorated?.map fun type => "() => " ++ type).toList,
      IsBalanced text := by
    intro text mem
    obtain ⟨inner, found, rfl⟩ := Option.map_eq_some_iff.mp (Option.mem_toList.mp mem)
    have arrow : IsBalanced "() => " := by decide
    exact arrow.append (PropertyType.isBalanced_decorated plain found)
  have setting : ∀ text ∈ (if property.required then none
      else some "\x7b nullable: true \x7d").toList, IsBalanced text := by
    cases property.required
    · decide
    · exact nofun
  have inside := Text.isBalanced_intercalate Text.isBalanced_comma
    (List.forall_mem_append.mpr ⟨reference, setting⟩)
  have opens : Turns "@Field(" [] [')'] := by decide
  exact inside.enclosed opens Text.turns_parenthesis

theorem isBalanced_declaration (named : IsPlain property.name) (plain : property.type.IsPlain) :
    IsBalanced property.declaration := by
  have sign : IsBalanced (if property.required then "!: " else "?: ") := by
    cases property.required <;> decide
  have ending : IsBalanced ";" := by decide
  exact ((named.isBalanced.append sign).append
    (PropertyType.isBalanced_typescript plain)).append ending

theorem isBalanced_document (named : IsPlain property.name) (plain : property.type.IsPlain) :
    property.document.IsBalanced :=
  Document.isBalanced_line (isBalanced_decorator plain)
    (Document.isBalanced_line (isBalanced_declaration named plain) .nil)

end Property

theorem Declaration.isBalanced_document {declaration : Declaration}
    (named : IsPlain declaration.name)
    (properties : ∀ property ∈ declaration.properties,
      IsPlain property.name ∧ property.type.IsPlain) : declaration.document.IsBalanced := by
  have role : IsBalanced declaration.role.decorator := by
    cases declaration.role <;> decide
  have header : IsBalanced "export class " := by decide
  have body : (Document.separated (declaration.properties.map Property.document)).IsBalanced :=
    Document.isBalanced_separated <| List.forall_mem_map.mpr fun property mem =>
      property.isBalanced_document (properties property mem).1 (properties property mem).2
  exact Document.isBalanced_line role
    (Document.isBalanced_block (header.append named.isBalanced) body .nil)

theorem Declaration.isPlain_fieldProperty {typeName : String} {field : Field}
    (typed : IsPlain typeName) (named : IsPlain field.name) :
    (fieldProperty typeName field).type.IsPlain := by
  obtain ⟨name, value⟩ := field
  cases value with
  | scalar kind | scalars kind => trivial
  | record fields => exact Text.isPlain_append.mpr ⟨typed, named⟩
  | records element =>
    exact Text.isPlain_append.mpr ⟨Text.isPlain_append.mpr ⟨typed, named⟩, by decide⟩

namespace Endpoint.IsPlain

variable {endpoint : Endpoint} (plain : endpoint.IsPlain)
include plain

theorem name : Text.IsPlain endpoint.name :=
  fun mark mem => (plain mark mem).name

theorem method : Text.IsPlain endpoint.method :=
  fun mark mem => (plain mark mem).method

theorem parameter {parameter : Parameter} (mem : parameter ∈ endpoint.parameters) :
    Text.IsPlain parameter.name :=
  fun mark bracket => (plain mark bracket).parameters parameter mem

theorem operation : Text.IsPlain (Naming.operation endpoint.name) :=
  plain.name.lower

theorem responseType : Text.IsPlain (Naming.responseType endpoint.name) :=
  Text.isPlain_append.mpr ⟨by decide, plain.name⟩

theorem paramsType : Text.IsPlain (Naming.paramsType endpoint.name) :=
  Text.isPlain_append.mpr ⟨plain.name, by decide⟩

theorem isBalanced_operationDocument (options : Options) :
    (Query.ofEndpoint options endpoint).operationDocument.IsBalanced := by
  have signs : ∀ mark ∈ brackets, Text.Lacks mark "$: !" ∧ Text.Lacks mark "," ∧
      Text.Lacks mark "..." := Text.forall_brackets (by decide)
  have keyword : Text.IsPlain (options.operation endpoint).keyword := by
    cases options.operation endpoint <;> decide
  have header : Text.IsPlain ((options.operation endpoint).keyword ++ " " ++
      Naming.operation endpoint.name) :=
    Text.isPlain_append.mpr ⟨Text.isPlain_append.mpr ⟨keyword, by decide⟩, plain.operation⟩
  have selection : (Selection.ofShape endpoint.response).document.IsBalanced :=
    Document.isBalanced_of_lacks fun mark mem =>
      Selection.lacks_ofShape (isMark_of_mem_brackets mark mem) (signs mark mem).2.2
        (plain mark mem).fields
  have declared : (Document.commaSeparated
      (endpoint.parameters.map Parameter.variable)).IsBalanced :=
    Document.isBalanced_of_lacks fun mark mem =>
      Document.lacks_commaSeparated (signs mark mem).2.1 <| List.forall_mem_map.mpr
        fun parameter inside => Parameter.lacks_variable (plain.parameter inside mark mem)
          (isMark_of_mem_brackets mark mem) (signs mark mem).1
  have bound : (Document.commaSeparated
      (endpoint.parameters.map Parameter.binding)).IsBalanced :=
    Document.isBalanced_of_lacks fun mark mem =>
      Document.lacks_commaSeparated (signs mark mem).2.1 <| List.forall_mem_map.mpr
        fun parameter inside => Parameter.lacks_binding (plain.parameter inside mark mem)
          (signs mark mem).1
  unfold Query.operationDocument Query.ofEndpoint
  split
  · exact Document.isBalanced_block header.isBalanced
      (Document.isBalanced_block plain.operation.isBalanced selection .nil) .nil
  · -- both the operation and its root field open a parenthesis that a block behind them closes
    have root := Document.isBalanced_call plain.operation bound Text.turns_parenthesis selection
      .nil
    exact Document.isBalanced_call header declared Text.turns_parenthesis root .nil

theorem isBalanced_fragment {place : ListPlace}
    (mem : place ∈ endpoint.response.listPlaces (Naming.responseType endpoint.name)) :
    (Fragment.ofPlace place).document.IsBalanced := by
  have points : ∀ mark ∈ brackets, Text.Lacks mark "..." := Text.forall_brackets (by decide)
  have places (mark : Char) (bracket : mark ∈ brackets) :=
    (plain mark bracket).listPlace (isMark_of_mem_brackets mark bracket) mem
  have named : Text.IsPlain place.name := fun mark bracket => (places mark bracket).1
  have typed : Text.IsPlain place.typeName := fun mark bracket => (places mark bracket).2.1
  have header : Text.IsPlain ("fragment " ++ Naming.fragment place.name ++ " on " ++
      place.typeName) := by
    simp only [Naming.fragment, Text.isPlain_append]
    exact ⟨⟨⟨by decide, named, by decide⟩, by decide⟩, typed⟩
  have selection : (Selection.ofElement place.element).document.IsBalanced :=
    Document.isBalanced_of_lacks fun mark bracket =>
      Selection.lacks_ofElement (isMark_of_mem_brackets mark bracket) (points mark bracket)
        (places mark bracket).2.2
  exact Document.isBalanced_block header.isBalanced selection .nil

theorem isBalanced_query (options : Options) :
    (Query.ofEndpoint options endpoint).document.IsBalanced := by
  rw [Query.document_eq_separated]
  refine Document.isBalanced_separated (List.forall_mem_cons.mpr
    ⟨plain.isBalanced_operationDocument options, List.forall_mem_map.mpr ?_⟩)
  exact List.forall_mem_map.mpr fun place mem => plain.isBalanced_fragment mem

theorem isBalanced_declaration {declaration : Declaration}
    (mem : declaration ∈ Declaration.ofEndpoint endpoint) : declaration.document.IsBalanced := by
  rcases List.mem_cons.mp mem with rfl | mem
  · exact Declaration.isBalanced_document plain.paramsType <|
      List.forall_mem_map.mpr fun parameter inside => ⟨plain.parameter inside, trivial⟩
  · obtain ⟨place, placeMem, rfl⟩ := List.mem_map.mp mem
    have places (mark : Char) (bracket : mark ∈ brackets) :=
      (plain mark bracket).recordPlace (isMark_of_mem_brackets mark bracket) placeMem
    have typed : Text.IsPlain place.typeName := fun mark bracket => (places mark bracket).1
    refine Declaration.isBalanced_document typed (List.forall_mem_map.mpr fun field inside => ?_)
    have named : Text.IsPlain field.name := fun mark bracket =>
      (places mark bracket).2 _ (place.fields.names_subset_deepNames (List.mem_map_of_mem inside))
    exact ⟨named, Declaration.isPlain_fieldProperty typed named⟩

theorem isBalanced_classes :
    (Declaration.documentOf (Declaration.ofEndpoint endpoint)).IsBalanced := by
  rw [Declaration.documentOf_eq_separated]
  exact Document.isBalanced_separated <| List.forall_mem_map.mpr
    fun declaration mem => plain.isBalanced_declaration mem

theorem isBalanced_argumentObject (options : Options) :
    Text.IsBalanced (Resolver.ofEndpoint options endpoint).argumentObject := by
  have names : ∀ name ∈ endpoint.parameters.map Parameter.name, Text.IsBalanced name :=
    List.forall_mem_map.mpr fun parameter mem => (plain.parameter mem).isBalanced
  unfold Resolver.argumentObject
  split
  · decide
  · have opens : Text.Turns "\x7b " [] ['\x7d'] := by decide
    have closes : Text.Turns " \x7d" ['\x7d'] [] := by decide
    exact (Text.isBalanced_intercalate Text.isBalanced_comma names).enclosed opens closes

theorem isBalanced_methodBody (options : Options) :
    (Resolver.ofEndpoint options endpoint).methodBody.IsBalanced := by
  have comma := Text.isBalanced_comma
  have opens : Text.Turns "const res = await requestAPI(ctx, " [] [')'] := by decide
  have closes : Text.Turns ");" [')'] [] := by decide
  have arguments := (((plain.name.literal.isBalanced.append comma).append
    plain.method.literal.isBalanced).append comma).append (plain.isBalanced_argumentObject options)
  have call := arguments.enclosed opens closes
  simp only [← String.append_assoc] at call
  exact Document.isBalanced_line call (Document.isBalanced_line (by decide) .nil)

theorem isBalanced_methodDocument (options : Options) :
    (Resolver.ofEndpoint options endpoint).methodDocument.IsBalanced := by
  have decorator : Text.IsPlain ("@" ++ (options.operation endpoint).decorator) := by
    cases options.operation endpoint <;> decide
  have returns : Text.Turns "((returns) => " [] [')'] := by decide
  have decorated := plain.responseType.isBalanced.enclosed
    ((decorator.turns []).append returns) Text.turns_parenthesis
  have context : Text.IsBalanced "@Ctx() ctx: Context," := by decide
  have label : Text.IsBalanced "@Args() " := by decide
  have colon : Text.IsBalanced ": " := by decide
  have arguments := ((label.append (plain.isBalanced_argumentObject options)).append colon).append
    plain.paramsType.isBalanced
  have passage := Document.isBalanced_ofLines
    (List.forall_mem_cons.mpr ⟨context, List.forall_mem_singleton.mpr arguments⟩)
  -- the parenthesis that the name of the method opens is closed where the body begins
  have promise : Text.Turns "): Promise<" [')'] [] := by decide
  have undefined : Text.IsPlain " | undefined>" := by decide
  have closes := (promise.append (plain.responseType.turns [])).append (undefined.turns [])
  have named : Text.IsPlain ("async " ++ Naming.operation endpoint.name) :=
    Text.isPlain_append.mpr ⟨by decide, plain.operation⟩
  exact Document.isBalanced_line decorated (Document.isBalanced_call named passage closes
    (plain.isBalanced_methodBody options) .nil)

theorem isBalanced_resolver (options : Options) :
    (Resolver.ofEndpoint options endpoint).document.IsBalanced := by
  have opens : Text.Turns "@Resolver((of) => " [] [')'] := by decide
  have decorated := plain.responseType.isBalanced.enclosed opens Text.turns_parenthesis
  have header : Text.IsPlain ("export class " ++ Naming.resolverType endpoint.name) :=
    Text.isPlain_append.mpr ⟨by decide, Text.isPlain_append.mpr ⟨plain.name, by decide⟩⟩
  exact Document.isBalanced_line decorated
    (Document.isBalanced_block header.isBalanced (plain.isBalanced_methodDocument options) .nil)

theorem isBalanced_imports {options : Options} (settings : options.IsPlain) :
    (Resolver.ofEndpoint options endpoint).imports.IsBalanced := by
  have decorator : Text.IsBalanced ("import \x7b " ++ (options.operation endpoint).decorator ++
      ", Ctx, Args, Resolver \x7d from 'type-graphql';") := by
    cases options.operation endpoint <;> decide
  have comma := Text.isBalanced_comma
  have opens : Text.Turns "import \x7b " [] ['\x7d'] := by decide
  have closes : Text.Turns " \x7d from './typeDefs';" ['\x7d'] [] := by decide
  have names := (plain.paramsType.isBalanced.append comma).append plain.responseType.isBalanced
  have classes := names.enclosed opens closes
  simp only [← String.append_assoc] at classes
  have request : Text.IsBalanced "import \x7b requestAPI \x7d from " := by decide
  have context : Text.IsBalanced "import \x7b Context \x7d from " := by decide
  have ending : Text.IsBalanced ";" := by decide
  apply Document.isBalanced_ofLines
  simp only [List.forall_mem_cons]
  exact ⟨decorator, classes,
    (request.append settings.requestModule.literal.isBalanced).append ending,
    (context.append settings.contextModule.literal.isBalanced).append ending, nofun⟩

end Endpoint.IsPlain

namespace Endpoint

/-- The files of generated texts are correctly nested, whatever the stem of their names is: if no
name of the endpoint, no module and no indentation contains a bracket, a file closes no bracket but
the innermost open one, and leaves none open. -/
theorem files_balanced {options : Options} {endpoint : Endpoint} (plain : endpoint.IsPlain)
    (settings : options.IsPlain) (stem : String) :
    ∀ file ∈ endpoint.files options (endpoint.artifacts options) stem,
      Text.IsBalanced file.content ∧ Text.Nested file.content.toList := by
  have margin := settings.indent
  have query := (plain.isBalanced_query options).render margin
  have classes := plain.isBalanced_classes.render margin
  have resolver := (plain.isBalanced_resolver options).render margin
  have imports := (plain.isBalanced_imports settings).render margin
  have heading : Text.IsBalanced (typeDefsImport ++ "\n\n") := by decide +kernel
  have gap : Text.IsBalanced "\n" := by decide
  simp only [← Text.isBalanced_iff_nested, and_self, files, List.forall_mem_cons]
  exact ⟨(imports.append gap).append resolver, heading.append classes, query, nofun⟩

theorem report_files_balanced :
    report.IsPlain ∧ ({} : Options).IsPlain ∧
      ∀ file ∈ report.files {} (report.artifacts {}) "report",
        Text.IsBalanced file.content ∧ Text.Nested file.content.toList := by
  have names : ∀ mark ∈ brackets, Text.Lacks mark report.name ∧ Text.Lacks mark report.method ∧
      (∀ parameter ∈ report.parameters, Text.Lacks mark parameter.name) ∧
      ∀ field ∈ report.response.deepNames, Text.Lacks mark field :=
    Text.forall_brackets (by decide +kernel)
  have plain : report.IsPlain := fun mark mem =>
    have ⟨name, method, parameters, fields⟩ := names mark mem
    ⟨name, method, parameters, fields⟩
  have settings : ({} : Options).IsPlain := ⟨by decide, by decide, by decide⟩
  exact ⟨plain, settings, files_balanced plain settings "report"⟩

end Endpoint

end RestGraph
