import RestGraph.Proofs.FirstCollision
/-!
The lines of a class. Each property stands on two lines, its decorator and its declaration, with an
empty line between each two properties. The lines for a field of a response tell what the field
holds: a scalar, scalars, a record or records have different lines in every class.
-/

set_option autoImplicit false

namespace RestGraph

/-- The names of a kind of scalar in GraphQL and in TypeScript. -/
def Scalar.names : Scalar → String × String
  | .string => ("String", "string")
  | .number => ("Float", "number")
  | .boolean => ("Boolean", "boolean")

def scalarLines (name type : String) : List Node :=
  [.line "@Field(\x7b nullable: true \x7d)", .line (name ++ "?: " ++ type ++ ";")]

/-- The lines for anything else that is optional. The decorator has to name its type. -/
def referenceLines (name decorated type : String) : List Node :=
  [.line ("@Field(() => " ++ decorated ++ ", \x7b nullable: true \x7d)"),
    .line (name ++ "?: " ++ type ++ ";")]

def Field.lines (typeName : String) (field : Field) : List Node :=
  match field.value with
  | .scalar kind => scalarLines field.name kind.names.2
  | .scalars kind =>
    referenceLines field.name ("[" ++ kind.names.1 ++ "]") (kind.names.2 ++ "[]")
  | .record _ => referenceLines field.name (typeName ++ field.name) (typeName ++ field.name)
  | .records _ =>
    referenceLines field.name ("[" ++ typeName ++ field.name ++ "Item]")
      (typeName ++ field.name ++ "Item[]")

def Parameter.lines (parameter : Parameter) : List Node :=
  if parameter.required then
    [.line "@Field()", .line (parameter.name ++ "!: " ++ parameter.kind.names.2 ++ ";")]
  else scalarLines parameter.name parameter.kind.names.2

namespace Document

/-- The body of a class declares fields, in order. -/
def DeclaresFields (body : Document) (typeName : String) (fields : List Field) : Prop :=
  body.nodes = [Node.blank].intercalate (fields.map (Field.lines typeName))

def DeclaresParameters (body : Document) (parameters : List Parameter) : Prop :=
  body.nodes = [Node.blank].intercalate (parameters.map Parameter.lines)

end Document

namespace Property

def nodes (property : Property) : List Node :=
  [.line property.decorator, .line property.declaration]

def reference (type : String) : String :=
  "@Field(() => " ++ type ++ ", \x7b nullable: true \x7d)"

end Property

theorem PropertyType.decorator_of_decorated {type : PropertyType} {name text : String}
    (decorated : type.decorated? = some text) :
    (Property.mk name false type).decorator = Property.reference text := by
  unfold Property.decorator Property.reference
  simp only [decorated]
  apply String.toList_injective
  show ("@Field(" ++ ("() => " ++ text ++ ", " ++ "\x7b nullable: true \x7d") ++ ")").toList = _
  simp [String.toList_append]

theorem PropertyType.nodes_of_decorated {type : PropertyType} {name text : String}
    (decorated : type.decorated? = some text) :
    (Property.mk name false type).nodes = referenceLines name text type.typescript := by
  rw [Property.nodes, decorator_of_decorated decorated]
  rfl

namespace Declaration

theorem nodes_body (declaration : Declaration) :
    declaration.body.nodes =
      [Node.blank].intercalate (declaration.properties.map Property.nodes) := by
  have filled : ∀ group ∈ declaration.properties.map Property.document, group.isEmpty = false := by
    intro group mem
    obtain ⟨property, -, rfl⟩ := List.mem_map.mp mem
    rfl
  rw [body, Document.nodes_separated_of_filled filled, List.map_map]
  rfl

theorem lines_records (typeName name : String) (element : Shape) :
    (Field.mk name (.records element)).lines typeName =
      referenceLines name ("[" ++ (typeName ++ name ++ "Item") ++ "]")
        (typeName ++ name ++ "Item" ++ "[]") := by
  have decorated : "[" ++ (typeName ++ name ++ "Item") ++ "]" =
      "[" ++ typeName ++ name ++ "Item]" := by
    apply String.toList_injective
    simp [String.toList_append]
  have type : typeName ++ name ++ "Item" ++ "[]" = typeName ++ name ++ "Item[]" := by
    apply String.toList_injective
    simp [String.toList_append]
  rw [decorated, type]
  rfl

theorem nodes_fieldProperty (typeName : String) (field : Field) :
    (fieldProperty typeName field).nodes = field.lines typeName := by
  obtain ⟨name, value⟩ := field
  cases value with
  | scalar kind => cases kind <;> rfl
  | scalars kind => cases kind <;> exact PropertyType.nodes_of_decorated rfl
  | record fields => exact PropertyType.nodes_of_decorated rfl
  | records element =>
    rw [lines_records]
    exact PropertyType.nodes_of_decorated rfl

theorem nodes_parameterProperty (parameter : Parameter) :
    (parameterProperty parameter).nodes = parameter.lines := by
  obtain ⟨name, kind, required⟩ := parameter
  cases required <;> cases kind <;> rfl

theorem declaresFields_ofPlace (place : RecordPlace) :
    (ofPlace place).body.DeclaresFields place.typeName place.fields.toList := by
  rw [Document.DeclaresFields, nodes_body, ofPlace, List.map_map]
  exact congrArg _ (List.map_congr_left fun field _ => nodes_fieldProperty place.typeName field)

theorem declaresParameters_ofParameters (name : String) (parameters : List Parameter) :
    (ofParameters name parameters).body.DeclaresParameters parameters := by
  rw [Document.DeclaresParameters, nodes_body, ofParameters, List.map_map]
  exact congrArg _ (List.map_congr_left fun parameter _ => nodes_parameterProperty parameter)

end Declaration

section Forms

variable {name decorated decorated' type type' : String}

theorem referenceLines_injective
    (same : referenceLines name decorated type = referenceLines name decorated' type') :
    decorated = decorated' ∧ type = type' := by
  obtain ⟨decorators, rest⟩ := List.cons.inj same
  obtain ⟨declarations, -⟩ := List.cons.inj rest
  have decorators := Node.line.inj decorators
  have declarations := Node.line.inj declarations
  rw [String.append_left_inj, String.append_right_inj] at decorators
  rw [String.append_left_inj, String.append_right_inj] at declarations
  exact ⟨decorators, declarations⟩

theorem scalarLines_ne_referenceLines :
    scalarLines name type ≠ referenceLines name decorated type' := by
  intro same
  have letters := congrArg String.toList (Node.line.inj (List.cons.inj same).1)
  simp [String.toList_append] at letters

theorem scalars_ne_record (kind : Scalar) :
    referenceLines name ("[" ++ kind.names.1 ++ "]") (kind.names.2 ++ "[]") ≠
      referenceLines name type type := by
  intro same
  obtain ⟨decorated, declared⟩ := referenceLines_injective same
  -- for a record both lines show one text
  have both := decorated.trans declared.symm
  cases kind <;> revert both <;> decide

theorem scalars_ne_records (kind : Scalar) :
    referenceLines name ("[" ++ kind.names.1 ++ "]") type ≠
      referenceLines name ("[" ++ decorated ++ name ++ "Item]") type' := by
  intro same
  have letters := congrArg String.toList (referenceLines_injective same).1
  -- no scalar is called by a name that ends like the class of elements
  have ending := congrArg (fun chars => chars.reverse.take 2) letters
  cases kind <;> simp [Scalar.names, String.toList_append] at ending

theorem record_ne_records {typeName : String} :
    referenceLines name (typeName ++ name) type ≠
      referenceLines name ("[" ++ typeName ++ name ++ "Item]") type' := by
  intro same
  have lengths := congrArg String.length (referenceLines_injective same).1
  simp only [String.length_append, show "[".length = 1 by rfl, show "Item]".length = 5 by rfl]
    at lengths
  omega

end Forms

end RestGraph
