import RestGraph.Proofs.ClassOrder
/-!
What the classes tell about their endpoint. The two lines of a property determine it, whatever the
names in them are, because the types of a response begin with `Res`; and the properties of a class
tell how many of the classes before it belong to its fields, so the tree of the response is found
again from the list of its classes.
-/

set_option autoImplicit false

namespace RestGraph

namespace Property

/-- A property of a kind that is generated: only a scalar is ever required, the class of a record
begins with `Res`, and the class of elements ends in `Item`. -/
def IsGenerated (property : Property) : Prop :=
  match property.type with
  | .scalar _ => True
  | .scalars _ => property.required = false
  | .object typeName => property.required = false ∧ ∃ rest, typeName = "Res" ++ rest
  | .objects typeName => property.required = false ∧ ∃ rest, typeName = rest ++ "Item"

def bareDecorator (required : Bool) : String :=
  if required then "@Field()" else "@Field(\x7b nullable: true \x7d)"

theorem decorator_scalar (name : String) (required : Bool) (kind : Scalar) :
    (Property.mk name required (.scalar kind)).decorator = bareDecorator required := by
  cases required <;> rfl

theorem bareDecorator_injective {first second : Bool}
    (same : bareDecorator first = bareDecorator second) : first = second := by
  revert first second
  decide

theorem bareDecorator_ne_reference (required : Bool) (type : String) :
    bareDecorator required ≠ reference type := by
  intro same
  have letters := congrArg String.toList same
  cases required <;> simp [bareDecorator, reference] at letters

theorem reference_injective {first second : String} (same : reference first = reference second) :
    first = second :=
  (String.append_right_inj _).mp ((String.append_left_inj _).mp same)

theorem graphqlType_injective {first second : Scalar}
    (same : first.graphqlType = second.graphqlType) : first = second := by
  cases first <;> cases second <;> revert same <;> decide

theorem graphqlType_ne_item (kind : Scalar) (rest : String) :
    kind.graphqlType ≠ rest ++ "Item" := by
  intro same
  have ending := congrArg (fun text => text.toList.getLast?) same
  cases kind <;> simp [Scalar.graphqlType] at ending

theorem bracket_injective {first second : String}
    (same : "[" ++ first ++ "]" = "[" ++ second ++ "]") : first = second :=
  (String.append_right_inj _).mp ((String.append_left_inj _).mp same)

theorem bracket_ne_object (inside rest : String) : "[" ++ inside ++ "]" ≠ "Res" ++ rest := by
  intro same
  have letters := congrArg String.toList same
  simp at letters

theorem type_eq_of_decorated {first second : Property} {text : String}
    (generated : first.IsGenerated) (others : second.IsGenerated)
    (one : first.type.decorated? = some text) (other : second.type.decorated? = some text) :
    first.type = second.type := by
  obtain ⟨_, _, type⟩ := first
  obtain ⟨_, _, second⟩ := second
  cases type with
  | scalar _ => cases one
  | scalars kind =>
    obtain rfl := Option.some.inj one
    cases second with
    | scalar _ => cases other
    | scalars _ =>
      have same := bracket_injective (Option.some.inj other)
      rw [graphqlType_injective same]
    | object _ =>
      obtain ⟨_, rest, rfl⟩ := others
      exact absurd (Option.some.inj other).symm (bracket_ne_object _ _)
    | objects _ =>
      obtain ⟨_, rest, rfl⟩ := others
      exact absurd (bracket_injective (Option.some.inj other)).symm (graphqlType_ne_item _ _)
  | object _ =>
    obtain ⟨_, rest, rfl⟩ := generated
    obtain rfl := Option.some.inj one
    cases second with
    | scalar _ => cases other
    | scalars _ => exact absurd (Option.some.inj other) (bracket_ne_object _ _)
    | object _ => rw [Option.some.inj other]
    | objects _ => exact absurd (Option.some.inj other) (bracket_ne_object _ _)
  | objects _ =>
    obtain ⟨_, rest, rfl⟩ := generated
    obtain rfl := Option.some.inj one
    cases second with
    | scalar _ => cases other
    | scalars _ =>
      exact absurd (bracket_injective (Option.some.inj other)) (graphqlType_ne_item _ _)
    | object _ =>
      obtain ⟨_, rest, rfl⟩ := others
      exact absurd (Option.some.inj other).symm (bracket_ne_object _ _)
    | objects _ => rw [bracket_injective (Option.some.inj other)]

theorem typescriptType_append_injective {first second : String} {kind other : Scalar}
    (same : first ++ kind.typescriptType = second ++ other.typescriptType) : kind = other := by
  have ending := congrArg (fun text => text.toList.getLast?) same
  cases kind <;> cases other <;> simp [Scalar.typescriptType] at ending ⊢

theorem name_eq_of_declaration {first second : String} {required : Bool} {type : PropertyType}
    (same : (Property.mk first required type).declaration =
      (Property.mk second required type).declaration) : first = second := by
  rw [declaration, declaration, String.append_left_inj, String.append_left_inj,
    String.append_left_inj] at same
  exact same

theorem IsGenerated.decorator_cases {property : Property} (generated : property.IsGenerated) :
    (∃ kind, property.type = .scalar kind ∧
        property.decorator = bareDecorator property.required) ∨
      ∃ text, property.type.decorated? = some text ∧ property.required = false ∧
        property.decorator = reference text := by
  obtain ⟨name, required, type⟩ := property
  cases type with
  | scalar kind => exact .inl ⟨kind, rfl, decorator_scalar name required kind⟩
  | scalars _ =>
    obtain rfl : required = false := generated
    exact .inr ⟨_, rfl, rfl, PropertyType.decorator_of_decorated rfl⟩
  | object _ | objects _ =>
    obtain rfl : required = false := generated.1
    exact .inr ⟨_, rfl, rfl, PropertyType.decorator_of_decorated rfl⟩

theorem eq_of_lines {first second : Property} (generated : first.IsGenerated)
    (others : second.IsGenerated) (decorators : first.decorator = second.decorator)
    (declarations : first.declaration = second.declaration) : first = second := by
  have settled : first.required = second.required ∧ first.type = second.type := by
    rcases generated.decorator_cases with ⟨kind, scalar, bare⟩ | ⟨text, one, optional, shown⟩ <;>
      rcases others.decorator_cases with ⟨other, scalar', bare'⟩ | ⟨text', one', optional', shown'⟩
    · rw [bare, bare'] at decorators
      have required := bareDecorator_injective decorators
      rw [declaration, declaration, scalar, scalar', required, String.append_left_inj]
        at declarations
      exact ⟨required, by rw [scalar, scalar', typescriptType_append_injective declarations]⟩
    · rw [bare, shown'] at decorators
      exact absurd decorators (bareDecorator_ne_reference _ _)
    · rw [shown, bare'] at decorators
      exact absurd decorators.symm (bareDecorator_ne_reference _ _)
    · rw [shown, shown'] at decorators
      rw [← reference_injective decorators] at one'
      exact ⟨optional.trans optional'.symm, type_eq_of_decorated generated others one one'⟩
  obtain ⟨name, required, type⟩ := first
  obtain ⟨name', required', type'⟩ := second
  obtain ⟨rfl, rfl⟩ := settled
  rw [name_eq_of_declaration declarations]

end Property

namespace Declaration

def IsGenerated (declaration : Declaration) : Prop :=
  ∀ property ∈ declaration.properties, property.IsGenerated

/-- What follows the lines of a property in a class. -/
def following : List Property → Document
  | [] => .nil
  | next :: rest => .blank (.separated ((next :: rest).map Property.document))

theorem separated_cons (property : Property) (rest : List Property) :
    Document.separated ((property :: rest).map Property.document) =
      .line property.decorator (.line property.declaration (following rest)) := by
  induction rest generalizing property with
  | nil => rfl
  | cons next rest ih =>
    have others : (Document.separated ((next :: rest).map Property.document)).isEmpty = false := by
      rw [ih next]
      rfl
    show (if (Document.separated ((next :: rest).map Property.document)).isEmpty then _
      else _) = _
    rw [others]
    rfl

theorem separated_eq_of_following {first second : List Property}
    (same : following first = following second) :
    Document.separated (first.map Property.document) =
      .separated (second.map Property.document) := by
  cases first <;> cases second
  case nil.nil => rfl
  case nil.cons | cons.nil => cases same
  case cons.cons => exact Document.blank.inj same

theorem properties_injective {first second : List Property}
    (generated : ∀ property ∈ first, property.IsGenerated)
    (others : ∀ property ∈ second, property.IsGenerated)
    (same : Document.separated (first.map Property.document) =
      .separated (second.map Property.document)) : first = second := by
  induction first generalizing second with
  | nil =>
    cases second with
    | nil => rfl
    | cons property rest =>
      rw [separated_cons] at same
      cases same
  | cons property rest ih =>
    cases second with
    | nil =>
      rw [separated_cons] at same
      cases same
    | cons property' rest' =>
      rw [separated_cons, separated_cons] at same
      obtain ⟨decorators, lines⟩ := Document.line.inj same
      obtain ⟨declarations, rests⟩ := Document.line.inj lines
      rw [List.forall_mem_cons] at generated others
      rw [Property.eq_of_lines generated.1 others.1 decorators declarations,
        ih generated.2 others.2 (separated_eq_of_following rests)]

/-- What a class shows of itself apart from the part that it plays. -/
def outline (declaration : Declaration) : String × List Property :=
  (declaration.name, declaration.properties)

theorem outlines_injective {first second : List Declaration}
    (generated : ∀ declaration ∈ first, declaration.IsGenerated)
    (others : ∀ declaration ∈ second, declaration.IsGenerated)
    (same : documentOf first = documentOf second) :
    first.map outline = second.map outline := by
  have blocks := congrArg Document.blocks same
  rw [blocks_documentOf, blocks_documentOf] at blocks
  clear same
  induction first generalizing second with
  | nil =>
    cases second with
    | nil => rfl
    | cons _ _ => cases blocks
  | cons declaration rest ih =>
    cases second with
    | nil => cases blocks
    | cons declaration' rest' =>
      obtain ⟨heads, tails⟩ := List.cons.inj blocks
      obtain ⟨headers, bodies⟩ := Prod.mk.inj heads
      rw [List.forall_mem_cons] at generated others
      have names := (String.append_right_inj _).mp headers
      have properties := properties_injective generated.1 others.1 bodies
      rw [List.map_cons, List.map_cons, outline, outline, names, properties,
        ih generated.2 others.2 tails]

theorem isGenerated_ofParameters (name : String) (parameters : List Parameter) :
    (ofParameters name parameters).IsGenerated := by
  intro property mem
  obtain ⟨parameter, _, rfl⟩ := List.mem_map.mp mem
  trivial

theorem isGenerated_ofPlace {place : RecordPlace} {name : String}
    (named : place.typeName = "Res" ++ name) : (ofPlace place).IsGenerated := by
  intro property mem
  obtain ⟨⟨field, value⟩, _, rfl⟩ := List.mem_map.mp mem
  cases value with
  | scalar _ => trivial
  | scalars _ => rfl
  | record _ => exact ⟨rfl, name ++ field, by rw [named]; exact String.append_assoc⟩
  | records _ => exact ⟨rfl, place.typeName ++ field, rfl⟩

end Declaration

namespace Shape

theorem exists_append_of_mem {shape : Shape} {typeName path : String} {place : RecordPlace}
    (mem : place ∈ shape.recordsWithin typeName path) :
    ∃ more, place.typeName = typeName ++ more := by
  induction shape generalizing typeName path with
  | nil => cases mem
  | scalar _ _ _ ih | scalars _ _ _ ih => exact ih mem
  | record name fields rest inner ih =>
    rcases List.mem_append.mp mem with mem | mem
    · obtain ⟨more, named⟩ := inner mem
      exact ⟨name ++ more, by rw [named, Naming.recordType, String.append_assoc]⟩
    · rcases List.mem_cons.mp mem with rfl | mem
      · exact ⟨name, rfl⟩
      · exact ih mem
  | records name element rest inner ih =>
    rcases List.mem_append.mp mem with mem | mem
    · obtain ⟨more, named⟩ := inner mem
      exact ⟨name ++ "Item" ++ more, by
        rw [named, Naming.itemType, String.append_assoc, String.append_assoc, String.append_assoc]⟩
    · rcases List.mem_cons.mp mem with rfl | mem
      · exact ⟨name ++ "Item", String.append_assoc⟩
      · exact ih mem

def properties (typeName : String) (shape : Shape) : List Property :=
  shape.toList.map (Declaration.fieldProperty typeName)

theorem properties_eq_of_ofPlace {typeName path path' : String} {first second : Shape}
    (same : [Declaration.ofPlace ⟨typeName, path, first⟩] =
      [Declaration.ofPlace ⟨typeName, path', second⟩]) :
    first.properties typeName = second.properties typeName :=
  (Declaration.mk.inj (List.cons.inj same).1).2.2

theorem classes_record (before : List Declaration) (typeName path name : String)
    (fields rest : Shape) :
    before ++ ((record name fields rest).recordsWithin typeName path).map Declaration.ofPlace =
      before ++ (fields.recordsWithin (Naming.recordType typeName name)
          (fieldPath path name)).map Declaration.ofPlace ++
        [.ofPlace ⟨Naming.recordType typeName name, fieldPath path name, fields⟩] ++
          (rest.recordsWithin typeName path).map Declaration.ofPlace := by
  simp [recordsWithin]

theorem classes_records (before : List Declaration) (typeName path name : String)
    (element rest : Shape) :
    before ++ ((records name element rest).recordsWithin typeName path).map Declaration.ofPlace =
      before ++ (element.recordsWithin (Naming.itemType typeName name)
          (fieldPath path name)).map Declaration.ofPlace ++
        [.ofPlace ⟨Naming.itemType typeName name, fieldPath path name, element⟩] ++
          (rest.recordsWithin typeName path).map Declaration.ofPlace := by
  simp [recordsWithin]

/-- The classes inside a record are read from the last to the first: the properties of the record
tell which of its fields the last class belongs to, and those of that class how many classes before
it belong to it. Whatever classes stand before, the record and the classes before are found. -/
theorem eq_of_recordsWithin {shape other : Shape} {typeName path path' : String}
    (before before' : List Declaration)
    (fields : shape.properties typeName = other.properties typeName)
    (same : before ++ (shape.recordsWithin typeName path).map Declaration.ofPlace =
      before' ++ (other.recordsWithin typeName path').map Declaration.ofPlace) :
    before = before' ∧ shape = other := by
  induction shape generalizing other typeName path path' before before' with
  | nil =>
    cases other with
    | nil => simpa [recordsWithin] using same
    | scalar _ _ _ | scalars _ _ _ | record _ _ _ | records _ _ _ => cases fields
  | scalar name kind rest ih =>
    cases other with
    | scalar name' kind' rest' =>
      obtain ⟨heads, tails⟩ := List.cons.inj fields
      obtain ⟨rfl, -, types⟩ := Property.mk.inj heads
      obtain rfl := PropertyType.scalar.inj types
      obtain ⟨earlier, rfl⟩ := ih _ _ tails same
      exact ⟨earlier, rfl⟩
    | nil | scalars _ _ _ | record _ _ _ | records _ _ _ => cases fields
  | scalars name kind rest ih =>
    cases other with
    | scalars name' kind' rest' =>
      obtain ⟨heads, tails⟩ := List.cons.inj fields
      obtain ⟨rfl, -, types⟩ := Property.mk.inj heads
      obtain rfl := PropertyType.scalars.inj types
      obtain ⟨earlier, rfl⟩ := ih _ _ tails same
      exact ⟨earlier, rfl⟩
    | nil | scalar _ _ _ | record _ _ _ | records _ _ _ => cases fields
  | record name inner rest ihInner ih =>
    cases other with
    | record name' inner' rest' =>
      obtain ⟨heads, tails⟩ := List.cons.inj fields
      obtain ⟨rfl, -, -⟩ := Property.mk.inj heads
      rw [classes_record, classes_record] at same
      obtain ⟨earlier, rfl⟩ := ih _ _ tails same
      -- what is left ends with the class of this record, which tells its fields
      obtain ⟨earlier, last⟩ := List.append_inj' earlier rfl
      obtain ⟨rfl, rfl⟩ := ihInner _ _ (properties_eq_of_ofPlace last) earlier
      exact ⟨rfl, rfl⟩
    | nil | scalar _ _ _ | scalars _ _ _ | records _ _ _ => cases fields
  | records name inner rest ihInner ih =>
    cases other with
    | records name' inner' rest' =>
      obtain ⟨heads, tails⟩ := List.cons.inj fields
      obtain ⟨rfl, -, -⟩ := Property.mk.inj heads
      rw [classes_records, classes_records] at same
      obtain ⟨earlier, rfl⟩ := ih _ _ tails same
      obtain ⟨earlier, last⟩ := List.append_inj' earlier rfl
      obtain ⟨rfl, rfl⟩ := ihInner _ _ (properties_eq_of_ofPlace last) earlier
      exact ⟨rfl, rfl⟩
    | nil | scalar _ _ _ | scalars _ _ _ | record _ _ _ => cases fields

end Shape

namespace Declaration

theorem isGenerated_ofEndpoint (endpoint : Endpoint) :
    ∀ declaration ∈ ofEndpoint endpoint, declaration.IsGenerated := by
  intro declaration mem
  rcases List.mem_cons.mp mem with rfl | mem
  · exact isGenerated_ofParameters _ _
  · obtain ⟨place, placeMem, rfl⟩ := List.mem_map.mp mem
    rcases List.mem_append.mp placeMem with inside | last
    · obtain ⟨more, named⟩ := Shape.exists_append_of_mem inside
      exact isGenerated_ofPlace (named.trans String.append_assoc)
    · obtain rfl := List.mem_singleton.mp last
      exact isGenerated_ofPlace rfl

theorem map_ofPlace_eq_of_outlines {first second : List RecordPlace}
    (same : (first.map ofPlace).map outline = (second.map ofPlace).map outline) :
    first.map ofPlace = second.map ofPlace := by
  have restored := congrArg (List.map fun shown => Declaration.mk .object shown.1 shown.2) same
  rw [List.map_map, List.map_map, List.map_map, List.map_map] at restored
  exact restored

theorem parameterProperty_injective : Function.Injective parameterProperty := by
  rintro ⟨name, kind, required⟩ ⟨name', kind', required'⟩ same
  obtain ⟨names, flags, types⟩ := Property.mk.inj same
  rw [Parameter.mk.injEq]
  exact ⟨names, PropertyType.scalar.inj types, flags⟩

/-- The classes lose nothing but the method. Endpoints with equal documents of classes agree in
name, parameters and response, whatever names they use; and the documents of endpoints that agree in
these are equal. -/
theorem documents_equal_iff (first second : Endpoint) :
    documentOf (ofEndpoint first) = documentOf (ofEndpoint second) ↔
      first.name = second.name ∧ first.parameters = second.parameters ∧
        first.response = second.response := by
  constructor
  · intro same
    have outlines := outlines_injective (isGenerated_ofEndpoint first)
      (isGenerated_ofEndpoint second) same
    obtain ⟨arguments, records⟩ := List.cons.inj outlines
    obtain ⟨names, properties⟩ := Prod.mk.inj arguments
    have named : first.name = second.name := (String.append_left_inj _).mp names
    have parameters := List.map_injective_iff.mpr parameterProperty_injective properties
    have classes := map_ofPlace_eq_of_outlines records
    rw [named, Shape.recordPlaces, Shape.recordPlaces, List.map_append, List.map_append] at classes
    obtain ⟨inside, root⟩ := List.append_inj' classes rfl
    have response : first.response = second.response :=
      (Shape.eq_of_recordsWithin [] [] (Shape.properties_eq_of_ofPlace root) inside).2
    exact ⟨named, parameters, response⟩
  · rintro ⟨names, parameters, responses⟩
    rw [ofEndpoint, ofEndpoint, names, parameters, responses]

end Declaration

end RestGraph
