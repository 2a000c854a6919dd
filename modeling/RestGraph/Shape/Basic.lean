import RestGraph.Json.Value
import RestGraph.Scalar
/-!
Response shapes. A shape is the list of the fields of a record; a field holds a scalar, a list of
scalars, a record or a list of records. The list and the tree are one type, so that one induction
reaches every field at every depth. A shape is made of an example response: a string is a tag that
names a scalar type, other literals and the first element of an array are examples of their own type.
-/

set_option autoImplicit false

namespace RestGraph

/-- The fields of a record, in order. Names may repeat or be empty. -/
inductive Shape where
  | nil
  | scalar (name : String) (kind : Scalar) (rest : Shape)
  | scalars (name : String) (kind : Scalar) (rest : Shape)
  | record (name : String) (fields : Shape) (rest : Shape)
  | records (name : String) (element : Shape) (rest : Shape)
  deriving DecidableEq, Inhabited

inductive FieldValue where
  | scalar (kind : Scalar)
  | scalars (kind : Scalar)
  | record (fields : Shape)
  | records (element : Shape)
  deriving DecidableEq

structure Field where
  name : String
  value : FieldValue
  deriving DecidableEq

/-- The path of a field inside the record at another path. There is no point after an empty
path. -/
def fieldPath (parent field : String) : String :=
  if parent.isEmpty then field else parent ++ "." ++ field

def FieldValue.element? : FieldValue → Option Shape
  | .records element => some element
  | _ => none

namespace Shape

def cons (field : Field) (rest : Shape) : Shape :=
  match field.value with
  | .scalar kind => .scalar field.name kind rest
  | .scalars kind => .scalars field.name kind rest
  | .record fields => .record field.name fields rest
  | .records element => .records field.name element rest

def toList : Shape → List Field
  | .nil => []
  | .scalar name kind rest => ⟨name, .scalar kind⟩ :: rest.toList
  | .scalars name kind rest => ⟨name, .scalars kind⟩ :: rest.toList
  | .record name fields rest => ⟨name, .record fields⟩ :: rest.toList
  | .records name element rest => ⟨name, .records element⟩ :: rest.toList

def ofList (fields : List Field) : Shape :=
  fields.foldr cons .nil

@[simp] theorem toList_cons (field : Field) (rest : Shape) :
    (cons field rest).toList = field :: rest.toList := by
  obtain ⟨name, value⟩ := field
  cases value <;> rfl

@[simp] theorem ofList_toList (shape : Shape) : ofList shape.toList = shape := by
  induction shape <;> simp_all [ofList, toList, cons]

@[simp] theorem toList_ofList (fields : List Field) : (ofList fields).toList = fields := by
  induction fields with
  | nil => rfl
  | cons field rest ih => simpa [ofList] using ih

/-- Adds a field after the others, without regard to the names that are there. -/
def push (shape : Shape) (field : Field) : Shape :=
  match shape with
  | .nil => cons field .nil
  | .scalar name kind rest => .scalar name kind (rest.push field)
  | .scalars name kind rest => .scalars name kind (rest.push field)
  | .record name fields rest => .record name fields (rest.push field)
  | .records name element rest => .records name element (rest.push field)

@[simp] theorem toList_push (shape : Shape) (field : Field) :
    (shape.push field).toList = shape.toList ++ [field] := by
  induction shape <;> simp_all [push, toList]

def names (shape : Shape) : List String :=
  shape.toList.map Field.name

def size (shape : Shape) : Nat :=
  shape.toList.length

def isEmpty (shape : Shape) : Bool :=
  shape.toList.isEmpty

/-- What the first field of a name holds. -/
def get? (shape : Shape) (name : String) : Option FieldValue :=
  (shape.toList.find? fun field => field.name == name).map Field.value

end Shape

/-- The scalar type of an example value. Null, arrays and objects have none. -/
def Scalar.ofLiteral? : Json.Value → Option Scalar
  | .str _ => some .string
  | .num _ => some .number
  | .bool _ => some .boolean
  | _ => none

namespace Shape

inductive Unsupported where
  | null
  | nestedArray
  | nullElement
  deriving DecidableEq

def Unsupported.describe : Unsupported → String
  | .null => "null"
  | .nestedArray => "nested array"
  | .nullElement => "null array element"

/-- Why an example response has no shape, with the path of the value at fault. -/
inductive Fault where
  | emptyArray (path : String)
  | unsupported (path : String) (value : Unsupported)
  deriving DecidableEq

def elementPath (path : String) : String :=
  path ++ "[0]"

mutual

def fieldOf (path : String) : Json.Value → Except Fault FieldValue
  | .str tag => .ok (.scalar (Scalar.ofTag tag))
  | .num _ => .ok (.scalar .number)
  | .bool _ => .ok (.scalar .boolean)
  | .null => .error (.unsupported path .null)
  | .obj members => do
    let fields ← ofMembersAt path members
    return .record fields
  | .arr [] => .error (.emptyArray path)
  | .arr (.obj members :: _) => do
    let element ← ofMembersAt (elementPath path) members
    return .records element
  | .arr (.arr _ :: _) => .error (.unsupported (elementPath path) .nestedArray)
  | .arr (.null :: _) => .error (.unsupported (elementPath path) .nullElement)
  | .arr (.str _ :: _) => .ok (.scalars .string)
  | .arr (.num _ :: _) => .ok (.scalars .number)
  | .arr (.bool _ :: _) => .ok (.scalars .boolean)

def ofMembersAt (path : String) : List (String × Json.Value) → Except Fault Shape
  | [] => .ok .nil
  | (key, value) :: rest => do
    let field ← fieldOf (fieldPath path key) value
    let others ← ofMembersAt path rest
    return cons ⟨key, field⟩ others

end

def ofMembers (members : Json.Members) : Except Fault Shape :=
  ofMembersAt "" members

end Shape

end RestGraph
