import RestGraph.Endpoint.Basic
import RestGraph.Json.Reader
import RestGraph.Json.Skim
/-!
Descriptors that are read from a text as they come: each fault is reported where it stands, and the
values of keys that belong to no field are passed over.
-/

set_option autoImplicit false

namespace RestGraph

namespace Draft

/-- How deep the values of the example response may be nested. The braces of the descriptor and of
the response are two levels of the text. -/
def responseDepth : Nat :=
  Json.depthLimit - 2

def readResponse : Json.Reader Json.Members :=
  Json.objectOnly responseDepth

namespace Gathered

/-- Reads the value of a key into its field, or passes over it if the key belongs to no field. -/
def readField (fields : Gathered) : Option FieldName → Json.Reader Gathered
  | none, text => do
    let taken ← Json.skim text
    return taken.map fun _ => fields
  | some .name, text => do
    let taken ← Json.stringOnly text
    return taken.map fun name => { fields with name := some name }
  | some .method, text => do
    let taken ← Json.stringOnly text
    return taken.map fun method => { fields with method := some method }
  | some .parameters, text => do
    let taken ← Json.stringsOnly text
    return taken.map fun parameters => { fields with parameters := some parameters }
  | some .response, text => do
    let taken ← readResponse text
    return taken.map fun response => { fields with response := some response }

/-- Reads a key, without its colon, and finds the field it belongs to. A field that has been read
already is reported here, before its value. -/
def readKey (fields : Gathered) (text : List Char) :
    Except Json.Error (Taken (Option FieldName) text) :=
  match h : Json.skipGap text with
  | [] => .error (.unfinished .object)
  | c :: rest => do
    if c = '\x22' then
      let taken ← Json.string rest
      let field? := FieldName.ofKey? taken.value
      match field? with
      | none => pure ()
      | some field => fields.fresh field
      return (taken.map fun _ => field?).lengthen text (Json.length_le_of_skipGap h)
    else .error .keyNotString

def readMembers (fields : Gathered) (text : List Char) :
    Except Json.Error (Taken Gathered text) := do
  let key ← readKey fields text
  let mark ← Json.colon key.rest
  have markShorter := Nat.lt_trans mark.shorter key.shorter
  let read ← readField fields key.value mark.rest
  match h : Json.skipGap read.rest with
  | [] => .error (.unfinished .object)
  | c :: rest =>
    have shorter : rest.length < text.length :=
      Nat.lt_trans (Json.length_lt_of_skipGap h) (Nat.lt_trans read.shorter markShorter)
    if c = '\x7d' then return ⟨read.value, rest, shorter⟩
    else if c = ',' then
      Json.nextKey rest
      let taken ← readMembers read.value rest
      return taken.lengthen text (Nat.le_of_lt shorter)
    else .error .expectedCommaOrBrace
termination_by text.length

end Gathered

/-- Reads a descriptor with keys after its opening brace. The fields that are missing are found
once its members have been read. -/
def readObject : Json.Reader Draft := fun text =>
  match h : Json.skipGap text with
  | [] => .error (.unfinished .object)
  | c :: rest => do
    if c = '\x7d' then
      let draft ← Gathered.finish {}
      return ⟨draft, rest, Json.length_lt_of_skipGap h⟩
    else
      let taken ← Gathered.readMembers {} text
      let draft ← taken.value.finish
      return taken.map fun _ => draft

/-- Looks for one more element in a list of which some have been read: after none, an element may
follow at once, after others a comma comes first. -/
def nextElement? (first : Bool) (text : List Char) :
    Except Json.Error (Option (Json.Left text)) :=
  match h : Json.skipGap text with
  | [] => .error (.unfinished .list)
  | c :: rest =>
    if c = ']' then .ok none
    else if first then .ok (some (.all text))
    else if c = ',' then
      match Json.skipGap rest with
      | [] => .error (.unfinished .value)
      | d :: _ =>
        if d = ']' then .error .trailingComma
        else .ok (some ⟨rest, Json.length_le_of_skipGap h⟩)
    else .error .expectedCommaOrBracket

def readElement {α : Type} (first : Bool) (count : Nat) (element : Json.Reader α) :
    Json.Reader α := fun text => do
  match ← nextElement? first text with
  | none => .error (.tooFewElements count)
  | some left =>
    let taken ← element left.rest
    return taken.lengthen text left.notLonger

def closeList (text : List Char) : Except Json.Error (Taken Unit text) :=
  match h : Json.skipGap text with
  | [] => .error (.unfinished .list)
  | c :: rest =>
    if c = ']' then .ok ⟨(), rest, Json.length_lt_of_skipGap h⟩
    else if c = ',' ∧ (Json.skipGap rest).head? = some ']' then .error .trailingComma
    else .error .trailingText

def readList : Json.Reader Draft := fun text => do
  let name ← readElement true 0 Json.stringOnly text
  let method ← readElement false 1 Json.stringOnly name.rest
  let parameters ← readElement false 3 Json.stringsOnly method.rest
  let response ← readElement false 3 readResponse parameters.rest
  let close ← closeList response.rest
  let draft : Draft := ⟨name.value, method.value, parameters.value, response.value⟩
  return (name.past (method.past (parameters.past (response.past close)))).map fun _ => draft

def read (text : List Char) : Except Json.Error (Taken Draft text) :=
  match h : Json.skipGap text with
  | [] => .error (.unfinished .value)
  | c :: rest => do
    have notLonger := Json.length_le_of_skipGap h
    if c = '[' then
      let taken ← readList rest
      return taken.lengthen text notLonger
    else if c = '\x7b' then
      let taken ← readObject rest
      return taken.lengthen text notLonger
    else .error (Json.mismatch .descriptor (c :: rest))

def parse (text : String) : Except Json.Error Draft := do
  let taken ← read text.toList
  Json.endOfText taken.rest
  return taken.value

end Draft

def Endpoint.parse (text : String) : Except Endpoint.Fault Endpoint :=
  match Draft.parse text with
  | .error fault => .error (.json fault)
  | .ok draft => ofDraft draft

end RestGraph
