import Mathlib.Data.List.Nodup
import RestGraph.Proofs.TypedReading
/-!
Descriptors from texts and from values. A text that is read as it comes gives the draft of the value
that the text stands for, provided that no field is given twice: keys that belong to no field are
passed over in the one and ignored in the other, and repeated keys inside the response are settled
the same way in both.
-/

set_option autoImplicit false

namespace RestGraph

namespace Draft

open Json

namespace Gathered

def freshKey (fields : Gathered) (key : String) : Except Error Unit :=
  match FieldName.ofKey? key with
  | none => .ok ()
  | some field => fields.fresh field

def store (fields : Gathered) : Option FieldName → Value → Except Error Gathered
  | none, _ => .ok fields
  | some .name, value => (stringOf value).map fun name => { fields with name := some name }
  | some .method, value => (stringOf value).map fun method => { fields with method := some method }
  | some .parameters, value =>
    (stringsOf value).map fun parameters => { fields with parameters := some parameters }
  | some .response, value =>
    (membersOf value).map fun response => { fields with response := some response }

theorem read_eq (fields : Gathered) (member : String × Value) :
    fields.read member =
      fields.freshKey member.1 >>= fun _ => fields.store (FieldName.ofKey? member.1) member.2 := by
  unfold read freshKey
  cases FieldName.ofKey? member.1 with
  | none => rfl
  | some field =>
    dsimp only
    cases fields.fresh field with
    | error _ => rfl
    | ok _ =>
      simp only [ok_bind]
      cases field with
      | name | method =>
        simp only [store]
        cases stringOf member.2 <;> rfl
      | parameters =>
        simp only [store]
        cases stringsOf member.2 <;> rfl
      | response =>
        simp only [store]
        cases membersOf member.2 <;> rfl

theorem decodes_readField (fields : Gathered) (field : Option FieldName) :
    Decodes (fields.readField field) (responseDepth + 1) (fields.store field) := by
  cases field with
  | none => exact (decodes_skim _).map fun _ => fields
  | some field =>
    cases field with
    | name => exact (decodes_stringOnly _).map _
    | method => exact (decodes_stringOnly _).map _
    | parameters => exact (decodes_stringsOnly _).map _
    | response => exact (decodes_objectOnly responseDepth).map _

private theorem outcome_readKey (fields : Gathered) {text rest : List Char}
    {chars : Taken String rest} (start : skipGap text = '\x22' :: rest)
    (quoted : string rest = .ok chars) :
    outcome (fields.readKey text) =
      (fields.freshKey chars.value).map fun _ => (FieldName.ofKey? chars.value, chars.rest) := by
  unfold readKey freshKey
  split
  · rename_i found
    rw [start] at found
    cases found
  · rename_i found
    rw [start] at found
    obtain ⟨rfl, rfl⟩ := List.cons.inj found
    rw [if_pos rfl, quoted]
    simp only [ok_bind]
    cases FieldName.ofKey? chars.value with
    | none => rfl
    | some field =>
      dsimp only
      cases fields.fresh field <;> rfl

theorem outcome_readMembers {fields : Gathered} {text : List Char} {name : Taken String text}
    (named : key text = .ok name) :
    outcome (fields.readMembers text) =
      fields.freshKey name.value >>= fun _ =>
        outcome (fields.readField (FieldName.ofKey? name.value) name.rest) >>= fun read =>
          match skipGap read.2 with
          | [] => .error (.unfinished .object)
          | c :: rest =>
            if c = '\x7d' then .ok (read.1, rest)
            else if c = ',' then nextKey rest >>= fun _ => outcome (read.1.readMembers rest)
            else .error .expectedCommaOrBrace := by
  obtain ⟨rest, chars, mark, start, quoted, behind, shown, left⟩ := key_eq_ok named
  have keyRead := outcome_readKey fields start quoted
  rw [← shown] at keyRead
  rw [readMembers]
  cases fresh : fields.freshKey name.value with
  | error fault =>
    rw [fresh] at keyRead
    cases found : fields.readKey text with
    | error _ =>
      rw [found] at keyRead
      cases keyRead
      rfl
    | ok _ =>
      rw [found] at keyRead
      cases keyRead
  | ok _ =>
    rw [fresh] at keyRead
    obtain ⟨key', found, field, next⟩ := outcome_eq_ok keyRead
    obtain ⟨mark', behind', same⟩ :
        ∃ mark', colon key'.rest = .ok mark' ∧ mark'.rest = name.rest := by
      rw [next, left]
      exact ⟨mark, behind, rfl⟩
    have valueRead : outcome (fields.readField (FieldName.ofKey? name.value) name.rest) =
        outcome (fields.readField key'.value mark'.rest) := by
      rw [field, same]
    rw [valueRead, found]
    simp only [ok_bind, behind']
    cases fields.readField key'.value mark'.rest with
    | error _ => rfl
    | ok read =>
      simp only [ok_bind, outcome, map_ok]
      split
      · rename_i nothing
        simp only [nothing, map_error]
      rename_i c after follows
      simp only [follows]
      by_cases close : c = '\x7d'
      · rw [if_pos close, if_pos close]
        rfl
      rw [if_neg close, if_neg close]
      by_cases comma : c = ','
      · rw [if_pos comma, if_pos comma]
        cases nextKey after with
        | error _ => rfl
        | ok _ =>
          simp only [ok_bind]
          cases readMembers read.value after <;> rfl
      · rw [if_neg comma, if_neg comma]
        rfl

theorem outcome_readMembers_of_membersRead {fields : Gathered} {text after : List Char}
    {members : List (String × Value)}
    (read : MembersRead (value (responseDepth + 1)) text members after) :
    outcome (fields.readMembers text) =
      (members.foldlM Gathered.read fields).map fun gathered => (gathered, after) := by
  induction read generalizing fields with
  | @last text rest name first named head mark =>
    rw [outcome_readMembers named, List.foldlM_cons, read_eq]
    cases fields.freshKey name.value with
    | error _ => rfl
    | ok _ =>
      simp only [ok_bind]
      rw [decodes_readField _ _ _ _ head]
      cases fields.store (FieldName.ofKey? name.value) first.value with
      | error _ => rfl
      | ok gathered =>
        simp only [map_ok, ok_bind, mark, if_true]
        rfl
  | @more text rest after name first members named head mark follows _ ih =>
    have noClose : ',' ≠ '\x7d' := by decide
    rw [outcome_readMembers named, List.foldlM_cons, read_eq]
    cases fields.freshKey name.value with
    | error _ => rfl
    | ok _ =>
      simp only [ok_bind]
      rw [decodes_readField _ _ _ _ head]
      cases fields.store (FieldName.ofKey? name.value) first.value with
      | error _ => rfl
      | ok gathered =>
        simp only [map_ok, ok_bind, mark, if_neg noClose, if_true, follows]
        exact ih

end Gathered

private theorem outcome_readObject (text : List Char) :
    outcome (readObject text) =
      match skipGap text with
      | [] => .error (.unfinished .object)
      | c :: rest =>
        if c = '\x7d' then (Gathered.finish {}).map fun draft => (draft, rest)
        else outcome (Gathered.readMembers {} text) >>= fun read =>
          read.1.finish.map fun draft => (draft, read.2) := by
  unfold readObject
  split
  · rename_i found
    simp only [found]
    rfl
  rename_i c rest found
  simp only [found]
  by_cases close : c = '\x7d'
  · rw [if_pos close, if_pos close]
    cases Gathered.finish {} <;> rfl
  · rw [if_neg close, if_neg close]
    cases Gathered.readMembers {} text with
    | error _ => rfl
    | ok read =>
      show outcome (read.value.finish >>= _) = read.value.finish.map _
      cases read.value.finish <;> rfl

theorem outcome_readObject_of_object {text : List Char} {taken : Taken (List (String × Value)) text}
    (read : object (value (responseDepth + 1)) text = .ok taken) :
    outcome (readObject text) =
      (taken.value.foldlM Gathered.read {} >>= Gathered.finish).map fun draft =>
        (draft, taken.rest) := by
  rw [outcome_readObject]
  rcases object_eq_ok read with ⟨close, none⟩ | ⟨c, rest, start, noBrace, listed⟩
  · rw [none]
    simp only [close, if_true]
    rfl
  · simp only [start, if_neg noBrace]
    rw [Gathered.outcome_readMembers_of_membersRead listed]
    cases taken.value.foldlM Gathered.read {} with
    | error _ => rfl
    | ok gathered => rfl

def givenFields (members : List (String × Value)) : List FieldName :=
  members.filterMap fun member => FieldName.ofKey? member.1

def fieldMembers (members : List (String × Value)) : List (String × Value) :=
  members.filter fun member => (FieldName.ofKey? member.1).isSome

theorem foldlM_fieldMembers (members : List (String × Value)) (fields : Gathered) :
    (fieldMembers members).foldlM Gathered.read fields = members.foldlM Gathered.read fields := by
  induction members generalizing fields with
  | nil => rfl
  | cons member rest ih =>
    cases field : FieldName.ofKey? member.1 with
    | none =>
      have ignored : fields.read member = .ok fields := by
        rw [Gathered.read, field]
      rw [List.foldlM_cons, ignored, fieldMembers, List.filter_cons_of_neg (by simp [field])]
      exact ih fields
    | some _ =>
      rw [fieldMembers, List.filter_cons_of_pos (by simp [field]), List.foldlM_cons,
        List.foldlM_cons]
      cases fields.read member with
      | error _ => rfl
      | ok next => exact ih next

theorem fieldMembers_append (first second : List (String × Value)) :
    fieldMembers (first ++ second) = fieldMembers first ++ fieldMembers second :=
  List.filter_append first second

theorem givenFields_append (first second : List (String × Value)) :
    givenFields (first ++ second) = givenFields first ++ givenFields second :=
  List.filterMap_append

theorem givenFields_fieldMembers (members : List (String × Value)) :
    givenFields (fieldMembers members) = givenFields members := by
  rw [givenFields, fieldMembers, List.filterMap_filter]
  refine List.filterMap_congr fun member _ => ?_
  cases FieldName.ofKey? member.1 <;> rfl

private theorem fieldMembers_put {members : Members} {key : String} {v : Value}
    (fresh : ∀ field, FieldName.ofKey? key = some field → field ∉ givenFields members) :
    fieldMembers (members.put key v) = fieldMembers (members ++ [(key, v)]) := by
  induction members with
  | nil => rfl
  | cons member rest ih =>
    obtain ⟨k, old⟩ := member
    by_cases same : k = key
    · subst same
      -- a key that is there already belongs to no field, so its value does not count
      have ignored : FieldName.ofKey? k = none := by
        cases field : FieldName.ofKey? k with
        | none => rfl
        | some field' =>
          refine absurd ?_ (fresh field' field)
          simp [givenFields, field]
      simp [Members.put, fieldMembers, ignored]
    · have freshRest : ∀ field, FieldName.ofKey? key = some field → field ∉ givenFields rest := by
        intro field found mem
        refine fresh field found ?_
        obtain ⟨member, memberMem, given⟩ := List.mem_filterMap.mp mem
        exact List.mem_filterMap.mpr ⟨member, List.mem_cons_of_mem _ memberMem, given⟩
      have tails := ih freshRest
      rw [Members.put, if_neg same, List.cons_append]
      unfold fieldMembers at tails ⊢
      rw [List.filter_cons, List.filter_cons, tails]

private theorem fieldMembers_foldl_put (before : Members) {pairs : List (String × Value)}
    (once : (givenFields (before ++ pairs)).Nodup) :
    fieldMembers (pairs.foldl (fun (members : Members) pair => members.put pair.1 pair.2) before) =
      fieldMembers (before ++ pairs) := by
  induction pairs generalizing before with
  | nil => simp
  | cons pair rest ih =>
    have fresh : ∀ field, FieldName.ofKey? pair.1 = some field → field ∉ givenFields before := by
      intro field found mem
      rw [givenFields_append] at once
      have again : field ∈ givenFields (pair :: rest) :=
        List.mem_filterMap.mpr ⟨pair, List.mem_cons_self, found⟩
      exact (List.nodup_append.mp once).2.2 field mem field again rfl
    rw [List.append_cons] at once ⊢
    have placed := fieldMembers_put (v := pair.2) fresh
    have same : fieldMembers (before.put pair.1 pair.2 ++ rest) =
        fieldMembers (before ++ [pair] ++ rest) := by
      rw [fieldMembers_append, fieldMembers_append _ rest, placed]
    rw [List.foldl_cons, ← same]
    apply ih
    rw [← givenFields_fieldMembers, same, givenFields_fieldMembers]
    exact once

theorem fieldMembers_ofPairs {pairs : List (String × Value)} (once : (givenFields pairs).Nodup) :
    fieldMembers (Members.ofPairs pairs) = fieldMembers pairs :=
  fieldMembers_foldl_put [] once

/-- What is left of a list, at its start or behind an element, as the strict reader takes it. -/
inductive ListRead (depth : Nat) : Bool → List Char → List Value → List Char → Prop
  | close {first : Bool} {text rest : List Char} :
    skipGap text = ']' :: rest → ListRead depth first text [] rest
  | first {text rest after : List Char} {c : Char} {taken : Taken Value text}
    {values : List Value} :
    skipGap text = c :: rest → c ≠ ']' → value depth text = .ok taken →
      ListRead depth false taken.rest values after →
        ListRead depth true text (taken.value :: values) after
  | next {text rest behind after : List Char} {c : Char} {taken : Taken Value rest}
    {values : List Value} :
    skipGap text = ',' :: rest → skipGap rest = c :: behind → c ≠ ']' →
      value depth rest = .ok taken → ListRead depth false taken.rest values after →
        ListRead depth false text (taken.value :: values) after

section Elements

variable {depth : Nat} {text after : List Char} {values : List Value}

private theorem ListRead.of_elementsRead (read : ElementsRead (value depth) text values after) :
    ∃ first more, value depth text = .ok first ∧ values = first.value :: more ∧
      ListRead depth false first.rest more after := by
  induction read with
  | last head mark => exact ⟨_, [], head, rfl, .close mark⟩
  | more head mark follows noBracket _ ih =>
    obtain ⟨second, others, next, rfl, listed⟩ := ih
    exact ⟨_, _, head, rfl, .next mark follows noBracket next listed⟩

theorem ListRead.of_items {taken : Taken (List Value) text}
    (read : items (value depth) text = .ok taken) :
    ListRead depth true text taken.value taken.rest := by
  rcases items_eq_ok read with ⟨close, none⟩ | ⟨c, rest, start, noBracket, listed⟩
  · rw [none]
    exact .close close
  · obtain ⟨first, more, head, all, listed⟩ := ListRead.of_elementsRead listed
    rw [all]
    exact .first start noBracket head listed

private theorem nextElement?_of_start {first : Bool} {c : Char} {rest : List Char}
    (start : skipGap text = c :: rest) :
    nextElement? first text =
      if c = ']' then .ok none
      else if first then .ok (some (.all text))
      else if c = ',' then
        match skipGap rest with
        | [] => .error (.unfinished .value)
        | d :: _ =>
          if d = ']' then .error .trailingComma
          else .ok (some ⟨rest, length_le_of_skipGap start⟩)
      else .error .expectedCommaOrBracket := by
  unfold nextElement?
  split
  · rename_i found
    rw [start] at found
    cases found
  · rename_i found
    rw [start] at found
    obtain ⟨rfl, rfl⟩ := List.cons.inj found
    rfl

private theorem readElement_close {α : Type} {first : Bool} {count : Nat} {element : Reader α}
    (read : ListRead depth first text [] after) :
    readElement first count element text = .error (.tooFewElements count) := by
  cases read with
  | close mark =>
    rw [readElement, nextElement?_of_start mark]
    rfl

private theorem nextElement?_of_listRead {v : Value} {first : Bool}
    (read : ListRead depth first text (v :: values) after) :
    ∃ left taken, nextElement? first text = .ok (some left) ∧
      value depth left.rest = .ok taken ∧ taken.value = v ∧
        ListRead depth false taken.rest values after := by
  cases read with
  | @first _ rest _ c taken _ start noBracket head listed =>
    refine ⟨.all text, taken, ?_, head, rfl, listed⟩
    rw [nextElement?_of_start start, if_neg noBracket, if_pos rfl]
  | @next _ rest behind _ c taken _ mark follows noBracket head listed =>
    refine ⟨⟨rest, length_le_of_skipGap mark⟩, taken, ?_, head, rfl, listed⟩
    have noClose : ',' ≠ ']' := by decide
    rw [nextElement?_of_start mark, if_neg noClose, if_neg Bool.false_ne_true, if_pos rfl]
    simp only [follows, if_neg noBracket]

private theorem outcome_readElement {α : Type} {element : Reader α}
    {decode : Value → Except Error α} (decodes : Decodes element depth decode) {v : Value}
    {first : Bool} (count : Nat) (read : ListRead depth first text (v :: values) after) :
    ∃ rest, outcome (readElement first count element text) =
        (decode v).map (fun result => (result, rest)) ∧
      ListRead depth false rest values after := by
  obtain ⟨left, taken, next, head, rfl, listed⟩ := nextElement?_of_listRead read
  refine ⟨taken.rest, ?_, listed⟩
  rw [← decodes left.rest taken head, readElement, next]
  simp only [ok_bind]
  cases element left.rest <;> rfl

private theorem outcome_closeList {c : Char} {rest : List Char}
    (start : skipGap text = c :: rest) :
    outcome (closeList text) =
      if c = ']' then .ok ((), rest)
      else if c = ',' ∧ (skipGap rest).head? = some ']' then .error .trailingComma
      else .error .trailingText := by
  unfold closeList
  split
  · rename_i found
    rw [start] at found
    cases found
  · rename_i found
    rw [start] at found
    obtain ⟨rfl, rfl⟩ := List.cons.inj found
    split
    · rfl
    · split <;> rfl

private theorem outcome_closeList_eq_ok (read : ListRead depth false text values after)
    (rest : List Char) :
    outcome (closeList text) = .ok ((), rest) ↔ values = [] ∧ rest = after := by
  cases read with
  | close mark =>
    rw [outcome_closeList mark, if_pos rfl]
    simp [eq_comm]
  | next mark _ _ _ _ =>
    have noClose : ',' ≠ ']' := by decide
    rw [outcome_closeList mark, if_neg noClose]
    split <;> simp

end Elements

private theorem outcome_readList (text : List Char) :
    outcome (readList text) =
      outcome (readElement true 0 stringOnly text) >>= fun name =>
        outcome (readElement false 1 stringOnly name.2) >>= fun method =>
          outcome (readElement false 3 stringsOnly method.2) >>= fun parameters =>
            outcome (readElement false 3 readResponse parameters.2) >>= fun response =>
              (outcome (closeList response.2)).map fun close =>
                (⟨name.1, method.1, parameters.1, response.1⟩, close.2) := by
  unfold readList
  cases readElement true 0 stringOnly text with
  | error _ => rfl
  | ok name =>
    simp only [ok_bind, outcome, map_ok]
    cases readElement false 1 stringOnly name.rest with
    | error _ => rfl
    | ok method =>
      simp only [ok_bind, map_ok]
      cases readElement false 3 stringsOnly method.rest with
      | error _ => rfl
      | ok parameters =>
        simp only [ok_bind, map_ok]
        cases readElement false 3 readResponse parameters.rest with
        | error _ => rfl
        | ok response =>
          simp only [ok_bind, map_ok]
          cases closeList response.rest <;> rfl

def decodeElement {α : Type} (count : Nat) (decode : Value → Except Error α) :
    List Value → Except Error (α × List Value)
  | [] => .error (.tooFewElements count)
  | v :: rest => (decode v).map fun result => (result, rest)

private theorem ofValue_arr (values : List Value) :
    ofValue (.arr values) =
      decodeElement 0 stringOf values >>= fun name =>
        decodeElement 1 stringOf name.2 >>= fun method =>
          decodeElement 3 stringsOf method.2 >>= fun parameters =>
            decodeElement 3 membersOf parameters.2 >>= fun response =>
              if response.2.isEmpty then .ok ⟨name.1, method.1, parameters.1, response.1⟩
              else .error (.tooManyElements values.length) := by
  -- the number of values decides which of them are looked at
  rcases values with _ | ⟨name, _ | ⟨method, _ | ⟨parameters, _ | ⟨response, more⟩⟩⟩⟩
  · rfl
  · simp only [ofValue, decodeElement]
    cases stringOf name <;> rfl
  · simp only [ofValue, decodeElement]
    cases stringOf name with
    | error _ => rfl
    | ok _ =>
      simp only [ok_bind, map_ok]
      cases stringOf method <;> rfl
  · simp only [ofValue, decodeElement]
    cases stringOf name with
    | error _ => rfl
    | ok _ =>
      simp only [ok_bind, map_ok]
      cases stringOf method with
      | error _ => rfl
      | ok _ =>
        simp only [ok_bind, map_ok]
        cases stringsOf parameters <;> rfl
  · simp only [ofValue, decodeElement]
    cases stringOf name with
    | error _ => rfl
    | ok _ =>
      simp only [ok_bind, map_ok]
      cases stringOf method with
      | error _ => rfl
      | ok _ =>
        simp only [ok_bind, map_ok]
        cases stringsOf parameters with
        | error _ => rfl
        | ok _ =>
          simp only [ok_bind, map_ok]
          cases membersOf response <;> rfl

/-- A reading from a text and one from a value end alike: both give the draft, and the text is read
up to a given rest, or both fail. -/
def EndAlike (after : List Char) (fromText : Except Error (Draft × List Char))
    (fromValue : Except Error Draft) : Prop :=
  ∀ draft rest, fromText = .ok (draft, rest) ↔ fromValue = .ok draft ∧ rest = after

private theorem EndAlike.element {α : Type} {depth count : Nat} {first : Bool}
    {text after : List Char} {values : List Value} {element : Reader α}
    {decode : Value → Except Error α} {next : α × List Char → Except Error (Draft × List Char)}
    {next' : α × List Value → Except Error Draft} (decodes : Decodes element depth decode)
    (read : ListRead depth first text values after)
    (alike : ∀ result rest more, ListRead depth false rest more after →
      EndAlike after (next (result, rest)) (next' (result, more))) :
    EndAlike after (outcome (readElement first count element text) >>= next)
      (decodeElement count decode values >>= next') := by
  intro draft rest
  cases values with
  | nil =>
    rw [readElement_close read]
    simp [outcome, decodeElement]
  | cons v more =>
    obtain ⟨behind, taken, listed⟩ := outcome_readElement decodes count read
    rw [taken, decodeElement]
    cases decode v with
    | error _ => simp
    | ok result => exact alike result behind more listed draft rest

theorem readList_endAlike {text after : List Char} {values : List Value}
    (read : ListRead (responseDepth + 1) true text values after) :
    EndAlike after (outcome (readList text)) (ofValue (.arr values)) := by
  rw [outcome_readList, ofValue_arr]
  refine .element (decodes_stringOnly _) read fun name behindName values' read' => ?_
  refine .element (decodes_stringOnly _) read' fun method behindMethod values'' read'' => ?_
  refine .element (decodes_stringsOnly _) read'' fun parameters behindParameters rest listed => ?_
  refine .element (decodes_objectOnly responseDepth) listed fun response behind others last => ?_
  intro draft left
  cases others with
  | nil =>
    have closed := (outcome_closeList_eq_ok last after).mpr ⟨rfl, rfl⟩
    rw [closed]
    simp [and_comm, eq_comm]
  | cons v more =>
    cases closed : outcome (closeList behind) with
    | error _ => simp
    | ok close =>
      have none := ((outcome_closeList_eq_ok last close.2).mp closed).1
      cases none

private theorem outcome_read (text : List Char) :
    outcome (read text) =
      match skipGap text with
      | [] => .error (.unfinished .value)
      | c :: rest =>
        if c = '[' then outcome (readList rest)
        else if c = '\x7b' then outcome (readObject rest)
        else .error (mismatch .descriptor (c :: rest)) := by
  unfold read
  split
  · rename_i found
    simp only [found]
    rfl
  rename_i c rest found
  simp only [found]
  by_cases bracket : c = '['
  · rw [if_pos bracket, if_pos bracket]
    cases readList rest <;> rfl
  rw [if_neg bracket, if_neg bracket]
  by_cases brace : c = '\x7b'
  · rw [if_pos brace, if_pos brace]
    cases readObject rest <;> rfl
  · rw [if_neg brace, if_neg brace]
    rfl

def writtenMembers (text : List Char) : List (String × Value) :=
  match skipGap text with
  | '\x7b' :: rest =>
    match object (value (depthLimit - 1)) rest with
    | .ok taken => taken.value
    | .error _ => []
  | _ => []

private theorem writtenMembers_of_object {text rest : List Char}
    {inner : Taken (List (String × Value)) rest} (start : skipGap text = '\x7b' :: rest)
    (read : object (value (depthLimit - 1)) rest = .ok inner) :
    writtenMembers text = inner.value := by
  unfold writtenMembers
  simp only [start, read]

private theorem read_endAlike {text : List Char} {taken : Taken Value text}
    (found : value depthLimit text = .ok taken)
    (once : ∀ field, (givenFields (writtenMembers text)).count field ≤ 1) :
    EndAlike taken.rest (outcome (read text)) (ofValue taken.value) := by
  have whole : ValueRead (responseDepth + 1 + 1) text taken.value taken.rest :=
    valueRead_of_value found
  generalize taken.value = v, taken.rest = after at whole ⊢
  rw [outcome_read]
  intro draft left
  cases whole with
  | @array _ _ rest inner start listed =>
    simp only [start, if_true]
    exact readList_endAlike (.of_items listed) draft left
  | @object _ _ rest inner start listed =>
    have noBracket : ('\x7b' : Char) ≠ '[' := by decide
    have distinct : (givenFields inner.value).Nodup := by
      rw [List.nodup_iff_count_le_one, ← writtenMembers_of_object start listed]
      exact once
    have merged : (Members.ofPairs inner.value).foldlM Gathered.read {} =
        inner.value.foldlM Gathered.read {} := by
      rw [← foldlM_fieldMembers, fieldMembers_ofPairs distinct, foldlM_fieldMembers]
    simp only [start, if_neg noBracket, if_true]
    rw [outcome_readObject_of_object listed, ofValue, merged]
    cases inner.value.foldlM Gathered.read {} >>= Gathered.finish with
    | error _ => simp
    | ok finished => simp [eq_comm]
  | @scalar _ _ c rest inner start noBracket noBrace plain =>
    simp only [start, if_neg noBracket, if_neg noBrace]
    -- a value without an inside is not a descriptor, in whichever way it is read
    have wrong : ∃ fault, ofValue inner.value = .error fault := by
      rcases scalar_eq_ok plain with ⟨chars, _, _, shown, _⟩ |
        ⟨_, shown | ⟨_, shown⟩ | ⟨_, shown⟩⟩
      all_goals
        rw [shown]
        exact ⟨_, rfl⟩
    obtain ⟨fault, wrong⟩ := wrong
    rw [wrong]
    simp

theorem parse_iff_ofValue {text : String} {v : Value} (parsed : Json.parse text = .ok v)
    (once : ∀ field, (givenFields (writtenMembers text.toList)).count field ≤ 1) (draft : Draft) :
    Draft.parse text = .ok draft ↔ ofValue v = .ok draft := by
  obtain ⟨taken, found, parsed⟩ := exists_of_bind_eq_ok parsed
  obtain ⟨⟨⟩, ended, parsed⟩ := exists_of_bind_eq_ok parsed
  obtain rfl := Except.ok.inj parsed
  have alike := read_endAlike found once
  constructor
  · intro read
    obtain ⟨whole, found, read⟩ := exists_of_bind_eq_ok read
    obtain ⟨⟨⟩, _, read⟩ := exists_of_bind_eq_ok read
    obtain rfl := Except.ok.inj read
    have taken : outcome (Draft.read text.toList) = .ok (whole.value, whole.rest) := by
      rw [found]
      rfl
    exact ((alike whole.value whole.rest).mp taken).1
  · intro decoded
    have read := (alike draft taken.rest).mpr ⟨decoded, rfl⟩
    obtain ⟨whole, found, shown, rest⟩ := outcome_eq_ok read
    rw [Draft.parse, found, ok_bind, rest, ended, ← shown]
    rfl

end Draft

namespace Endpoint

open Json

/-- Reading a descriptor from a text and from the value of that text agree. -/
theorem parse_agrees_with_value {text : String} {value : Json.Value}
    (parsed : Json.parse text = .ok value)
    (once : ∀ field, (Draft.givenFields (Draft.writtenMembers text.toList)).count field ≤ 1)
    (endpoint : Endpoint) :
    Endpoint.parse text = .ok endpoint ↔ Endpoint.ofValue value = .ok endpoint := by
  have drafts := Draft.parse_iff_ofValue parsed once
  unfold Endpoint.parse Endpoint.ofValue
  cases read : Draft.parse text with
  | ok draft =>
    rw [(drafts draft).mp read]
  | error _ =>
    cases decoded : Draft.ofValue value with
    | error _ => simp
    | ok draft =>
      rw [(drafts draft).mpr decoded] at read
      cases read

/-- A descriptor with a key that belongs to no field, given twice, an escaped key, and a key of the
response that is given again with another value. -/
def listText : String :=
  "\x7b \"x\": [1, \x7b\"a\": null\x7d], \"\\u006eame\" : \"List\", \"x\": 2, \"METHOD\":\"GET\",\n" ++
    "  \"RESPONSE\": \x7b\"a\": \"string\", \"b\": \"number\", \"a\": [\"q\"]\x7d \x7d"

def listEndpoint : Endpoint where
  name := "List"
  method := "GET"
  parameters := []
  response := .scalars "a" .string (.scalar "b" .number .nil)

theorem listText_agrees_with_value :
    ∃ value, Json.parse listText = .ok value ∧
      (∀ field, (Draft.givenFields (Draft.writtenMembers listText.toList)).count field ≤ 1) ∧
        Endpoint.parse listText = .ok listEndpoint ∧
          Endpoint.ofValue value = .ok listEndpoint := by
  have readable : (Json.parse listText).isOk = true := by decide +kernel
  have given : Draft.givenFields (Draft.writtenMembers listText.toList) =
      [.name, .method, .response] := by
    decide +kernel
  have once : ∀ field,
      (Draft.givenFields (Draft.writtenMembers listText.toList)).count field ≤ 1 := by
    intro field
    rw [given]
    cases field <;> decide
  have read : Endpoint.parse listText = .ok listEndpoint := by decide +kernel
  cases parsed : Json.parse listText with
  | error _ =>
    rw [parsed] at readable
    cases readable
  | ok value =>
    exact ⟨value, rfl, once, read, (parse_agrees_with_value parsed once listEndpoint).mp read⟩

end Endpoint

end RestGraph
