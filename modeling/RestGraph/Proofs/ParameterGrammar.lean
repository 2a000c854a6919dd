import RestGraph.Endpoint.Basic
import RestGraph.Proofs.Trimming
/-!
The written form of a parameter as a grammar. A text is cut at its first opening parenthesis and at
the first comma behind it; it is a parameter exactly if it can be cut so and a name stands in front,
and neither white space nor the case of letters nor the closing parenthesis changes what is read.
-/

set_option autoImplicit false

namespace RestGraph

section Cutting

variable {mark : Char}

theorem cutAt_eq_none_iff {cs : List Char} : cutAt mark cs = none ↔ mark ∉ cs := by
  induction cs with
  | nil => simp [cutAt]
  | cons c rest ih =>
    rw [cutAt]
    split
    · rename_i here
      simp [here]
    · rename_i other
      rw [Option.map_eq_none_iff, ih]
      simp [Ne.symm other]

theorem cutAt_append {before : List Char} (fresh : mark ∉ before) (after : List Char) :
    cutAt mark (before ++ mark :: after) = some (before, after) := by
  induction before with
  | nil => simp [cutAt]
  | cons c rest ih =>
    rw [List.mem_cons, not_or] at fresh
    rw [List.cons_append, cutAt, if_neg (Ne.symm fresh.1), ih fresh.2]
    rfl

theorem cutAt_eq_some_iff {cs before after : List Char} :
    cutAt mark cs = some (before, after) ↔ cs = before ++ mark :: after ∧ mark ∉ before := by
  constructor
  · intro cut
    induction cs generalizing before with
    | nil => cases cut
    | cons c rest ih =>
      rw [cutAt] at cut
      split at cut
      · rename_i here
        obtain ⟨rfl, rfl⟩ := Prod.mk.inj (Option.some.inj cut)
        simp [here]
      · rename_i other
        obtain ⟨⟨front, back⟩, further, same⟩ := Option.map_eq_some_iff.mp cut
        obtain ⟨rfl, rfl⟩ := Prod.mk.inj same
        obtain ⟨rfl, fresh⟩ := ih further
        exact ⟨rfl, by simp [fresh, Ne.symm other]⟩
  · rintro ⟨rfl, fresh⟩
    exact cutAt_append fresh after

end Cutting

namespace Scalar

def ofLetters (word : List Char) : Scalar :=
  if word.map Char.toLower = "number".toList then .number
  else if word.map Char.toLower = "boolean".toList then .boolean
  else .string

theorem sameWord_name (kind : Scalar) (word : String) :
    Text.sameWord kind.name word = decide (word.toList.map Char.toLower = kind.name.toList) := by
  have small : kind.name.toList.map Char.toLower = kind.name.toList := by
    cases kind <;> decide
  rw [Bool.eq_iff_iff, Text.sameWord, Text.sameLetters_iff, small, eq_comm, decide_eq_true_iff]

theorem ofTag_ofList (tag : List Char) :
    ofTag (String.ofList tag) = ofLetters (Text.trimChars tag) := by
  have word : (Text.trim (String.ofList tag)).toList = Text.trimChars tag := by simp
  unfold ofTag ofName? all ofLetters
  simp only [sameWord_name, word, List.find?_cons, List.find?_nil]
  generalize (Text.trimChars tag).map Char.toLower = small
  by_cases number : small = "number".toList
  · subst number
    decide
  by_cases boolean : small = "boolean".toList
  · subst boolean
    decide
  by_cases string : small = "string".toList
  · subst string
    decide
  have others : ∀ kind : Scalar, decide (small = kind.name.toList) = false := by
    intro kind
    cases kind with
    | string => exact decide_eq_false string
    | number => exact decide_eq_false number
    | boolean => exact decide_eq_false boolean
  simp only [others, number, boolean, if_false, Option.getD_none]

theorem ofLetters_congr {word other : List Char}
    (same : word.map Char.toLower = other.map Char.toLower) : ofLetters word = ofLetters other := by
  rw [ofLetters, ofLetters, same]

end Scalar

namespace Parameter

structure Opens (text before rest : List Char) : Prop where
  whole : text = before ++ '(' :: rest
  first : '(' ∉ before

structure Parts where
  name : List Char
  tag : List Char
  flag : List Char

/-- A text is cut into parts at its first opening parenthesis and at the first comma behind it. -/
structure Parts.Cut (parts : Parts) (text : List Char) : Prop where
  opens : Opens text parts.name (parts.tag ++ ',' :: parts.flag)
  comma : ',' ∉ parts.tag

structure IsName (word : List Char) : Prop where
  filled : word ≠ []
  solid : ∀ c ∈ word, Text.isBlank c = false

/-- What stands behind the comma asks for a required parameter: without white space and one closing
parenthesis at its end it is the word `required`. -/
def AsksRequired (flag : List Char) : Prop :=
  ∃ inner word, (Text.IsCore flag (inner ++ [')']) ∨
      Text.IsCore flag inner ∧ inner.getLast? ≠ some ')') ∧
    Text.IsCore inner word ∧ word.map Char.toLower = "required".toList

structure Parts.Give (parts : Parts) (parameter : Parameter) : Prop where
  name : Text.IsCore parts.name parameter.name.toList
  named : IsName parameter.name.toList
  kind : ∃ word, Text.IsCore parts.tag word ∧ parameter.kind = Scalar.ofLetters word
  required : parameter.required = true ↔ AsksRequired parts.flag

/-- What a text is read as. Of several things that are wrong with it, the first one counts, from the
parenthesis over the name to the comma. -/
inductive Reads (text : List Char) : Except Fault Parameter → Prop
  | missingOpen : '(' ∉ text → Reads text (.error .missingOpen)
  | emptyName {before rest : List Char} : Opens text before rest → Text.IsCore before [] →
    Reads text (.error .emptyName)
  | blankInName {before rest name : List Char} {c : Char} : Opens text before rest →
    Text.IsCore before name → c ∈ name → Text.isBlank c = true → Reads text (.error .blankInName)
  | missingComma {before rest name : List Char} : Opens text before rest →
    Text.IsCore before name → IsName name → ',' ∉ rest → Reads text (.error .missingComma)
  | accepted {parts : Parts} {parameter : Parameter} : parts.Cut text → parts.Give parameter →
    Reads text (.ok parameter)

section Reading

variable {parts other : Parts} {text before rest : List Char} {input : String}
  {parameter : Parameter} {result : Except Fault Parameter}

theorem cutAt_of_opens (opens : Opens text before rest) : cutAt '(' text = some (before, rest) :=
  cutAt_eq_some_iff.mpr ⟨opens.whole, opens.first⟩

theorem Parts.Cut.unique (cut : parts.Cut text) (again : other.Cut text) : parts = other := by
  have opened := (cutAt_of_opens cut.opens).symm.trans (cutAt_of_opens again.opens)
  obtain ⟨names, rests⟩ := Prod.mk.inj (Option.some.inj opened)
  have divided := cutAt_append cut.comma parts.flag
  rw [rests, cutAt_append again.comma other.flag] at divided
  obtain ⟨tags, flags⟩ := Prod.mk.inj (Option.some.inj divided)
  cases parts
  cases other
  simp_all

theorem isRequiredFlag_iff (flag : List Char) :
    isRequiredFlag flag = true ↔ AsksRequired flag := by
  have small : "required".toList.map Char.toLower = "required".toList := by decide
  rw [isRequiredFlag, Text.sameLetters_iff, small]
  constructor
  · intro letters
    refine ⟨dropClose (Text.trimChars flag), _, ?_, Text.isCore_trimChars _, letters⟩
    unfold dropClose
    split
    · rename_i closed
      left
      rw [List.dropLast_append_getLast? _ closed]
      exact Text.isCore_trimChars flag
    · rename_i unclosed
      exact .inr ⟨Text.isCore_trimChars flag, unclosed⟩
  · rintro ⟨inner, word, around, core, letters⟩
    have opened : dropClose (Text.trimChars flag) = inner := by
      unfold dropClose
      rcases around with closed | ⟨whole, unclosed⟩
      · rw [Text.isCore_iff.mp closed, if_pos List.getLast?_concat, List.dropLast_concat]
      · rw [Text.isCore_iff.mp whole, if_neg unclosed]
    rw [opened, Text.isCore_iff.mp core]
    exact letters

theorem parse_of_opens (opens : Opens input.toList before rest) :
    parse input =
      if (Text.trimChars before).isEmpty then .error .emptyName
      else if (Text.trimChars before).any Text.isBlank then .error .blankInName
      else
        match cutAt ',' rest with
        | none => .error .missingComma
        | some (tag, flag) => .ok ⟨String.ofList (Text.trimChars before),
            Scalar.ofTag (String.ofList tag), isRequiredFlag flag⟩ := by
  unfold parse
  split
  · rename_i uncut
    rw [cutAt_of_opens opens] at uncut
    cases uncut
  · rename_i cut
    rw [cutAt_of_opens opens] at cut
    obtain ⟨rfl, rfl⟩ := Prod.mk.inj (Option.some.inj cut)
    rfl

theorem isName_iff (word : List Char) :
    IsName word ↔ word.isEmpty = false ∧ word.any Text.isBlank = false := by
  constructor
  · rintro ⟨filled, solid⟩
    exact ⟨List.isEmpty_eq_false_iff.mpr filled, List.any_eq_false.mpr (by simpa using solid)⟩
  · rintro ⟨filled, solid⟩
    exact ⟨List.isEmpty_eq_false_iff.mp filled, by simpa using List.any_eq_false.mp solid⟩

theorem give_of_isName {name : List Char} (flag : List Char) (core : Text.IsCore before name)
    (named : IsName name) (tag : List Char) :
    Parts.Give ⟨before, tag, flag⟩
      ⟨String.ofList name, Scalar.ofTag (String.ofList tag), isRequiredFlag flag⟩ where
  name := by rwa [String.toList_ofList]
  named := by rwa [String.toList_ofList]
  kind := by
    refine ⟨_, Text.isCore_trimChars tag, ?_⟩
    dsimp only
    rw [Scalar.ofTag_ofList]
  required := isRequiredFlag_iff flag

theorem reads_parse (input : String) : Reads input.toList (parse input) := by
  cases opening : cutAt '(' input.toList with
  | none =>
    rw [parse, opening]
    exact .missingOpen (cutAt_eq_none_iff.mp opening)
  | some parts =>
    obtain ⟨before, rest⟩ := parts
    obtain ⟨whole, first⟩ := cutAt_eq_some_iff.mp opening
    have opens : Opens input.toList before rest := ⟨whole, first⟩
    have core := Text.isCore_trimChars before
    rw [parse_of_opens opens]
    split
    · rename_i empty
      rw [List.isEmpty_iff.mp empty] at core
      exact .emptyName opens core
    rename_i filled
    split
    · rename_i blank
      obtain ⟨c, mem, isBlank⟩ := List.any_eq_true.mp blank
      exact .blankInName opens core mem isBlank
    rename_i solid
    have named : IsName (Text.trimChars before) :=
      (isName_iff _).mpr ⟨eq_false_of_ne_true filled, eq_false_of_ne_true solid⟩
    cases comma : cutAt ',' rest with
    | none => exact .missingComma opens core named (cutAt_eq_none_iff.mp comma)
    | some parts =>
      obtain ⟨tag, flag⟩ := parts
      obtain ⟨rfl, fresh⟩ := cutAt_eq_some_iff.mp comma
      have cut : Parts.Cut ⟨before, tag, flag⟩ input.toList := ⟨opens, fresh⟩
      exact .accepted cut (give_of_isName flag core named tag)

theorem parse_of_reads (reads : Reads input.toList result) : parse input = result := by
  cases reads with
  | missingOpen absent => rw [parse, cutAt_eq_none_iff.mpr absent]
  | @emptyName before _ opens core =>
    have empty : (Text.trimChars before).isEmpty = true := by
      rw [Text.isCore_iff.mp core]
      rfl
    rw [parse_of_opens opens, if_pos empty]
  | @blankInName _ _ name c opens core mem blank =>
    have filled : ¬ name.isEmpty = true := by
      rw [List.isEmpty_iff]
      exact List.ne_nil_of_mem mem
    rw [parse_of_opens opens, Text.isCore_iff.mp core, if_neg filled,
      if_pos (List.any_eq_true.mpr ⟨c, mem, blank⟩)]
  | missingComma opens core named absent =>
    obtain ⟨filled, solid⟩ := (isName_iff _).mp named
    rw [parse_of_opens opens, Text.isCore_iff.mp core, if_neg (by simp [filled]),
      if_neg (by simp [solid]), cutAt_eq_none_iff.mpr absent]
  | @accepted parts parameter cut gives =>
    obtain ⟨core, named, ⟨word, tagCore, kind⟩, required⟩ := gives
    obtain ⟨filled, solid⟩ := (isName_iff _).mp named
    rw [parse_of_opens cut.opens, Text.isCore_iff.mp core, if_neg (by simp [filled]),
      if_neg (by simp [solid]), cutAt_append cut.comma]
    have flags : isRequiredFlag parts.flag = parameter.required := by
      rw [Bool.eq_iff_iff, isRequiredFlag_iff, required]
    simp only [Scalar.ofTag_ofList, Text.isCore_iff.mp tagCore, ← kind, flags,
      String.ofList_toList]

theorem parse_eq_iff : parse input = result ↔ Reads input.toList result := by
  constructor
  · rintro rfl
    exact reads_parse input
  · exact parse_of_reads

end Reading

structure Padded where
  before : List Char
  word : List Char
  after : List Char
  blankBefore : ∀ c ∈ before, Text.isBlank c = true
  blankAfter : ∀ c ∈ after, Text.isBlank c = true

def Padded.ofBlanks (before word after : List Char) (front : before.all Text.isBlank = true)
    (behind : after.all Text.isBlank = true) : Padded where
  before := before
  word := word
  after := after
  blankBefore := List.all_eq_true.mp front
  blankAfter := List.all_eq_true.mp behind

def Padded.text (padded : Padded) : List Char :=
  padded.before ++ padded.word ++ padded.after

/-- A way to write a parameter. The closing parenthesis may be missing; the white space behind it
belongs to it. -/
structure Spelling where
  name : Padded
  tag : Padded
  flag : Padded
  closing : Option {after : List Char // ∀ c ∈ after, Text.isBlank c = true}
  named : IsName name.word
  opening : '(' ∉ name.word
  comma : ',' ∉ tag.word
  unclosed : (Text.trimChars flag.word).getLast? ≠ some ')'

namespace Spelling

def ending (spelling : Spelling) : List Char :=
  match spelling.closing with
  | none => []
  | some after => ')' :: after.val

def text (spelling : Spelling) : String :=
  String.ofList (spelling.name.text ++
    '(' :: (spelling.tag.text ++ ',' :: (spelling.flag.text ++ spelling.ending)))

/-- Two ways to write one parameter: they have the same name, and their types and flags differ in
the case of letters at most. -/
structure Alike (spelling other : Spelling) : Prop where
  name : spelling.name.word = other.name.word
  tag : spelling.tag.word.map Char.toLower = other.tag.word.map Char.toLower
  flag : spelling.flag.word.map Char.toLower = other.flag.word.map Char.toLower

def parameter (spelling : Spelling) : Parameter where
  name := String.ofList spelling.name.word
  kind := Scalar.ofLetters (Text.trimChars spelling.tag.word)
  required := Text.sameLetters (Text.trimChars spelling.flag.word) "required".toList

end Spelling

section Spelled

theorem Padded.not_mem_text (padded : Padded) {c : Char} (solid : Text.isBlank c = false)
    (absent : c ∉ padded.word) : c ∉ padded.text := by
  intro mem
  rcases List.mem_append.mp mem with front | behind
  · rcases List.mem_append.mp front with before | word
    · rw [padded.blankBefore c before] at solid
      cases solid
    · exact absent word
  · rw [padded.blankAfter c behind] at solid
    cases solid

theorem Padded.trimChars_text (padded : Padded) :
    Text.trimChars padded.text = Text.trimChars padded.word :=
  Text.trimChars_append padded.blankBefore padded.blankAfter

theorem Spelling.isRequiredFlag_ending (spelling : Spelling) :
    isRequiredFlag (spelling.flag.text ++ spelling.ending) = spelling.parameter.required := by
  have core : Text.trimChars (dropClose (Text.trimChars (spelling.flag.text ++ spelling.ending))) =
      Text.trimChars spelling.flag.word := by
    unfold ending
    cases spelling.closing with
    | none =>
      rw [List.append_nil, Padded.trimChars_text, dropClose, if_neg spelling.unclosed,
        Text.trimChars_trimChars]
    | some after =>
      have solid : Text.isBlank ')' = false := by decide
      rw [Text.trimChars_append_cons solid after.property, dropClose,
        if_pos List.getLast?_concat, List.dropLast_concat, Text.trimChars_trimStart,
        Padded.trimChars_text]
  rw [isRequiredFlag, core]
  rfl

theorem Spelling.parse_text (spelling : Spelling) :
    parse spelling.text = .ok spelling.parameter := by
  apply parse_of_reads
  have cut : Parts.Cut ⟨spelling.name.text, spelling.tag.text,
      spelling.flag.text ++ spelling.ending⟩ spelling.text.toList := by
    refine ⟨⟨String.toList_ofList, ?_⟩, ?_⟩
    · exact spelling.name.not_mem_text (by decide) spelling.opening
    · exact spelling.tag.not_mem_text (by decide) spelling.comma
  refine .accepted cut ⟨?_, ?_, ?_, ?_⟩
  · rw [Text.isCore_iff, Padded.trimChars_text,
      Text.trimChars_of_filled spelling.named.solid]
    exact String.toList_ofList.symm
  · rw [parameter, String.toList_ofList]
    exact spelling.named
  · exact ⟨_, Text.isCore_iff.mpr spelling.tag.trimChars_text, rfl⟩
  · rw [← isRequiredFlag_iff, isRequiredFlag_ending]

theorem Spelling.Alike.parameter_eq {spelling other : Spelling} (alike : spelling.Alike other) :
    spelling.parameter = other.parameter := by
  have tags := Text.map_toLower_trimChars spelling.tag.word
  rw [alike.tag, ← Text.map_toLower_trimChars] at tags
  have flags := Text.map_toLower_trimChars spelling.flag.word
  rw [alike.flag, ← Text.map_toLower_trimChars] at flags
  unfold parameter
  rw [alike.name, Scalar.ofLetters_congr tags, Text.sameLetters, flags, Text.sameLetters]

end Spelled

theorem parseParameters_eq_error_iff (input : String) (fault : Fault) :
    Endpoint.parseParameters [input] = .error (.parameter input fault) ↔
      parse input = .error fault := by
  cases read : parse input with
  | error other => simp [Endpoint.parseParameters, read]
  | ok parameter =>
    rw [Endpoint.parseParameters, read]
    constructor <;> intro refused <;> cases refused

/-- The reader of parameters accepts exactly its grammar. A text is a parameter if and only if it
can be cut into parts and the first of them is a name with white space around it; the cut is unique
and decides what is read. Otherwise the first thing that is wrong is reported with the text. How
much white space stands around the words, the case of the letters of type and flag, and the closing
parenthesis make no difference. -/
theorem parse_accepts_grammar :
    (∀ input, (∃ parameter, parse input = .ok parameter) ↔
      ∃ parts name, Parts.Cut parts input.toList ∧ Text.IsCore parts.name name ∧ IsName name) ∧
    (∀ text parts other, Parts.Cut parts text → Parts.Cut other text → parts = other) ∧
    (∀ input result, parse input = result ↔ Reads input.toList result) ∧
    (∀ input fault, parse input = .error fault ↔
      Endpoint.parseParameters [input] = .error (.parameter input fault)) ∧
    ∀ spelling other : Spelling, spelling.Alike other →
      ∃ parameter, parameter.name.toList = spelling.name.word ∧
        parse spelling.text = .ok parameter ∧ parse other.text = .ok parameter := by
  refine ⟨?_, ?_, fun input result => parse_eq_iff, ?_, ?_⟩
  · intro input
    constructor
    · rintro ⟨parameter, read⟩
      cases parse_eq_iff.mp read with
      | accepted cut gives => exact ⟨_, _, cut, gives.name, gives.named⟩
    · rintro ⟨parts, name, cut, core, named⟩
      exact ⟨_, parse_eq_iff.mpr (.accepted cut (give_of_isName parts.flag core named parts.tag))⟩
  · intro text parts other cut again
    exact cut.unique again
  · intro input fault
    exact (parseParameters_eq_error_iff input fault).symm
  · intro spelling other alike
    refine ⟨spelling.parameter, String.toList_ofList, spelling.parse_text, ?_⟩
    rw [other.parse_text, alike.parameter_eq]

def plainId : Spelling where
  name := .ofBlanks [] "id".toList [' '] (by decide) (by decide)
  tag := .ofBlanks [] "string".toList [] (by decide) (by decide)
  flag := .ofBlanks [' '] "required".toList [] (by decide) (by decide)
  closing := some ⟨[], List.all_eq_true.mp rfl⟩
  named := (isName_iff _).mpr (by decide)
  opening := by decide
  comma := by decide
  unclosed := by decide

def looseId : Spelling where
  name := .ofBlanks ['\t'] "id".toList [] (by decide) (by decide)
  tag := .ofBlanks ['\u00a0'] "String".toList [' '] (by decide) (by decide)
  flag := .ofBlanks ['\n'] "REQUIRED".toList ['\u3000'] (by decide) (by decide)
  closing := none
  named := (isName_iff _).mpr (by decide)
  opening := by decide
  comma := by decide
  unclosed := by decide

theorem plainId_reads_as_looseId :
    plainId.text = "id (string, required)" ∧
      looseId.text = "\tid(\u00a0String ,\nREQUIRED\u3000" ∧ plainId.Alike looseId ∧
      Parts.Cut ⟨"id ".toList, "string".toList, " required)".toList⟩ plainId.text.toList ∧
      (∃ parameter, parameter.name.toList = "id".toList ∧
        parse plainId.text = .ok parameter ∧ parse looseId.text = .ok parameter) ∧
      plainId.tag.text = "string".toList := by
  obtain ⟨-, unique, -, -, spelled⟩ := parse_accepts_grammar
  have alike : plainId.Alike looseId := ⟨by decide, by decide, by decide⟩
  have cut : Parts.Cut ⟨"id ".toList, "string".toList, " required)".toList⟩ plainId.text.toList :=
    ⟨⟨by decide, by decide⟩, by decide⟩
  have again : Parts.Cut ⟨plainId.name.text, plainId.tag.text, plainId.flag.text ++ [')']⟩
      plainId.text.toList := ⟨⟨by decide, by decide⟩, by decide⟩
  exact ⟨by decide, by decide, alike, cut, spelled plainId looseId alike,
    (congrArg Parts.tag (unique _ _ _ cut again)).symm⟩

end Parameter

end RestGraph
