import RestGraph.Endpoint.OfText
import RestGraph.Proofs.AbsentMarks
import RestGraph.Proofs.DraftConversion
import RestGraph.Proofs.RenderedLines
import RestGraph.Resolver
/-!
String literals. Whatever a value holds, its literal is read back up to the closing quote and no
further. The characters that end a line are written as they are, though, so the literals of a
resolver stay on their lines exactly when the values do.
-/

set_option autoImplicit false

namespace RestGraph

/-- Reads a literal from behind its opening quote: a backslash takes the next character as it
stands, and the first quote that is not taken in this way ends the literal. What was read is
returned with what follows the closing quote. -/
def readLiteral : List Char → Option (List Char × List Char)
  | [] => none
  | '\x27' :: rest => some ([], rest)
  | ['\x5c'] => none
  | '\x5c' :: c :: rest => (readLiteral rest).map fun (value, behind) => (c :: value, behind)
  | c :: rest => (readLiteral rest).map fun (value, behind) => (c :: value, behind)

def substitute (mark : Char) (written : List Char) (cs : List Char) : List Char :=
  cs.flatMap fun c => if c = mark then written else [c]

theorem toList_literal (text : String) :
    (literal text).toList = '\x27' :: (text.toList.flatMap literalChar ++ ['\x27']) :=
  String.toList_ofList

/-- Backslashes first: those in front of the quotes are not doubled. -/
theorem substitute_substitute (cs : List Char) :
    substitute '\x27' ['\x5c', '\x27'] (substitute '\x5c' ['\x5c', '\x5c'] cs) =
      cs.flatMap literalChar := by
  rw [substitute, substitute, List.flatMap_assoc]
  refine List.flatMap_congr fun c _ => ?_
  by_cases backslash : c = '\x5c'
  · subst backslash
    decide
  by_cases quote : c = '\x27'
  · subst quote
    decide
  · simp [literalChar, backslash, quote]

theorem readLiteral_cons {c : Char} (quote : c ≠ '\x27') (backslash : c ≠ '\x5c')
    (rest : List Char) :
    readLiteral (c :: rest) =
      (readLiteral rest).map fun (value, behind) => (c :: value, behind) := by
  rw [readLiteral.eq_def]
  split <;> simp_all

theorem readLiteral_flatMap (cs following : List Char) :
    readLiteral (cs.flatMap literalChar ++ '\x27' :: following) = some (cs, following) := by
  induction cs with
  | nil => rfl
  | cons c cs ih =>
    rw [List.flatMap_cons, List.append_assoc, literalChar]
    split
    · rw [List.cons_append, List.singleton_append, readLiteral, ih]
      rfl
    · -- neither a quote nor a backslash, so the character stands for itself
      rename_i plain
      rw [not_or] at plain
      rw [List.singleton_append, readLiteral_cons plain.2 plain.1, ih]
      rfl

theorem readLiteral_literal (text : String) (following : List Char) :
    readLiteral ((literal text).toList.tail ++ following) = some (text.toList, following) := by
  rw [toList_literal, List.tail_cons, List.append_assoc, List.singleton_append,
    readLiteral_flatMap]

/-- A literal keeps its value in. Read from behind its opening quote, with anything behind it, it
ends where it was written to end and gives the value back; so literals of different values differ.
Its inside is the value with the backslashes doubled first, and then a backslash in front of each
quote. -/
theorem literal_reads_back (text following : String) :
    (∃ inside, (literal text ++ following).toList = '\x27' :: inside ∧
      readLiteral inside = some (text.toList, following.toList)) ∧
    (literal text).toList =
      '\x27' :: (substitute '\x27' ['\x5c', '\x27']
        (substitute '\x5c' ['\x5c', '\x5c'] text.toList) ++ ['\x27']) ∧
    ∀ other : String, literal text = literal other → text = other := by
  refine ⟨⟨(literal text).toList.tail ++ following.toList, ?_, ?_⟩, ?_, fun other same => ?_⟩
  · rw [String.toList_append, toList_literal]
    rfl
  · exact readLiteral_literal text following.toList
  · rw [substitute_substitute]
    exact toList_literal text
  · have read := readLiteral_literal text []
    rw [same, readLiteral_literal] at read
    exact (String.toList_inj.mp (congrArg Prod.fst (Option.some.inj read))).symm

namespace Text

/-- A text without the characters that end a line and must not stand in a string literal as they
are. -/
def StaysOnLine (text : String) : Prop :=
  Lacks '\n' text ∧ Lacks '\r' text

instance (text : String) : Decidable (StaysOnLine text) :=
  inferInstanceAs (Decidable (_ ∧ _))

theorem lacks_literal {mark : Char} (quote : mark ≠ '\x27') (backslash : mark ≠ '\x5c')
    {text : String} : Lacks mark (literal text) ↔ Lacks mark text := by
  have spelled (c : Char) : mark ∈ literalChar c ↔ mark = c := by
    unfold literalChar
    split <;> simp [backslash]
  rw [Lacks, Lacks, toList_literal]
  simp [spelled, quote]

theorem staysOnLine_literal {text : String} :
    StaysOnLine (literal text) ↔ StaysOnLine text :=
  and_congr (lacks_literal (by decide) (by decide)) (lacks_literal (by decide) (by decide))

end Text

open Text (StaysOnLine)

def Document.Quotes (document : Document) (value : String) : Prop :=
  ∃ before behind, before ++ literal value ++ behind ∈ document.texts

structure Quotation where
  value : String
  document : Document

def Resolver.quotations (resolver : Resolver) : List Quotation :=
  [⟨resolver.endpoint, resolver.document⟩, ⟨resolver.method, resolver.document⟩,
    ⟨resolver.requestModule, resolver.imports⟩, ⟨resolver.contextModule, resolver.imports⟩]

theorem Resolver.call_mem_texts (resolver : Resolver) :
    "const res = await requestAPI(ctx, " ++ literal resolver.endpoint ++ ", " ++
      literal resolver.method ++ ", " ++ resolver.argumentObject ++ ");" ∈
        resolver.document.texts := by
  simp [document, methodDocument, methodBody, Document.texts, Document.ofLines]

theorem Resolver.quotes_quotations (resolver : Resolver) :
    ∀ quotation ∈ resolver.quotations, quotation.document.Quotes quotation.value := by
  have call := resolver.call_mem_texts
  have name : resolver.document.Quotes resolver.endpoint := by
    refine ⟨"const res = await requestAPI(ctx, ",
      ", " ++ literal resolver.method ++ ", " ++ resolver.argumentObject ++ ");", ?_⟩
    simpa only [String.append_assoc] using call
  have method : resolver.document.Quotes resolver.method := by
    refine ⟨"const res = await requestAPI(ctx, " ++ literal resolver.endpoint ++ ", ",
      ", " ++ resolver.argumentObject ++ ");", ?_⟩
    simpa only [String.append_assoc] using call
  have request : resolver.imports.Quotes resolver.requestModule :=
    ⟨"import \x7b requestAPI \x7d from ", ";", by simp [imports, Document.texts, Document.ofLines]⟩
  have context : resolver.imports.Quotes resolver.contextModule :=
    ⟨"import \x7b Context \x7d from ", ";", by simp [imports, Document.texts, Document.ofLines]⟩
  simp [quotations, name, method, request, context]

namespace Endpoint

/-- The literals of a resolver stay on their lines exactly when the values do: the name in the draft
without the white space around it, the method as it is written there, and the two modules. -/
theorem literals_stay_on_line_iff {draft : Draft} {endpoint : Endpoint}
    (converted : ofDraft draft = .ok endpoint) (options : Options) :
    let quotations := (Resolver.ofEndpoint options endpoint).quotations
    (∀ quotation ∈ quotations, quotation.document.Quotes quotation.value) ∧
    ((∀ quotation ∈ quotations, StaysOnLine (literal quotation.value)) ↔
      ∀ value ∈ [Text.trim draft.name, draft.method, options.requestModule,
        options.contextModule], StaysOnLine value) := by
  intro quotations
  have described := ofDraft_eq_ok_iff.mp converted
  have name : Text.trim draft.name = endpoint.name := by
    rw [Text.trim, Text.isCore_iff.mp described.name, String.ofList_toList]
  refine ⟨Resolver.quotes_quotations _, ?_⟩
  rw [name, ← described.method]
  simp only [Text.staysOnLine_literal]
  exact List.forall_mem_map.symm

theorem padded_name_stays_on_line :
    let draft : Draft := ⟨"\nGetItem\r\n", "it's", [], [("id", .str "string")]⟩
    let endpoint : Endpoint := ⟨"GetItem", "it's", [], .scalar "id" .string .nil⟩
    ofDraft draft = .ok endpoint ∧
      ∀ quotation ∈ (Resolver.ofEndpoint {} endpoint).quotations,
        StaysOnLine (literal quotation.value) := by
  intro draft endpoint
  have converted : ofDraft draft = .ok endpoint := by decide +kernel
  have values : ∀ value ∈ [Text.trim draft.name, draft.method, "../../utils/request",
      "overlord-server"], StaysOnLine value := by decide +kernel
  exact ⟨converted, (literals_stay_on_line_iff converted {}).2.mpr values⟩

/-- Not every literal stays on its line: a method is taken with the line feed behind it, and quoted
with it. -/
theorem not_every_literal_stays_on_line :
    ¬ ∀ (text : String) (endpoint : Endpoint) (options : Options),
      Endpoint.parse text = .ok endpoint → options.check = .ok () →
      ∀ quotation ∈ (Resolver.ofEndpoint options endpoint).quotations,
        StaysOnLine (literal quotation.value) := by
  intro onLine
  let text := "\x7b\"API_NAME\":\"GetItem\",\"METHOD\":\"GET\\n\"," ++
    "\"RESPONSE\":\x7b\"id\":\"string\"\x7d\x7d"
  let endpoint : Endpoint := ⟨"GetItem", "GET\n", [], .scalar "id" .string .nil⟩
  have parsed : Endpoint.parse text = .ok endpoint := by decide +kernel
  have accepted : ({} : Options).check = .ok () := by decide +kernel
  have quoted := onLine text endpoint {} parsed accepted
    ⟨"GET\n", (Resolver.ofEndpoint {} endpoint).document⟩ (.tail _ (.head _))
  revert quoted
  decide +kernel

end Endpoint

end RestGraph
