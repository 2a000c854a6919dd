import RestGraph.Proofs.ParameterGrammar
/-!
Parameters that are written and read again. The written form of a parameter is one of the spellings
of its grammar if the name can stand in front of the parenthesis, and every name that was read can.
So writing a parameter and reading it again loses nothing exactly for such names.
-/

set_option autoImplicit false

namespace RestGraph

theorem Scalar.ofLetters_name (kind : Scalar) :
    Scalar.ofLetters (Text.trimChars kind.name.toList) = kind := by
  cases kind <;> decide +kernel

theorem Scalar.comma_not_mem_name (kind : Scalar) : ',' ∉ kind.name.toList := by
  cases kind <;> decide

namespace Parameter

/-- A name that can be written in front of an opening parenthesis: it is not empty, and there is
neither white space nor an opening parenthesis in it. -/
structure IsWritable (word : List Char) : Prop extends IsName word where
  opening : '(' ∉ word

theorem blank_nil : ∀ c ∈ [], Text.isBlank c = true :=
  List.all_eq_true.mp rfl

theorem blank_space : ∀ c ∈ [' '], Text.isBlank c = true :=
  List.all_eq_true.mp rfl

theorem flag_unclosed (parameter : Parameter) :
    (Text.trimChars parameter.flag.toList).getLast? ≠ some ')' := by
  unfold flag
  cases parameter.required <;> decide +kernel

theorem sameLetters_flag (parameter : Parameter) :
    Text.sameLetters (Text.trimChars parameter.flag.toList) "required".toList =
      parameter.required := by
  unfold flag
  cases parameter.required <;> decide +kernel

def spelling (parameter : Parameter) (writable : IsWritable parameter.name.toList) : Spelling where
  name := ⟨[], parameter.name.toList, [' '], blank_nil, blank_space⟩
  tag := ⟨[], parameter.kind.name.toList, [], blank_nil, blank_nil⟩
  flag := ⟨[' '], parameter.flag.toList, [], blank_space, blank_nil⟩
  closing := some ⟨[], blank_nil⟩
  named := writable.toIsName
  opening := writable.opening
  comma := parameter.kind.comma_not_mem_name
  unclosed := parameter.flag_unclosed

section Writing

variable {parameter : Parameter} {input : String}

theorem text_spelling (writable : IsWritable parameter.name.toList) :
    (parameter.spelling writable).text = parameter.written := by
  apply String.toList_injective
  simp [Spelling.text, Spelling.ending, spelling, Padded.text, written]

theorem parameter_spelling (writable : IsWritable parameter.name.toList) :
    (parameter.spelling writable).parameter = parameter := by
  have name : String.ofList parameter.name.toList = parameter.name := String.ofList_toList
  show Parameter.mk _ _ _ = Parameter.mk parameter.name parameter.kind parameter.required
  rw [Parameter.mk.injEq]
  exact ⟨name, Scalar.ofLetters_name parameter.kind, sameLetters_flag parameter⟩

theorem parse_written (writable : IsWritable parameter.name.toList) :
    parse parameter.written = .ok parameter := by
  rw [← text_spelling writable, Spelling.parse_text, parameter_spelling]

theorem isWritable_of_parse (read : parse input = .ok parameter) :
    IsWritable parameter.name.toList := by
  cases parse_eq_iff.mp read with
  | accepted cut gives =>
    refine ⟨gives.named, fun opening => ?_⟩
    exact cut.opens.first (gives.name.subset opening)

end Writing

/-- Writing a parameter and reading it again gives the same parameter exactly if its name can be
written. Every parameter that was read has such a name, so the written form of what was read is
read alike. -/
theorem written_reads_back :
    (∀ parameter, parse parameter.written = .ok parameter ↔
      IsWritable parameter.name.toList) ∧
    (∀ input parameter, parse input = .ok parameter → IsWritable parameter.name.toList) ∧
    ∀ input parameter, parse input = .ok parameter →
      parse parameter.written = .ok parameter := by
  refine ⟨fun parameter => ⟨isWritable_of_parse, parse_written⟩, ?_, ?_⟩
  · intro input parameter read
    exact isWritable_of_parse read
  · intro input parameter read
    exact parse_written (isWritable_of_parse read)

theorem oddName_reads_back :
    let input := "\t$a,b)\u00a0(x(, Required\u3000)"
    let parameter : Parameter := ⟨"$a,b)", .string, true⟩
    parse input = .ok parameter ∧ parameter.written = "$a,b) (string, required)" ∧
      IsWritable parameter.name.toList ∧ parse parameter.written = .ok parameter := by
  intro input parameter
  have read : parse input = .ok parameter := by decide +kernel
  obtain ⟨-, writable, again⟩ := written_reads_back
  exact ⟨read, by decide +kernel, writable input parameter read, again input parameter read⟩

end Parameter

end RestGraph
