import Mathlib.Data.List.Basic
import RestGraph.Json.Skim
import RestGraph.Proofs.StrictReading
/-!
Skimming against strict reading. A value that the strict reader takes is passed over with the same
rest, so keys that belong to no field do not change what is read behind them.
-/

set_option autoImplicit false

namespace RestGraph.Json

section Numbers

variable {negative : Bool} {significand : Nat} {base : Int} {text : List Char}

private theorem digits_rest (text : List Char) : (digits text).2 = skipDigits text := by
  induction text with
  | nil => rfl
  | cons c rest ih =>
    unfold digits
    by_cases digit : c.isDigit = true
    · simpa [skipDigits, digit] using ih
    · simp [skipDigits, digit]

private theorem skipDigits1_of_digits (found : (digits text).1 ≠ []) :
    ∃ left, skipDigits1 text = .ok left ∧ left.rest = (digits text).2 := by
  cases text with
  | nil => exact absurd rfl found
  | cons c rest =>
    by_cases digit : c.isDigit = true
    · refine ⟨_, if_pos digit, ?_⟩
      rw [digits_rest]
      simp [skipDigits, digit]
    · rw [digits, if_neg digit] at found
      exact absurd rfl found

private theorem skipDigits1_of_exponentDigits {down : Bool} {tail : Tail text}
    (read : exponentDigits negative down significand base text = .ok tail) :
    ∃ left, skipDigits1 text = .ok left ∧ left.rest = tail.rest := by
  unfold exponentDigits at read
  split at read
  · cases text <;> cases read
  · rename_i found
    -- whatever the size of the exponent, only its digits are taken
    have rest : (digits text).2 = tail.rest := by
      dsimp only at read
      split at read
      · obtain ⟨_, -, read⟩ := exists_of_bind_eq_ok read
        exact congrArg Tail.rest (Except.ok.inj read)
      · split at read
        · cases read
        · obtain ⟨_, -, read⟩ := exists_of_bind_eq_ok read
          exact congrArg Tail.rest (Except.ok.inj read)
    rw [← rest]
    exact skipDigits1_of_digits found

private theorem skipSigned_of_exponent {tail : Tail text}
    (read : exponent negative significand base text = .ok tail) :
    ∃ left, skipSigned text = .ok left ∧ left.rest = tail.rest := by
  unfold exponent at read
  split at read
  · obtain ⟨inner, digits, read⟩ := exists_of_bind_eq_ok read
    obtain ⟨left, skipped, same⟩ := skipDigits1_of_exponentDigits digits
    obtain rfl := Except.ok.inj read
    exact ⟨left.after '+', by simp [skipSigned, skipped, bind, Except.bind]; rfl, same⟩
  · obtain ⟨inner, digits, read⟩ := exists_of_bind_eq_ok read
    obtain ⟨left, skipped, same⟩ := skipDigits1_of_exponentDigits digits
    obtain rfl := Except.ok.inj read
    exact ⟨left.after '-', by simp [skipSigned, skipped, bind, Except.bind]; rfl, same⟩
  · rename_i noPlus noMinus
    obtain ⟨left, skipped, same⟩ := skipDigits1_of_exponentDigits read
    refine ⟨left, ?_, same⟩
    cases text with
    | nil => exact skipped
    | cons c rest =>
      have unsigned : ¬ (c = '+' ∨ c = '-') := by
        rintro (rfl | rfl)
        · exact noPlus rest rfl
        · exact noMinus rest rfl
      rw [skipSigned, if_neg unsigned]
      exact skipped

private theorem skipExponent_of_afterFraction {tail : Tail text}
    (read : afterFraction negative significand base text = .ok tail) :
    ∃ left, skipExponent text = .ok left ∧ left.rest = tail.rest := by
  cases text with
  | nil =>
    obtain ⟨_, -, read⟩ := exists_of_bind_eq_ok read
    exact ⟨_, rfl, congrArg Tail.rest (Except.ok.inj read)⟩
  | cons c rest =>
    unfold afterFraction at read
    dsimp only at read
    by_cases mark : c = 'e' ∨ c = 'E'
    · rw [if_pos mark] at read
      obtain ⟨inner, exponent, read⟩ := exists_of_bind_eq_ok read
      obtain ⟨left, skipped, same⟩ := skipSigned_of_exponent exponent
      obtain rfl := Except.ok.inj read
      refine ⟨left.after c, ?_, same⟩
      rw [skipExponent, if_pos mark, skipped]
      rfl
    · rw [if_neg mark] at read
      obtain ⟨_, -, read⟩ := exists_of_bind_eq_ok read
      refine ⟨.all (c :: rest), ?_, congrArg Tail.rest (Except.ok.inj read)⟩
      rw [skipExponent, if_neg mark]
      rfl

private theorem skip_of_fraction {tail : Tail text}
    (read : fraction negative significand base text = .ok tail) :
    ∃ left, skipDigits1 text = .ok left ∧
      ∃ more, skipExponent left.rest = .ok more ∧ more.rest = tail.rest := by
  unfold fraction at read
  split at read
  · cases text <;> cases read
  · rename_i found
    obtain ⟨inner, after, read⟩ := exists_of_bind_eq_ok read
    obtain ⟨left, skipped, rest⟩ := skipDigits1_of_digits found
    obtain ⟨more, exponent, same⟩ := skipExponent_of_afterFraction after
    obtain rfl := Except.ok.inj read
    refine ⟨left, skipped, ?_⟩
    rw [rest]
    exact ⟨more, exponent, same⟩

private theorem skipFraction_of_afterInteger {lost : Nat} {tail : Tail text}
    (read : afterInteger negative significand lost text = .ok tail) :
    ∃ left, skipFraction text = .ok left ∧ left.rest = tail.rest := by
  unfold afterInteger at read
  split at read
  · rename_i rest
    obtain ⟨inner, fraction, read⟩ := exists_of_bind_eq_ok read
    obtain ⟨left, digits, more, exponent, same⟩ := skip_of_fraction fraction
    obtain rfl := Except.ok.inj read
    refine ⟨(more.lengthen rest left.notLonger).after '.', ?_, same⟩
    rw [skipFraction, if_pos rfl, digits]
    show (skipExponent left.rest >>= _) = _
    rw [exponent]
    rfl
  · rename_i noPoint
    -- without a point only an exponent can follow, and an exact integer has none
    have passed : ∃ left, skipExponent text = .ok left ∧ left.rest = tail.rest := by
      split at read
      · rename_i plain
        obtain rfl := Except.ok.inj read
        cases text with
        | nil => exact ⟨_, rfl, rfl⟩
        | cons c rest =>
          have noMark : ¬ (c = 'e' ∨ c = 'E') := by simpa using plain.2
          refine ⟨.all (c :: rest), ?_, rfl⟩
          rw [skipExponent, if_neg noMark]
          rfl
      · exact skipExponent_of_afterFraction read
    cases text with
    | nil => exact passed
    | cons c rest =>
      have other : c ≠ '.' := by
        rintro rfl
        exact noPoint rest rfl
      rw [skipFraction, if_neg other]
      exact passed

private theorem skipUnsigned_of_unsigned {taken : Taken Number text}
    (read : unsigned negative text = .ok taken) :
    ∃ passed, skipUnsigned text = .ok passed ∧ passed.rest = taken.rest := by
  cases text with
  | nil => cases read
  | cons c rest =>
    unfold unsigned at read
    dsimp only at read
    split at read
    · rename_i zero
      split at read
      · cases read
      · rename_i single
        obtain ⟨inner, after, read⟩ := exists_of_bind_eq_ok read
        obtain ⟨left, skipped, same⟩ := skipFraction_of_afterInteger after
        obtain rfl := Except.ok.inj read
        refine ⟨⟨(), left.rest, Nat.lt_succ_of_le left.notLonger⟩, ?_, same⟩
        rw [skipUnsigned, if_pos zero, if_neg single, skipped]
        rfl
    · rename_i nonzero
      split at read
      · rename_i digit
        obtain ⟨inner, after, read⟩ := exists_of_bind_eq_ok read
        obtain ⟨left, skipped, same⟩ :
            ∃ left, skipFraction (skipDigits rest) = .ok left ∧ left.rest = inner.rest := by
          rw [← digits_rest]
          exact skipFraction_of_afterInteger after
        obtain rfl := Except.ok.inj read
        refine ⟨⟨(), left.rest, Nat.lt_succ_of_le
          (Nat.le_trans left.notLonger (skipDigits_length_le rest))⟩, ?_, same⟩
        rw [skipUnsigned, if_neg nonzero, if_pos digit, skipped]
        rfl
      · cases read

private theorem number_of_unsigned (plain : text.head? ≠ some '-') :
    number text = unsigned false text := by
  unfold number
  split
  · exact absurd rfl plain
  · rfl

end Numbers

section Scalars

variable {text : List Char}

private theorem word_unit {α : Type} {value : α} {letters : List Char} {taken : Taken α text}
    (read : word value letters text = .ok taken) :
    ∃ passed, word () letters text = .ok passed ∧ passed.rest = taken.rest := by
  fun_induction word value letters text with
  | case1 | case2 => cases read
  | case3 c rest =>
    obtain rfl := Except.ok.inj read
    exact ⟨.one () c rest, by simp [word], rfl⟩
  | case4 => cases read
  | case5 letters c rest more ih =>
    obtain ⟨inner, letter, read⟩ := exists_of_bind_eq_ok read
    obtain ⟨passed, skipped, same⟩ := ih letter
    obtain rfl := Except.ok.inj read
    refine ⟨passed.after c, ?_, same⟩
    rw [word, if_pos rfl, skipped]
    · rfl
    · exact more
  | case6 => cases read

private theorem skipString_escaped {passed : Taken Unit text} {tail : Taken Unit passed.rest}
    (escaped : skipEscape text = .ok passed) (skipped : skipString passed.rest = .ok tail) :
    skipString ('\x5c' :: text) = .ok ((passed.past tail).after '\x5c') := by
  rw [skipString, if_neg (by decide), if_pos rfl, escaped]
  show (skipString passed.rest >>= _) = _
  rw [skipped]
  rfl

private theorem skipEscape_hexUnit {unit : Taken Nat text} (read : hexUnit text = .ok unit) :
    skipEscape ('u' :: text) = .ok ((unit.map fun _ => ()).after 'u') := by
  rw [skipEscape, if_pos rfl, read]
  rfl

private theorem lowSurrogate_eq_ok {low : Taken Nat text} (read : lowSurrogate text = .ok low) :
    ∃ (rest : List Char) (unit : Taken Nat rest), text = '\x5c' :: 'u' :: rest ∧
      hexUnit rest = .ok unit ∧ low.rest = unit.rest := by
  unfold lowSurrogate at read
  split at read
  · cases read
  · cases read
  · obtain ⟨unit, hex, read⟩ := exists_of_bind_eq_ok read
    split at read
    · exact ⟨_, unit, rfl, hex, (congrArg Taken.rest (Except.ok.inj read)).symm⟩
    · cases read
  · cases read

private theorem skipString_of_escape {plain : Taken Char text} {tail : Taken Unit plain.rest}
    (read : escape text = .ok plain) (skipped : skipString plain.rest = .ok tail) :
    ∃ passed, skipString ('\x5c' :: text) = .ok passed ∧ passed.rest = tail.rest := by
  cases text with
  | nil => cases read
  | cons c rest =>
    unfold escape at read
    dsimp only at read
    split at read
    · rename_i unicode
      subst unicode
      obtain ⟨unit, hex, read⟩ := exists_of_bind_eq_ok read
      have escaped := skipEscape_hexUnit hex
      split at read
      · cases read
      · split at read
        · obtain ⟨low, second, read⟩ := exists_of_bind_eq_ok read
          obtain ⟨more, unit', pair, hex', behind⟩ := lowSurrogate_eq_ok second
          obtain rfl := Except.ok.inj read
          obtain ⟨tail', skipped', same⟩ :
              ∃ tail', skipString unit'.rest = .ok tail' ∧ tail'.rest = tail.rest := by
            rw [← behind]
            exact ⟨tail, skipped, rfl⟩
          obtain ⟨passed, halfway, same'⟩ :
              ∃ passed, skipString unit.rest = .ok passed ∧ passed.rest = tail'.rest := by
            rw [pair]
            exact ⟨_, skipString_escaped (skipEscape_hexUnit hex') skipped', rfl⟩
          exact ⟨_, skipString_escaped escaped halfway, same'.trans same⟩
        · obtain rfl := Except.ok.inj read
          exact ⟨_, skipString_escaped escaped skipped, rfl⟩
    · rename_i short
      split at read
      · rename_i found
        obtain rfl := Except.ok.inj read
        have escaped : skipEscape (c :: rest) = .ok (.one () c rest) := by
          rw [skipEscape, if_neg short, if_pos (by simp [found])]
          rfl
        exact ⟨_, skipString_escaped escaped skipped, rfl⟩
      · cases read

private theorem skipString_of_stringTail {taken : Taken (List Char) text}
    (read : stringTail text = .ok taken) :
    ∃ passed, skipString text = .ok passed ∧ passed.rest = taken.rest := by
  fun_induction stringTail text with
  | case1 => cases read
  | case2 rest =>
    obtain rfl := Except.ok.inj read
    refine ⟨.one () '\x22' rest, ?_, rfl⟩
    rw [skipString, if_pos rfl]
    rfl
  | case3 rest _ ih =>
    obtain ⟨plain, escaped, read⟩ := exists_of_bind_eq_ok read
    obtain ⟨inner, tail, read⟩ := exists_of_bind_eq_ok read
    obtain ⟨passed, skipped, same⟩ := ih plain tail
    obtain ⟨all, skippedAll, behind⟩ := skipString_of_escape escaped skipped
    obtain rfl := Except.ok.inj read
    exact ⟨all, skippedAll, behind.trans same⟩
  | case4 => cases read
  | case5 c rest noQuote noEscape noControl ih =>
    obtain ⟨inner, tail, read⟩ := exists_of_bind_eq_ok read
    obtain ⟨passed, skipped, same⟩ := ih tail
    obtain rfl := Except.ok.inj read
    refine ⟨passed.after c, ?_, same⟩
    rw [skipString, if_neg noQuote, if_neg noEscape, if_neg noControl, skipped]
    rfl

private theorem skipString_of_string {taken : Taken String text}
    (read : string text = .ok taken) :
    ∃ passed, skipString text = .ok passed ∧ passed.rest = taken.rest := by
  obtain ⟨chars, tail, read⟩ := exists_of_bind_eq_ok read
  obtain ⟨passed, skipped, same⟩ := skipString_of_stringTail tail
  obtain rfl := Except.ok.inj read
  exact ⟨passed, skipped, same⟩

private theorem skimWord {α : Type} {value : α} {letters : List Char} {taken : Taken α text}
    (read : word value letters text = .ok taken) (c : Char) :
    ∃ passed : Taken Unit (c :: text),
      (word () letters text >>= fun taken => pure (taken.after c)) = .ok passed ∧
        passed.rest = taken.rest := by
  obtain ⟨passed, skipped, same⟩ := word_unit read
  exact ⟨passed.after c, by rw [skipped]; rfl, same⟩

theorem skipScalar_of_scalar {taken : Taken Value text} (read : scalar text = .ok taken) :
    ∃ passed, skipScalar text = .ok passed ∧ passed.rest = taken.rest := by
  cases text with
  | nil => cases read
  | cons c rest =>
    unfold scalar at read
    unfold skipScalar
    dsimp only at read ⊢
    by_cases null : c = 'n'
    · rw [if_pos null] at read ⊢
      obtain ⟨_, letters, read⟩ := exists_of_bind_eq_ok read
      obtain rfl := Except.ok.inj read
      exact skimWord letters c
    rw [if_neg null] at read ⊢
    by_cases true : c = 't'
    · rw [if_pos true] at read ⊢
      obtain ⟨_, letters, read⟩ := exists_of_bind_eq_ok read
      obtain rfl := Except.ok.inj read
      exact skimWord letters c
    rw [if_neg true] at read ⊢
    by_cases false : c = 'f'
    · rw [if_pos false] at read ⊢
      obtain ⟨_, letters, read⟩ := exists_of_bind_eq_ok read
      obtain rfl := Except.ok.inj read
      exact skimWord letters c
    rw [if_neg false] at read ⊢
    by_cases quote : c = '\x22'
    · rw [if_pos quote] at read ⊢
      obtain ⟨_, chars, read⟩ := exists_of_bind_eq_ok read
      obtain ⟨passed, skipped, same⟩ := skipString_of_string chars
      obtain rfl := Except.ok.inj read
      exact ⟨passed.after c, by rw [skipped]; rfl, same⟩
    rw [if_neg quote] at read ⊢
    by_cases numeral : c = '-' ∨ c.isDigit = Bool.true
    · rw [if_pos numeral] at read
      obtain ⟨inner, digits, read⟩ := exists_of_bind_eq_ok read
      obtain rfl := Except.ok.inj read
      by_cases minus : c = '-'
      · subst minus
        obtain ⟨_, unsigned, signed⟩ := exists_of_bind_eq_ok digits
        obtain ⟨passed, skipped, same⟩ := skipUnsigned_of_unsigned unsigned
        obtain rfl := Except.ok.inj signed
        exact ⟨passed.after '-', by rw [if_pos rfl, skipped]; rfl, same⟩
      · rw [if_neg minus, if_pos (numeral.resolve_left minus)]
        rw [number_of_unsigned (by simpa using minus)] at digits
        exact skipUnsigned_of_unsigned digits
    · rw [if_neg numeral] at read
      cases read

end Scalars

private theorem rest_skimAfter (bracket : Bracket) (outer : List Bracket) (text : List Char) :
    (skimAfter (bracket :: outer) text).map Left.rest =
      match skipGap text with
      | [] => .error (.unfinished bracket.part)
      | c :: rest =>
        if c = ',' then
          match bracket with
          | .array => (skimValue (.array :: outer) rest).map Taken.rest
          | .object => do
            let name ← skipKey rest
            (skimValue (.object :: outer) name.rest).map Taken.rest
        else if c = bracket.close then (skimAfter outer rest).map Left.rest
        else .error bracket.expected := by
  rw [skimAfter]
  split
  · rename_i found
    simp only [found]
    rfl
  · rename_i c rest found
    simp only [found]
    by_cases comma : c = ','
    · rw [if_pos comma, if_pos comma]
      cases bracket with
      | array => cases skimValue (.array :: outer) rest <;> rfl
      | object =>
        cases skipKey rest with
        | error _ => rfl
        | ok name => 
          show (skimValue (.object :: outer) name.rest >>= _).map _ = (skimValue (.object :: outer) name.rest).map Taken.rest
          cases skimValue (.object :: outer) name.rest <;> rfl
    rw [if_neg comma, if_neg comma]
    by_cases close : c = bracket.close
    · rw [if_pos close, if_pos close]
      cases skimAfter outer rest <;> rfl
    · rw [if_neg close, if_neg close]
      rfl

private theorem rest_skimValue (enclosing : List Bracket) (text : List Char) :
    (skimValue enclosing text).map Taken.rest = 
      match skipGap text with
      | [] => .error (.unfinished .value)
      | c :: rest =>
        if c = '[' then
          match skipGap rest with
          | [] => .error (.unfinished .list)
          | d :: more =>
            if d = ']' then (skimAfter enclosing more).map Left.rest
            else (skimValue (.array :: enclosing) rest).map Taken.rest
        else if c = '\x7b' then
          match skipGap rest with
          | [] => .error (.unfinished .object)
          | d :: more =>
            if d = '\x7d' then (skimAfter enclosing more).map Left.rest
            else do
              let name ← skipKey rest
              (skimValue (.object :: enclosing) name.rest).map Taken.rest
        else
          skipScalar (c :: rest) >>= fun passed => (skimAfter enclosing passed.rest).map Left.rest := by
  rw [skimValue]
  split
  · rename_i found
    simp only [found]
    rfl
  · rename_i c rest found
    simp only [found]
    by_cases bracket : c = '['
    · rw [if_pos bracket, if_pos bracket]
      split
      · rename_i found
        simp only [found]
        rfl
      · rename_i d more found
        simp only [found]
        by_cases close : d = ']'
        · rw [if_pos close, if_pos close]
          cases skimAfter enclosing more <;> rfl
        · rw [if_neg close, if_neg close]
          cases skimValue (.array :: enclosing) rest <;> rfl
    rw [if_neg bracket, if_neg bracket]
    by_cases brace : c = '\x7b'
    · rw [if_pos brace, if_pos brace]
      split
      · rename_i found
        simp only [found]
        rfl
      · rename_i d more found
        simp only [found]
        by_cases close : d = '\x7d'
        · rw [if_pos close, if_pos close]
          cases skimAfter enclosing more <;> rfl
        · rw [if_neg close, if_neg close]
          cases skipKey rest with
          | error _ => rfl
          | ok name => 
            show (skimValue (.object :: enclosing) name.rest >>= _).map _ = (skimValue (.object :: enclosing) name.rest).map Taken.rest
            cases skimValue (.object :: enclosing) name.rest <;> rfl
    rw [if_neg brace, if_neg brace]
    cases skipScalar (c :: rest) with
    | error _ => rfl
    | ok passed => 
      show (skimAfter enclosing passed.rest >>= _).map _ = (skimAfter enclosing passed.rest).map _
      cases skimAfter enclosing passed.rest <;> rfl

private theorem skipKey_of_key {text : List Char} {name : Taken String text}
    (read : key text = .ok name) :
    ∃ passed, skipKey text = .ok passed ∧ passed.rest = name.rest := by
  obtain ⟨rest, chars, mark, start, quoted, behind, -, left⟩ := key_eq_ok read
  obtain ⟨passed, skipped, same⟩ := skipString_of_string quoted
  obtain ⟨mark', behind', same'⟩ :
      ∃ mark', colon passed.rest = .ok mark' ∧ mark'.rest = mark.rest := by
    rw [same]
    exact ⟨mark, behind, rfl⟩
  unfold skipKey
  split
  · rename_i found
    rw [start] at found
    cases found
  · rename_i found
    rw [start] at found
    obtain ⟨rfl, rfl⟩ := List.cons.inj found
    refine ⟨(passed.past mark').lengthen text (length_le_of_skipGap start), ?_,
      same'.trans left.symm⟩
    rw [if_pos rfl, skipped]
    show (colon passed.rest >>= _) = _
    rw [behind']
    rfl

/-- Every value that a reader takes is skimmed with the same rest, and the open brackets are closed
behind it. -/
def Skims (element : Reader Value) : Prop :=
  ∀ (text : List Char) (taken : Taken Value text), element text = .ok taken →
    ∀ enclosing, (skimValue enclosing text).map Taken.rest =
      (skimAfter enclosing taken.rest).map Left.rest

section Nesting

variable {element : Reader Value} {text after : List Char}

private theorem Skims.elements {values : List Value} (skims : Skims element)
    (read : ElementsRead element text values after) (enclosing : List Bracket) :
    (skimValue (.array :: enclosing) text).map Taken.rest =
      (skimAfter enclosing after).map Left.rest := by
  induction read with
  | last head mark =>
    rw [skims _ _ head, rest_skimAfter, mark]
    rfl
  | more head mark _ _ _ ih =>
    rw [skims _ _ head, rest_skimAfter, mark]
    exact ih

private theorem Skims.members {members : List (String × Value)} (skims : Skims element)
    (read : MembersRead element text members after) (enclosing : List Bracket) :
    ∃ name, skipKey text = .ok name ∧
      (skimValue (.object :: enclosing) name.rest).map Taken.rest =
        (skimAfter enclosing after).map Left.rest := by
  induction read with
  | last named head mark =>
    obtain ⟨passed, skipped, same⟩ := skipKey_of_key named
    refine ⟨passed, skipped, ?_⟩
    rw [same, skims _ _ head, rest_skimAfter, mark]
    rfl
  | more named head mark _ _ ih =>
    obtain ⟨passed, skipped, same⟩ := skipKey_of_key named
    obtain ⟨next, skippedNext, rest⟩ := ih
    refine ⟨passed, skipped, ?_⟩
    rw [same, skims _ _ head, rest_skimAfter, mark]
    simp only [if_true, skippedNext]
    exact rest

end Nesting

private theorem skimValue_of_valueRead {depth : Nat} {text after : List Char} {v : Value}
    (below : ∀ inner < depth, Skims (value inner)) (read : ValueRead depth text v after)
    (enclosing : List Bracket) :
    (skimValue enclosing text).map Taken.rest = (skimAfter enclosing after).map Left.rest := by
  rw [rest_skimValue]
  cases read with
  | @array depth _ rest inner start listed =>
    simp only [start, if_true]
    rcases items_eq_ok listed with ⟨close, -⟩ | ⟨c, more, first, noBracket, listed⟩
    · simp only [close, if_true]
    · simp only [first, if_neg noBracket]
      exact (below depth (Nat.lt_succ_self depth)).elements listed enclosing
  | @object depth _ rest inner start listed =>
    have noBracket : ('\x7b' : Char) ≠ '[' := by decide
    simp only [start, if_neg noBracket, if_true]
    rcases object_eq_ok listed with ⟨close, -⟩ | ⟨c, more, first, noBrace, listed⟩
    · simp only [close, if_true]
    · obtain ⟨name, named, same⟩ :=
        (below depth (Nat.lt_succ_self depth)).members listed enclosing
      simp only [first, if_neg noBrace, named]
      exact same
  | @scalar _ _ c rest inner start noBracket noBrace plain =>
    obtain ⟨passed, skipped, same⟩ := skipScalar_of_scalar plain
    simp only [start, if_neg noBracket, if_neg noBrace, skipped]
    show (skimAfter enclosing passed.rest).map Left.rest = _
    rw [same]

/-- The strict reader takes nothing that skimming does not pass over. -/
theorem skims_value (depth : Nat) : Skims (value depth) := by
  induction depth using Nat.strongRecOn with
  | ind depth below =>
    intro text taken read enclosing
    exact skimValue_of_valueRead below (valueRead_of_value read) enclosing

theorem skim_of_value {depth : Nat} {text : List Char} {taken : Taken Value text}
    (read : value depth text = .ok taken) :
    ∃ passed, skim text = .ok passed ∧ passed.rest = taken.rest := by
  have skipped := skims_value depth text taken read []
  unfold skim
  cases found : skimValue [] text with
  | error _ =>
    rw [found, skimAfter] at skipped
    cases skipped
  | ok passed =>
    rw [found, skimAfter] at skipped
    exact ⟨passed, rfl, Except.ok.inj skipped⟩

end RestGraph.Json
