import Mathlib.Data.List.Basic
import RestGraph.Scalar
/-!
White space around words. What is left of a text after trimming is the part that begins and ends
with a character that is not blank, and neither white space around a word nor the case of its
letters changes what is left in any other way.
-/

set_option autoImplicit false

namespace RestGraph.Text

/-- A text consists of a core with white space around it, and the core begins and ends with a
character that is not blank, if it has any. -/
structure IsCore (text core : List Char) : Prop where
  around : ∃ before after, text = before ++ core ++ after ∧
    (∀ c ∈ before, isBlank c = true) ∧ ∀ c ∈ after, isBlank c = true
  first : ∀ c, core.head? = some c → isBlank c = false
  last : ∀ c, core.getLast? = some c → isBlank c = false

theorem IsCore.subset {text core : List Char} (inside : IsCore text core) : core ⊆ text := by
  obtain ⟨⟨before, after, rfl, -, -⟩, -, -⟩ := inside
  intro c mem
  exact List.mem_append_left _ (List.mem_append_right _ mem)

section Trimming

variable {before word after : List Char}

theorem trimStart_append (blank : ∀ c ∈ before, isBlank c = true) :
    trimStart (before ++ word) = trimStart word :=
  List.dropWhile_append_of_pos blank

theorem trimEnd_append (blank : ∀ c ∈ after, isBlank c = true) :
    trimEnd (word ++ after) = trimEnd word := by
  have reversed : ∀ c ∈ after.reverse, isBlank c = true := by
    intro c mem
    exact blank c (List.mem_reverse.mp mem)
  rw [trimEnd, trimEnd, List.reverse_append, List.dropWhile_append_of_pos reversed]

theorem trimStart_of_first (first : ∀ c, word.head? = some c → isBlank c = false) :
    trimStart word = word := by
  cases word with
  | nil => rfl
  | cons c rest => exact List.dropWhile_cons_of_neg (by simp [first c rfl])

theorem trimEnd_of_last (last : ∀ c, word.getLast? = some c → isBlank c = false) :
    trimEnd word = word := by
  have reversed : trimStart word.reverse = word.reverse := by
    apply trimStart_of_first
    intro c head
    exact last c (by rwa [List.head?_reverse] at head)
  rw [trimStart] at reversed
  rw [trimEnd, reversed, List.reverse_reverse]

theorem exists_trimStart (text : List Char) :
    ∃ before, text = before ++ trimStart text ∧ ∀ c ∈ before, isBlank c = true :=
  ⟨text.takeWhile isBlank, List.takeWhile_append_dropWhile.symm,
    fun c mem => List.all_eq_true.mp List.all_takeWhile c mem⟩

theorem exists_trimEnd (text : List Char) :
    ∃ after, text = trimEnd text ++ after ∧ ∀ c ∈ after, isBlank c = true := by
  obtain ⟨before, split, blank⟩ := exists_trimStart text.reverse
  refine ⟨before.reverse, ?_, fun c mem => blank c (List.mem_reverse.mp mem)⟩
  have turned := congrArg List.reverse split
  rwa [List.reverse_reverse, List.reverse_append] at turned

theorem isBlank_of_head?_trimStart {text : List Char} {c : Char}
    (head : (trimStart text).head? = some c) : isBlank c = false := by
  have kept := List.head?_dropWhile_not isBlank text
  rw [trimStart] at head
  rwa [head] at kept

theorem isCore_trimChars (text : List Char) : IsCore text (trimChars text) := by
  obtain ⟨before, front, blankBefore⟩ := exists_trimStart text
  obtain ⟨after, back, blankAfter⟩ := exists_trimEnd (trimStart text)
  refine ⟨⟨before, after, ?_, blankBefore, blankAfter⟩, ?_, ?_⟩
  · conv => lhs; rw [front, back]
    rw [List.append_assoc]
    rfl
  · intro c head
    rw [trimChars] at head
    have longer : (trimStart text).head? = some c := by
      rw [back, List.head?_append, head]
      rfl
    exact isBlank_of_head?_trimStart longer
  · intro c last
    rw [trimChars, trimEnd, List.getLast?_reverse] at last
    exact isBlank_of_head?_trimStart last

theorem isCore_iff {text core : List Char} : IsCore text core ↔ trimChars text = core := by
  constructor
  · rintro ⟨⟨before, after, rfl, blankBefore, blankAfter⟩, first, last⟩
    rw [trimChars, List.append_assoc, trimStart_append blankBefore]
    cases core with
    | nil =>
      -- Nothing but white space is left behind the first part, and all of it goes.
      rw [List.nil_append, ← List.append_nil after, trimStart_append blankAfter]
      rfl
    | cons c rest =>
      have starts : trimStart (c :: rest ++ after) = c :: rest ++ after :=
        trimStart_of_first first
      rw [starts, trimEnd_append blankAfter, trimEnd_of_last last]
  · rintro rfl
    exact isCore_trimChars text

theorem trimChars_append (blankBefore : ∀ c ∈ before, isBlank c = true)
    (blankAfter : ∀ c ∈ after, isBlank c = true) :
    trimChars (before ++ word ++ after) = trimChars word := by
  obtain ⟨⟨front, back, split, blankFront, blankBack⟩, first, last⟩ := isCore_trimChars word
  apply isCore_iff.mp
  refine ⟨⟨before ++ front, back ++ after, ?_, ?_, ?_⟩, first, last⟩
  · conv => lhs; rw [split]
    simp only [List.append_assoc]
  · intro c mem
    exact (List.mem_append.mp mem).elim (blankBefore c) (blankFront c)
  · intro c mem
    exact (List.mem_append.mp mem).elim (blankBack c) (blankAfter c)

theorem trimChars_of_filled (filled : ∀ c ∈ word, isBlank c = false) : trimChars word = word := by
  apply isCore_iff.mp
  refine ⟨⟨[], [], by simp, by simp, by simp⟩, ?_, ?_⟩
  · intro c head
    exact filled c (List.mem_of_head? head)
  · intro c last
    exact filled c (List.mem_of_getLast? last)

theorem trimChars_append_cons {c : Char} (solid : isBlank c = false)
    (blank : ∀ d ∈ after, isBlank d = true) :
    trimChars (word ++ c :: after) = trimStart word ++ [c] := by
  obtain ⟨front, split, blankFront⟩ := exists_trimStart word
  apply isCore_iff.mp
  refine ⟨⟨front, after, ?_, blankFront, blank⟩, ?_, ?_⟩
  · conv => lhs; rw [split]
    simp only [List.append_assoc, List.singleton_append]
  · intro d head
    cases kept : trimStart word with
    | nil =>
      rw [kept] at head
      rwa [← Option.some.inj head]
    | cons first rest =>
      rw [kept] at head
      have starts : (trimStart word).head? = some d := by rwa [kept]
      exact isBlank_of_head?_trimStart starts
  · intro d last
    rw [List.getLast?_concat] at last
    rwa [← Option.some.inj last]

theorem trimChars_trimStart (text : List Char) : trimChars (trimStart text) = trimChars text := by
  rw [trimChars, trimStart_of_first fun c => isBlank_of_head?_trimStart, trimChars]

theorem trimChars_trimChars (text : List Char) : trimChars (trimChars text) = trimChars text := by
  obtain ⟨-, first, last⟩ := isCore_trimChars text
  exact isCore_iff.mp ⟨⟨[], [], by simp, by simp, by simp⟩, first, last⟩

end Trimming

section Letters

theorem toNat_toLower {c : Char} (low : 65 ≤ c.toNat) (high : c.toNat ≤ 90) :
    c.toLower.toNat = c.toNat + 32 := by
  unfold Char.toLower
  rw [dif_pos ⟨low, high⟩]
  show (c.val + 32).toNat = c.toNat + 32
  rw [UInt32.toNat_add]
  show (c.toNat + 32) % 2 ^ 32 = c.toNat + 32
  omega

theorem isBlank_toLower (c : Char) : isBlank c.toLower = isBlank c := by
  by_cases capital : 65 ≤ c.toNat ∧ c.toNat ≤ 90
  · obtain ⟨low, high⟩ := capital
    rw [Bool.eq_iff_iff, isBlank, isBlank, Ranges.holds_iff, Ranges.holds_iff,
      toNat_toLower low high]
    simp only [blankRanges, List.mem_cons, List.not_mem_nil, or_false, exists_eq_or_imp,
      exists_eq_left]
    omega
  · have same : c.toLower = c := by
      unfold Char.toLower
      exact dif_neg capital
    rw [same]

theorem map_toLower_trimChars (word : List Char) :
    (trimChars word).map Char.toLower = trimChars (word.map Char.toLower) := by
  have same : isBlank ∘ Char.toLower = isBlank := funext isBlank_toLower
  simp only [trimChars, trimStart, trimEnd, List.dropWhile_map, ← List.map_reverse, same]

end Letters

end RestGraph.Text
