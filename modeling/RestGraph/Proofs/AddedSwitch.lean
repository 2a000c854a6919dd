import RestGraph.Command.Arguments
import RestGraph.Proofs.Outcomes
/-!
A command line with one more switch. Where an option is read, the switch for a dry run sets its own
argument and changes nothing else of what the other words are read as, faults included.
-/

set_option autoImplicit false

namespace RestGraph.Command.Arguments

def withDryRun (arguments : Arguments) (dry : Bool) : Arguments :=
  { arguments with dryRun := dry }

def readWord (arguments : Arguments) (waiting : Option ValueOption) (word : String) :
    Except Halt (Arguments × Option ValueOption) :=
  match waiting, word.toList with
  | some _, '-' :: _ :: _ => .error .usage
  | some option, _ => do return (← arguments.setValue option word, none)
  | none, '-' :: '-' :: chars => arguments.readLong chars
  | none, '-' :: letter :: letters => arguments.readCluster (letter :: letters)
  | none, _ => do return (← arguments.setInput word, none)

/-- Reads words in front of a double dash, up to the option that may then wait for its value. -/
def readFront (arguments : Arguments) (waiting : Option ValueOption) :
    List String → Except Halt (Arguments × Option ValueOption)
  | [] => .ok (arguments, waiting)
  | word :: rest => do
    let (next, waiting) ← arguments.readWord waiting word
    next.readFront waiting rest

section Steps

variable {arguments : Arguments} {waiting : Option ValueOption} {word : String}

theorem readWords_cons (option : word ≠ "--") (rest : List String) :
    arguments.readWords waiting (word :: rest) =
      arguments.readWord waiting word >>= fun next => next.1.readWords next.2 rest := by
  have apart : word.toList ≠ ['-', '-'] := fun same =>
    option (String.toList_injective (same.trans (by decide)))
  conv => lhs; unfold readWords
  unfold readWord
  split <;> simp_all

theorem readWords_append {before : List String} (options : "--" ∉ before) (after : List String) :
    arguments.readWords waiting (before ++ after) =
      arguments.readFront waiting before >>= fun next => next.1.readWords next.2 after := by
  induction before generalizing arguments waiting with
  | nil => rfl
  | cons word rest ih =>
    rw [List.mem_cons, not_or] at options
    rw [List.cons_append, readWords_cons (Ne.symm options.1), readFront, bind_assoc]
    exact congrArg _ (funext fun next => ih options.2)

end Steps

section Blindness

variable (arguments : Arguments) (dry : Bool)

theorem setValue_withDryRun (option : ValueOption) (value : String) :
    (arguments.withDryRun dry).setValue option value =
      (arguments.setValue option value).map (withDryRun · dry) := by
  unfold setValue
  cases option with
  | output | name | requestModule | contextModule =>
    simp only [map_bind]
    rfl
  | indent =>
    dsimp only
    cases indentWidth? value with
    | none => rfl
    | some width =>
      simp only [map_bind]
      rfl

theorem setInput_withDryRun (text : String) :
    (arguments.withDryRun dry).setInput text =
      (arguments.setInput text).map (withDryRun · dry) := by
  simp only [setInput, map_bind]
  rfl

theorem turnOn_withDryRun {switch : Switch} (other : switch ≠ .dryRun) :
    (arguments.withDryRun dry).turnOn switch =
      (arguments.turnOn switch).map (withDryRun · dry) := by
  unfold turnOn
  cases switch with
  | dryRun => exact absurd rfl other
  | operationFromMethod => by_cases on : arguments.operationFromMethod <;> simp [withDryRun, on]
  | allowCollisions => by_cases on : arguments.allowCollisions <;> simp [withDryRun, on]
  | verbose | help | version => rfl

theorem shortOption?_ne_dryRun (letter : Char) :
    shortOption? letter ≠ some (.switch .dryRun) := by
  unfold shortOption?
  split <;> simp

theorem eq_of_longOption?_dryRun {name : String}
    (found : longOption? name = some (.switch .dryRun)) : name = "dry-run" := by
  unfold longOption? at found
  split at found <;> simp_all

theorem setValue_bind_withDryRun (option : ValueOption) (value : String) :
    (do return (← (arguments.withDryRun dry).setValue option value, none) :
        Except Halt (Arguments × Option ValueOption)) =
      (do return (← arguments.setValue option value, none) :
        Except Halt (Arguments × Option ValueOption)).map (Prod.map (withDryRun · dry) id) := by
  rw [setValue_withDryRun, bind_map, map_bind]
  rfl

theorem readCluster_withDryRun (letters : List Char) :
    (arguments.withDryRun dry).readCluster letters =
      (arguments.readCluster letters).map (Prod.map (withDryRun · dry) id) := by
  fun_induction readCluster arguments letters with
  | case1 => rfl
  | case2 arguments letter rest unknown => simp [readCluster, unknown]
  | case3 arguments letter rest switch known ih =>
    have other : switch ≠ .dryRun := by
      rintro rfl
      exact shortOption?_ne_dryRun letter known
    conv => lhs; unfold readCluster
    simp only [known]
    rw [turnOn_withDryRun arguments dry other, bind_map, map_bind]
    exact congrArg _ (funext ih)
  | case4 arguments letter option known => simp [readCluster, known]
  | case5 arguments letter option value known =>
    unfold readCluster
    simp only [known]
    exact setValue_bind_withDryRun arguments dry option _
  | case6 arguments letter option value filled unsigned known =>
    unfold readCluster
    simp only [known]
    exact setValue_bind_withDryRun arguments dry option _

theorem readLong_withDryRun {chars : List Char} (other : chars ≠ "dry-run".toList) :
    (arguments.withDryRun dry).readLong chars =
      (arguments.readLong chars).map (Prod.map (withDryRun · dry) id) := by
  unfold readLong
  dsimp only
  cases known : longOption? (String.ofList (chars.takeWhile (· != '='))) with
  | none => rfl
  | some kind =>
    cases kind with
    | value option =>
      cases chars.drop (chars.takeWhile (· != '=')).length with
      | nil => rfl
      | cons sign value => exact setValue_bind_withDryRun arguments dry option _
    | switch switch =>
      cases behind : chars.drop (chars.takeWhile (· != '=')).length with
      | cons sign value => rfl
      | nil =>
        have bare : chars.takeWhile (· != '=') = chars :=
          (List.takeWhile_prefix _).eq_of_length_le (List.drop_eq_nil_iff.mp behind)
        have apart : switch ≠ .dryRun := by
          rintro rfl
          have name := eq_of_longOption?_dryRun known
          rw [bare] at name
          exact other (by rw [← name, String.toList_ofList])
        dsimp only
        rw [turnOn_withDryRun arguments dry apart, bind_map, map_bind]
        rfl

theorem readWord_withDryRun {word : String} (other : word ≠ "--dry-run")
    (waiting : Option ValueOption) :
    (arguments.withDryRun dry).readWord waiting word =
      (arguments.readWord waiting word).map (Prod.map (withDryRun · dry) id) := by
  unfold readWord
  split
  · rfl
  · exact setValue_bind_withDryRun arguments dry _ _
  · rename_i chars letters
    refine readLong_withDryRun arguments dry ?_
    rintro rfl
    exact other (String.toList_injective (letters.trans (by decide)))
  · exact readCluster_withDryRun arguments dry _
  · rw [setInput_withDryRun, bind_map, map_bind]
    rfl

theorem readFront_withDryRun {before : List String} (none : "--dry-run" ∉ before)
    (waiting : Option ValueOption) :
    (arguments.withDryRun dry).readFront waiting before =
      (arguments.readFront waiting before).map (Prod.map (withDryRun · dry) id) := by
  induction before generalizing arguments waiting with
  | nil => rfl
  | cons word rest ih =>
    rw [List.mem_cons, not_or] at none
    rw [readFront, readWord_withDryRun arguments dry (Ne.symm none.1), bind_map, readFront,
      map_bind]
    exact congrArg _ (funext fun next => ih next.1 none.2 next.2)

theorem readInputs_withDryRun (words : List String) :
    (arguments.withDryRun dry).readInputs words =
      (arguments.readInputs words).map (withDryRun · dry) := by
  unfold readInputs
  induction words generalizing arguments with
  | nil => rfl
  | cons word rest ih =>
    rw [List.foldlM_cons, List.foldlM_cons, setInput_withDryRun, bind_map, map_bind]
    exact congrArg _ (funext ih)

theorem readWords_withDryRun {words : List String}
    (none : "--dry-run" ∉ words.takeWhile (· ≠ "--")) (waiting : Option ValueOption) :
    (arguments.withDryRun dry).readWords waiting words =
      (arguments.readWords waiting words).map (withDryRun · dry) := by
  induction words generalizing arguments waiting with
  | nil =>
    unfold readWords
    split <;> rfl
  | cons word rest ih =>
    by_cases option : word = "--"
    · subst option
      cases waiting with
      | none => exact readInputs_withDryRun arguments dry rest
      | some _ => rfl
    · rw [List.takeWhile_cons_of_pos (by simpa using option), List.mem_cons, not_or] at none
      rw [readWords_cons option, readWord_withDryRun arguments dry (Ne.symm none.1), bind_map,
        readWords_cons option, map_bind]
      exact congrArg _ (funext fun next => ih next.1 none.2 next.2)

end Blindness

/-- One command line is another one with the switch for a dry run. The switch stands where an option
is read, which is in front of a double dash and not where an option waits for its value, and the
other command line is without it. -/
inductive AddsDryRun : List String → List String → Prop
  | intro (before after : List String) : "--" ∉ before →
    (∀ state, readFront {} none before = .ok state → state.2 = none) →
    "--dry-run" ∉ before → "--dry-run" ∉ after.takeWhile (· ≠ "--") →
      AddsDryRun (before ++ after) (before ++ "--dry-run" :: after)

section Lines

variable {real dry : List String}

theorem readWord_dryRun {arguments : Arguments} (off : arguments.dryRun = false) :
    arguments.readWord none "--dry-run" = .ok (arguments.withDryRun true, none) := by
  have whole : "dry-run".toList.takeWhile (· != '=') = "dry-run".toList := by decide
  have known : longOption? (String.ofList "dry-run".toList) = some (.switch .dryRun) := by decide
  have turned : arguments.turnOn .dryRun = .ok (arguments.withDryRun true) := by
    rw [turnOn, off]
    rfl
  have long : arguments.readLong "dry-run".toList = .ok (arguments.withDryRun true, none) := by
    unfold readLong
    simp only [whole, known, List.drop_length, turned]
    rfl
  exact long

theorem AddsDryRun.dryRun_eq_false (adds : AddsDryRun real dry) {arguments : Arguments}
    {input : String} (parsed : parse real = .ok (arguments, input)) : arguments.dryRun = false := by
  obtain ⟨before, after, options, -, front, back⟩ := adds
  have none : "--dry-run" ∉ (before ++ after).takeWhile (· ≠ "--") := by
    rw [List.takeWhile_append_of_pos, List.mem_append, not_or]
    · exact ⟨front, back⟩
    · intro word mem
      rw [decide_eq_true_iff]
      rintro rfl
      exact options mem
  obtain ⟨read, words, parsed⟩ := exists_of_bind_eq_ok parsed
  have same := readWords_withDryRun {} false none Option.none
  have start : withDryRun {} false = {} := rfl
  rw [start, words, map_ok] at same
  have off : read.dryRun = false := congrArg dryRun (Except.ok.inj same)
  split at parsed
  · obtain rfl := (Prod.mk.inj (Except.ok.inj parsed)).1
    exact off
  · cases parsed

/-- The switch is read, and nothing else is read in another way. -/
theorem AddsDryRun.parse_eq (adds : AddsDryRun real dry) :
    parse dry = (parse real).map (Prod.map (withDryRun · true) id) := by
  obtain ⟨before, after, options, idle, front, back⟩ := adds
  have words : readWords {} none (before ++ "--dry-run" :: after) =
      (readWords {} none (before ++ after)).map (withDryRun · true) := by
    rw [readWords_append options, readWords_append options, map_bind]
    have same := readFront_withDryRun {} false front none
    cases read : readFront {} none before with
    | error halt => rfl
    | ok state =>
      obtain ⟨arguments, waiting⟩ := state
      obtain rfl : waiting = none := idle _ read
      -- Nothing has turned the switch on before.
      have start : withDryRun {} false = {} := rfl
      rw [start, read, map_ok] at same
      have off : arguments.dryRun = false := congrArg (·.1.dryRun) (Except.ok.inj same)
      rw [ok_bind, ok_bind, readWords_cons (by decide), readWord_dryRun off, ok_bind]
      exact readWords_withDryRun arguments true back none
  rw [parse, words, bind_map, parse, map_bind]
  refine congrArg _ (funext fun arguments => ?_)
  rcases arguments with ⟨_ | input, _⟩ <;> rfl

end Lines

end RestGraph.Command.Arguments
