import Mathlib.Data.List.Induction
import RestGraph.Proofs.WholeWrites
/-!
Plain paths in trees. In a tree every entry lies in a directory, so a path of plain names leads
somewhere unless a file stands on its way or a directory is missing, and creating what is missing
makes it lead to a directory.
-/

set_option autoImplicit false

namespace RestGraph.Files

/-- A name that stands for nothing but itself in a path. -/
structure IsPlainName (name : String) : Prop where
  whole : '/' ∉ name.toList
  legal : '\x00' ∉ name.toList
  busy : Path.isIdle name = false
  down : name ≠ ".."

instance (name : String) : Decidable (IsPlainName name) :=
  decidable_of_iff
    ('/' ∉ name.toList ∧ '\x00' ∉ name.toList ∧ Path.isIdle name = false ∧ name ≠ "..")
    ⟨fun ⟨whole, legal, busy, down⟩ => ⟨whole, legal, busy, down⟩,
      fun plain => ⟨plain.whole, plain.legal, plain.busy, plain.down⟩⟩

theorem IsPlainName.ne_empty {name : String} (plain : IsPlainName name) : name ≠ "" := by
  rintro rfl
  cases plain.busy

namespace Path

section Plain

variable {segments dirs : List String} {name : String}

theorem trimIdle_of_busy (busy : ∀ segment ∈ segments, isIdle segment = false) :
    trimIdle segments = segments := by
  rcases segments.eq_nil_or_concat' with rfl | ⟨before, last, rfl⟩
  · rfl
  · have lastBusy : isIdle last = false := busy last (by simp)
    rw [trimIdle, List.reverse_append, List.reverse_singleton, List.singleton_append,
      List.dropWhile_cons_of_neg (by simp [lastBusy]), List.reverse_cons, List.reverse_reverse]

theorem front_of_plain (plain : ∀ segment ∈ segments, IsPlainName segment) :
    (⟨segments⟩ : Path).front = [] := by
  unfold front
  split
  · rename_i first _ split
    obtain rfl : segments = "" :: _ :: _ := split
    cases (plain "" (by simp)).busy
  · rename_i _ split
    obtain rfl : segments = "." :: _ := split
    cases (plain "." (by simp)).busy
  · rfl

theorem body_of_plain (plain : ∀ segment ∈ segments, IsPlainName segment) :
    (⟨segments⟩ : Path).body = segments := by
  rw [body, front_of_plain plain]
  exact trimIdle_of_busy fun segment mem => (plain segment mem).busy

theorem isAbsolute_concat (plain : ∀ segment ∈ dirs, IsPlainName segment) (filled : name ≠ "") :
    (⟨dirs ++ [name]⟩ : Path).isAbsolute = false := by
  cases dirs with
  | nil => simp [isAbsolute]
  | cons first rest =>
    simp [isAbsolute, (plain first (by simp)).ne_empty]

theorem parent?_of_plain (plain : ∀ segment ∈ dirs ++ [name], IsPlainName segment) :
    (⟨dirs ++ [name]⟩ : Path).parent? = some (ofParts [] dirs) := by
  have kept : trimIdle dirs = dirs := by
    apply trimIdle_of_busy
    intro segment mem
    exact (plain segment (by simp [mem])).busy
  unfold parent?
  rw [body_of_plain plain, front_of_plain plain]
  split
  · rename_i nothing
    simp at nothing
  · rw [List.dropLast_concat, kept]

theorem temporary_of_plain (plain : ∀ segment ∈ dirs ++ [name], IsPlainName segment) :
    (⟨dirs ++ [name]⟩ : Path).temporary = ⟨dirs ++ [temporaryName name]⟩ ∨
      (⟨dirs ++ [name]⟩ : Path).temporary = ⟨dirs ++ [".."]⟩ :=
  temporary_of_concat (plain name (by simp)).busy (plain name (by simp)).down rfl

theorem mem_of_mem_splitName {c : Char} (mem : c ∈ (splitName name).1.toList) :
    c ∈ name.toList := by
  unfold splitName at mem
  dsimp only at mem
  split at mem
  · exact mem
  · rw [String.toList_ofList] at mem
    exact List.mem_of_mem_take mem

theorem isPlainName_temporaryName (plain : IsPlainName name) :
    IsPlainName (temporaryName name) := by
  obtain ⟨busy, down⟩ := plain_temporaryName name
  refine ⟨?_, ?_, busy, down⟩
  · rw [temporaryName, String.toList_append, List.mem_append, not_or]
    exact ⟨fun mem => plain.whole (mem_of_mem_splitName mem), by decide⟩
  · rw [temporaryName, String.toList_append, List.mem_append, not_or]
    exact ⟨fun mem => plain.legal (mem_of_mem_splitName mem), by decide⟩

theorem isEmpty_of_plain (plain : ∀ segment ∈ dirs ++ [name], IsPlainName segment) :
    (⟨dirs ++ [name]⟩ : Path).isEmpty = false := by
  rw [isEmpty, beq_eq_false_iff_ne]
  intro empty
  have last := congrArg List.getLast? empty
  rw [List.getLast?_concat] at last
  exact (plain name (by simp)).ne_empty (Option.some.inj last)

theorem ancestors_nil (steps : Nat) : (ofParts [] []).ancestors steps = [] := by
  cases steps <;> rfl

theorem ofParts_concat (dirs : List String) (name : String) :
    ofParts [] (dirs ++ [name]) = ⟨dirs ++ [name]⟩ := by
  cases dirs <;> rfl

theorem ancestors_concat (plain : ∀ segment ∈ dirs ++ [name], IsPlainName segment) (steps : Nat) :
    (⟨dirs ++ [name]⟩ : Path).ancestors (steps + 1) =
      ⟨dirs ++ [name]⟩ :: (ofParts [] dirs).ancestors steps := by
  rw [ancestors, isEmpty_of_plain plain, parent?_of_plain plain]
  rfl

end Plain

end Path

namespace Volume

/-- Every entry lies in a directory, and so does whatever a relative path starts from. -/
structure IsTree (volume : Volume) : Prop where
  here : volume.node? volume.current = some .directory
  above : ∀ location name, volume.node? (location ++ [name]) ≠ none →
    volume.node? location = some .directory

structure Unlimited (volume : Volume) : Prop where
  names : volume.nameLimit = none
  paths : volume.pathLimit = none

theorem isTree_of_entries {volume : Volume} (here : volume.node? volume.current = some .directory)
    (above : ∀ entry ∈ volume.entries, volume.node? entry.1.dropLast = some .directory) :
    volume.IsTree where
  here := here
  above := by
    intro location name there
    rw [node?, if_neg (by simp), ← Option.isSome_iff_ne_none, Option.isSome_map,
      List.find?_isSome] at there
    obtain ⟨entry, mem, same⟩ := there
    have lies := above entry mem
    rwa [of_decide_eq_true same, List.dropLast_concat] at lies

section Trees

variable {volume : Volume} {location : Location} {segments dirs : List String} {name : String}

theorem IsTree.directory_above (tree : volume.IsTree) {below : List String} (proper : below ≠ [])
    (there : volume.node? (location ++ below) ≠ none) :
    volume.node? location = some .directory := by
  induction below using List.reverseRecOn with
  | nil => exact absurd rfl proper
  | append_singleton before last ih =>
    rw [← List.append_assoc] at there
    have nearest := tree.above _ _ there
    by_cases direct : before = []
    · rwa [direct, List.append_nil] at nearest
    · exact ih direct (by simp [nearest])

theorem IsTree.absent_below (tree : volume.IsTree) (absent : volume.node? location = none)
    (below : List String) : volume.node? (location ++ below) = none := by
  by_cases proper : below = []
  · rwa [proper, List.append_nil]
  · by_contra there
    have directory := tree.directory_above proper there
    rw [absent] at directory
    cases directory

theorem checkName_of_unlimited (unlimited : volume.Unlimited) (name : String) :
    volume.checkName name = .ok () := by
  rw [checkName, unlimited.names]
  rfl

theorem start_of_relative {path : Path} (unlimited : volume.Unlimited)
    (legal : ∀ segment ∈ path.segments, '\x00' ∉ segment.toList) (filled : path.isEmpty = false)
    (relative : path.isAbsolute = false) :
    volume.start path = .ok (volume.current, path.segments) := by
  have none : (path.segments.any fun segment => segment.toList.contains '\x00') = false := by
    rw [List.any_eq_false]
    intro segment mem
    simpa using legal segment mem
  unfold start
  rw [none, filled, unlimited.paths, relative]
  rfl

theorem start_of_plain (unlimited : volume.Unlimited)
    (plain : ∀ segment ∈ dirs ++ [name], IsPlainName segment) :
    volume.start ⟨dirs ++ [name]⟩ = .ok (volume.current, dirs ++ [name]) :=
  start_of_relative unlimited (fun segment mem => (plain segment mem).legal)
    (Path.isEmpty_of_plain plain)
    (Path.isAbsolute_concat (List.forall_mem_append.mp plain).1 (plain name (by simp)).ne_empty)

theorem walk_cons_of_plain (unlimited : volume.Unlimited) (plain : IsPlainName name) :
    volume.walk location (name :: segments) =
      match volume.node? (location ++ [name]) with
      | none => .error .missing
      | some (.file _) => .error .notDirectory
      | some .directory => volume.walk (location ++ [name]) segments := by
  rcases there : volume.node? (location ++ [name]) with _ | (content | _) <;>
    simp [walk, plain.busy, plain.down, checkName_of_unlimited unlimited, there]

theorem walk_of_directory (tree : volume.IsTree) (unlimited : volume.Unlimited)
    (plain : ∀ segment ∈ segments, IsPlainName segment)
    (there : volume.node? (location ++ segments) = some .directory) :
    volume.walk location segments = .ok (location ++ segments) := by
  induction segments generalizing location with
  | nil => rw [walk, List.append_nil]
  | cons name rest ih =>
    rw [List.forall_mem_cons] at plain
    rw [← List.singleton_append, ← List.append_assoc] at there
    have first : volume.node? (location ++ [name]) = some .directory := by
      by_cases last : rest = []
      · rwa [last, List.append_nil] at there
      · exact tree.directory_above last (by rw [there]; simp)
    rw [walk_cons_of_plain unlimited plain.1, first]
    simp only [ih plain.2 there, List.append_assoc, List.singleton_append]

theorem walk_of_file (tree : volume.IsTree) (unlimited : volume.Unlimited)
    (plain : ∀ segment ∈ segments, IsPlainName segment) {above : List String}
    (proper : above ≠ []) (way : above <+: segments) {content : ByteArray}
    (there : volume.node? (location ++ above) = some (.file content)) :
    volume.walk location segments = .error .notDirectory := by
  induction above generalizing location segments with
  | nil => exact absurd rfl proper
  | cons name further ih =>
    obtain ⟨rest, rfl⟩ := way
    rw [List.cons_append, List.forall_mem_cons] at plain
    rw [← List.singleton_append, ← List.append_assoc] at there
    rw [List.cons_append, walk_cons_of_plain unlimited plain.1]
    by_cases last : further = []
    · rw [last, List.append_nil] at there
      rw [there]
    · have first : volume.node? (location ++ [name]) = some .directory :=
        tree.directory_above last (by rw [there]; simp)
      rw [first]
      exact ih plain.2 last (List.prefix_append further rest) there

theorem walk_of_absent (unlimited : volume.Unlimited)
    (plain : ∀ segment ∈ segments, IsPlainName segment)
    (here : volume.node? location = some .directory)
    (free : ∀ above, above <+: segments → ∀ content,
      volume.node? (location ++ above) ≠ some (.file content))
    (absent : volume.node? (location ++ segments) ≠ some .directory) :
    volume.walk location segments = .error .missing := by
  induction segments generalizing location with
  | nil =>
    rw [List.append_nil] at absent
    exact absurd here absent
  | cons name rest ih =>
    rw [List.forall_mem_cons] at plain
    rw [walk_cons_of_plain unlimited plain.1]
    cases first : volume.node? (location ++ [name]) with
    | none => rfl
    | some node =>
      cases node with
      | file content => exact absurd first (free [name] ⟨rest, rfl⟩ content)
      | directory =>
        refine ih plain.2 first ?_ ?_
        · rintro above ⟨behind, rfl⟩ content
          rw [List.append_assoc]
          exact free (name :: above) ⟨behind, rfl⟩ content
        · rwa [List.append_assoc]

theorem nameAt_of_plain (unlimited : volume.Unlimited) (plain : IsPlainName name) :
    volume.nameAt location (dirs ++ [name]) =
      volume.walk location dirs >>= fun directory => .ok (directory ++ [name]) := by
  have special : (Path.isIdle name || name == "..") = false := by
    rw [plain.busy, Bool.false_or, beq_eq_false_iff_ne]
    exact plain.down
  unfold nameAt
  rw [List.dropLast_concat, List.getLast?_concat]
  simp only [special, checkName_of_unlimited unlimited]
  rfl

theorem directoryAt_of_plain (unlimited : volume.Unlimited)
    (plain : ∀ segment ∈ dirs ++ [name], IsPlainName segment) :
    volume.directoryAt ⟨dirs ++ [name]⟩ = volume.walk volume.current (dirs ++ [name]) := by
  unfold directoryAt
  rw [start_of_plain unlimited plain]
  rfl

theorem entryAt_of_plain (tree : volume.IsTree) (unlimited : volume.Unlimited)
    (plain : ∀ segment ∈ dirs ++ [name], IsPlainName segment)
    (there : volume.node? (volume.current ++ dirs) = some .directory) :
    volume.entryAt ⟨dirs ++ [name]⟩ = .ok (volume.current ++ dirs ++ [name]) := by
  have before := (List.forall_mem_append.mp plain).1
  unfold entryAt
  rw [start_of_plain unlimited plain, ok_bind]
  dsimp only
  rw [nameAt_of_plain unlimited (plain name (by simp)),
    walk_of_directory tree unlimited before there]
  rfl

theorem makeDirectory_of_plain (unlimited : volume.Unlimited)
    (plain : ∀ segment ∈ dirs ++ [name], IsPlainName segment) :
    volume.makeDirectory ⟨dirs ++ [name]⟩ =
      match volume.walk volume.current dirs with
      | .error .isDirectory => .error .exists
      | .error fault => .error fault
      | .ok directory =>
        match volume.node? (directory ++ [name]) with
        | some _ => .error .exists
        | none => .ok (volume.insert (directory ++ [name]) .directory) := by
  have named : ((dirs ++ [name]).reverse.dropWhile (· == "")).reverse = dirs ++ [name] := by
    have filled : name ≠ "" := (plain name (by simp)).ne_empty
    rw [List.reverse_append, List.reverse_singleton, List.singleton_append,
      List.dropWhile_cons_of_neg (by simpa using filled), List.reverse_cons, List.reverse_reverse]
  unfold makeDirectory
  rw [start_of_plain unlimited plain, ok_bind]
  dsimp only
  rw [named, nameAt_of_plain unlimited (plain name (by simp))]
  cases volume.walk volume.current dirs with
  | error fault => cases fault <;> rfl
  | ok directory =>
    rw [ok_bind]
    dsimp only
    cases volume.node? (directory ++ [name]) <;> rfl

end Trees

end Volume

end RestGraph.Files
