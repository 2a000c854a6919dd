import Mathlib.Data.List.Basic
import RestGraph.Files.Volume
import RestGraph.Proofs.Outcomes
/-!
The entries of a volume. The location of a path is found by following its segments, whatever entries
there are; an operation that succeeds changes the entries at the locations of its paths, and what is
reached through directories is still reached when directories are added.
-/

set_option autoImplicit false

namespace RestGraph.Files.Volume

section Lookup

variable {volume : Volume} {location : Location}

theorem node?_erase (named : location ≠ []) (other : Location) :
    (volume.erase location).node? other =
      if other = location then none else volume.node? other := by
  unfold node? erase
  by_cases root : other = []
  · simp [root, named.symm]
  · simp only [root, if_false, List.find?_filter]
    by_cases same : other = location
    · simp [same]
    · rw [if_neg same]
      congr 2
      funext entry
      by_cases here : entry.1 = other <;> simp [here, same]

theorem node?_insert (named : location ≠ []) (node : Node) (other : Location) :
    (volume.insert location node).node? other =
      if other = location then some node else volume.node? other := by
  have erased : (volume.erase location).node? other =
      if other = location then none else volume.node? other := node?_erase named other
  unfold node? insert at *
  by_cases root : other = []
  · simp [root, named.symm]
  · by_cases same : other = location
    · simp [same, named]
    · simp only [root, same, if_false] at erased ⊢
      rw [List.find?_cons_of_neg (by simpa using Ne.symm same)]
      exact erased

end Lookup

def follow (location : Location) : List String → Location
  | [] => location
  | segment :: rest =>
    if Path.isIdle segment then follow location rest
    else if segment = ".." then follow location.dropLast rest
    else follow (location ++ [segment]) rest

theorem follow_append (location : Location) (first second : List String) :
    follow location (first ++ second) = follow (follow location first) second := by
  induction first generalizing location with
  | nil => rfl
  | cons segment rest ih =>
    simp only [List.cons_append, follow]
    split
    · exact ih location
    · split <;> exact ih _

/-- The location that a path names if the segments before the last one lead to a directory. -/
def locate (volume : Volume) (path : Path) : Location :=
  follow (if path.isAbsolute then [] else volume.current) path.segments

theorem locate_congr {volume other : Volume} (same : other.current = volume.current)
    (path : Path) : other.locate path = volume.locate path := by
  rw [locate, locate, same]

section Walking

variable {volume : Volume} {location found : Location} {segments : List String} {path : Path}

theorem walk_eq_follow (walked : volume.walk location segments = .ok found) :
    found = follow location segments := by
  fun_induction walk volume location segments with
  | case1 location => exact (Except.ok.inj walked).symm
  | case2 location segment rest idle ih =>
    rw [follow, if_pos idle]
    exact ih walked
  | case3 location rest idle ih =>
    rw [follow, if_neg idle, if_pos rfl]
    exact ih walked
  | case4 | case5 | case6 => cases walked
  | case7 location segment rest idle up checked directory ih =>
    rw [follow, if_neg idle, if_neg up]
    exact ih walked

theorem nameAt_eq_ok_iff :
    volume.nameAt location segments = .ok found ↔ ∃ directory name,
      segments.getLast? = some name ∧ volume.walk location segments.dropLast = .ok directory ∧
        (Path.isIdle name || name == "..") = false ∧ volume.checkName name = .ok () ∧
          found = directory ++ [name] := by
  constructor
  · intro named
    obtain ⟨directory, walked, named⟩ := exists_of_bind_eq_ok named
    cases last : segments.getLast? with
    | none =>
      rw [last] at named
      cases named
    | some name =>
      rw [last] at named
      cases special : (Path.isIdle name || name == "..") with
      | true =>
        simp only [special, if_true] at named
        cases named
      | false =>
        simp only [special, Bool.false_eq_true, if_false] at named
        obtain ⟨⟨⟩, checked, named⟩ := exists_of_bind_eq_ok named
        exact ⟨directory, name, rfl, walked, special, checked, (Except.ok.inj named).symm⟩
  · rintro ⟨directory, name, last, walked, special, checked, rfl⟩
    unfold nameAt
    rw [walked, last]
    simp only [special, checked, Bool.false_eq_true, if_false]
    rfl

theorem nameAt_eq_follow (named : volume.nameAt location segments = .ok found) :
    found = follow location segments ∧ found ≠ [] := by
  obtain ⟨directory, name, last, walked, special, -, rfl⟩ := nameAt_eq_ok_iff.mp named
  obtain rfl := walk_eq_follow walked
  rw [Bool.or_eq_false_iff, beq_eq_false_iff_ne] at special
  have split : segments = segments.dropLast ++ [name] :=
    (List.dropLast_append_getLast? name last).symm
  constructor
  · conv => rhs; rw [split, follow_append]
    simp [follow, special]
  · simp

theorem exists_rest_of_isAbsolute (absolute : path.isAbsolute = true) :
    ∃ rest, path.segments = "" :: rest := by
  unfold Path.isAbsolute at absolute
  split at absolute
  · exact ⟨_, by assumption⟩
  · cases absolute

theorem start_eq_ok (started : volume.start path = .ok (location, segments)) :
    (path.isAbsolute = true ∧ location = [] ∧ segments = path.segments.drop 1) ∨
      (path.isAbsolute = false ∧ location = volume.current ∧ segments = path.segments) := by
  unfold start at started
  split at started
  · cases started
  · split at started
    · cases started
    · obtain ⟨⟨⟩, -, started⟩ := exists_of_bind_eq_ok started
      split at started
      · rename_i absolute
        obtain ⟨rfl, rfl⟩ := Prod.mk.inj (Except.ok.inj started)
        exact .inl ⟨absolute, rfl, rfl⟩
      · rename_i relative
        obtain ⟨rfl, rfl⟩ := Prod.mk.inj (Except.ok.inj started)
        exact .inr ⟨eq_false_of_ne_true relative, rfl, rfl⟩

theorem follow_of_start (started : volume.start path = .ok (location, segments)) :
    follow location segments = volume.locate path := by
  unfold locate
  rcases start_eq_ok started with ⟨absolute, rfl, rfl⟩ | ⟨relative, rfl, rfl⟩
  · -- The empty segment before the first slash is idle.
    obtain ⟨rest, rooted⟩ := exists_rest_of_isAbsolute absolute
    rw [if_pos absolute, rooted]
    rfl
  · simp [relative]

theorem entryAt_eq_ok (entry : volume.entryAt path = .ok found) :
    found = volume.locate path ∧ found ≠ [] := by
  obtain ⟨⟨location, segments⟩, started, named⟩ := exists_of_bind_eq_ok entry
  rw [← follow_of_start started]
  exact nameAt_eq_follow named

theorem getLast?_of_entryAt (entry : volume.entryAt path = .ok found) :
    ∃ name, path.segments.getLast? = some name ∧ (Path.isIdle name || name == "..") = false := by
  obtain ⟨⟨location, segments⟩, started, named⟩ := exists_of_bind_eq_ok entry
  obtain ⟨directory, name, last, -, special, -⟩ := nameAt_eq_ok_iff.mp named
  refine ⟨name, ?_, special⟩
  rcases start_eq_ok started with ⟨-, -, rfl⟩ | ⟨-, -, rfl⟩
  · rw [List.getLast?_drop] at last
    split at last
    · cases last
    · exact last
  · exact last

theorem entryAt_ne_ok_of_up (up : path.segments.getLast? = some "..") (found : Location) :
    volume.entryAt path ≠ .ok found := by
  intro entry
  obtain ⟨name, last, plain⟩ := getLast?_of_entryAt entry
  rw [up] at last
  rw [← Option.some.inj last] at plain
  cases plain

end Walking

section Steps

variable {volume : Volume}

theorem follow_idle (location : Location) {segments : List String}
    (idle : ∀ segment ∈ segments, Path.isIdle segment = true) :
    follow location segments = location := by
  induction segments with
  | nil => rfl
  | cons segment rest ih =>
    rw [List.forall_mem_cons] at idle
    rw [follow, if_pos idle.1, ih idle.2]

theorem walk_idle (location : Location) {segments : List String}
    (idle : ∀ segment ∈ segments, Path.isIdle segment = true) :
    volume.walk location segments = .ok location := by
  induction segments with
  | nil => rfl
  | cons segment rest ih =>
    rw [List.forall_mem_cons] at idle
    rw [walk, if_pos idle.1, ih idle.2]

theorem walk_append (location : Location) (first second : List String) :
    volume.walk location (first ++ second) =
      volume.walk location first >>= fun middle => volume.walk middle second := by
  fun_induction walk volume location first with
  | case1 location => rfl
  | case2 location segment rest idle ih => rw [List.cons_append, walk, if_pos idle, ih]
  | case3 location rest idle ih => rw [List.cons_append, walk, if_neg idle, if_pos rfl, ih]
  | case4 location segment rest idle up fault refused =>
    rw [List.cons_append, walk, if_neg idle, if_neg up, refused]
    rfl
  | case5 location segment rest idle up checked absent =>
    simp only [List.cons_append, walk, idle, up, checked, absent, if_false]
    rfl
  | case6 location segment rest idle up checked content file =>
    simp only [List.cons_append, walk, idle, up, checked, file, if_false]
    rfl
  | case7 location segment rest idle up checked directory ih =>
    simp only [List.cons_append, walk, idle, up, checked, directory, if_false]
    exact ih

theorem exists_trailing (dropped : String → Bool) (segments : List String) :
    ∃ trailing, segments = (segments.reverse.dropWhile dropped).reverse ++ trailing ∧
      ∀ segment ∈ trailing, dropped segment = true := by
  refine ⟨(segments.reverse.takeWhile dropped).reverse, ?_, ?_⟩
  · rw [← List.reverse_append, List.takeWhile_append_dropWhile, List.reverse_reverse]
  · intro segment mem
    exact List.all_eq_true.mp List.all_takeWhile _ (List.mem_reverse.mp mem)

end Steps

section Operations

variable {volume changed : Volume} {path source target : Path} {content : ByteArray}

theorem follow_dropTrailing (location : Location) (segments : List String) :
    follow location (segments.reverse.dropWhile (· == "")).reverse = follow location segments := by
  obtain ⟨trailing, split, empty⟩ := exists_trailing (· == "") segments
  have idle : ∀ segment ∈ trailing, Path.isIdle segment = true := by
    intro segment mem
    simp [Path.isIdle, empty segment mem]
  conv => rhs; rw [split, follow_append]
  exact (follow_idle _ idle).symm

theorem makeDirectory_eq_ok (made : volume.makeDirectory path = .ok changed) :
    volume.node? (volume.locate path) = none ∧ volume.locate path ≠ [] ∧
      changed = volume.insert (volume.locate path) .directory := by
  obtain ⟨⟨location, segments⟩, started, made⟩ := exists_of_bind_eq_ok made
  simp only at made
  split at made
  · cases made
  · cases made
  · rename_i entry named
    obtain ⟨rfl, inside⟩ := nameAt_eq_follow named
    rw [follow_dropTrailing, follow_of_start started] at inside made
    split at made
    · cases made
    · rename_i absent
      exact ⟨absent, inside, (Except.ok.inj made).symm⟩

theorem writeFile_eq_ok (written : volume.writeFile path content = .ok changed) :
    volume.entryAt path = .ok (volume.locate path) ∧ volume.locate path ≠ [] ∧
      volume.node? (volume.locate path) ≠ some .directory ∧
        changed = volume.insert (volume.locate path) (.file content) := by
  obtain ⟨entry, found, written⟩ := exists_of_bind_eq_ok written
  obtain ⟨rfl, inside⟩ := entryAt_eq_ok found
  split at written
  · cases written
  · rename_i apart
    exact ⟨found, inside, apart, (Except.ok.inj written).symm⟩

theorem rename_eq_ok (renamed : volume.rename source target = .ok changed) :
    volume.entryAt source = .ok (volume.locate source) ∧
      volume.entryAt target = .ok (volume.locate target) ∧
        volume.node? (volume.locate target) ≠ some .directory ∧
          ∃ content, volume.node? (volume.locate source) = some (.file content) ∧
            changed = (volume.erase (volume.locate source)).insert (volume.locate target)
              (.file content) := by
  obtain ⟨old, oldFound, renamed⟩ := exists_of_bind_eq_ok renamed
  obtain ⟨new, newFound, renamed⟩ := exists_of_bind_eq_ok renamed
  obtain ⟨rfl, -⟩ := entryAt_eq_ok oldFound
  obtain ⟨rfl, -⟩ := entryAt_eq_ok newFound
  split at renamed
  · cases renamed
  · cases renamed
  · cases renamed
  · rename_i content moved apart
    exact ⟨oldFound, newFound, apart, content, moved, (Except.ok.inj renamed).symm⟩

theorem removeFile_eq_ok (removed : volume.removeFile path = .ok changed) :
    volume.entryAt path = .ok (volume.locate path) ∧
      (∃ content, volume.node? (volume.locate path) = some (.file content)) ∧
        changed = volume.erase (volume.locate path) := by
  obtain ⟨entry, found, removed⟩ := exists_of_bind_eq_ok removed
  obtain ⟨rfl, -⟩ := entryAt_eq_ok found
  split at removed
  · cases removed
  · cases removed
  · rename_i content present
    exact ⟨found, ⟨content, present⟩, (Except.ok.inj removed).symm⟩

end Operations

/-- What one volume has, another one keeps: its settings, and every directory. -/
structure KeepsDirectories (volume other : Volume) : Prop where
  current : other.current = volume.current
  nameLimit : other.nameLimit = volume.nameLimit
  pathLimit : other.pathLimit = volume.pathLimit
  directories : ∀ location, volume.node? location = some .directory →
    other.node? location = some .directory

namespace KeepsDirectories

variable {volume other : Volume} {path : Path} {location found : Location}
  {segments : List String}

theorem checkName_eq (keeps : KeepsDirectories volume other) (name : String) :
    other.checkName name = volume.checkName name := by
  rw [checkName, checkName, keeps.nameLimit]

theorem start_eq (keeps : KeepsDirectories volume other) (path : Path) :
    other.start path = volume.start path := by
  rw [start, start, keeps.pathLimit, keeps.current]

theorem walk_eq_ok (keeps : KeepsDirectories volume other)
    (walked : volume.walk location segments = .ok found) :
    other.walk location segments = .ok found := by
  fun_induction walk volume location segments with
  | case1 location => exact walked
  | case2 location segment rest idle ih =>
    rw [walk, if_pos idle]
    exact ih walked
  | case3 location rest idle ih =>
    rw [walk, if_neg idle, if_pos rfl]
    exact ih walked
  | case4 | case5 | case6 => cases walked
  | case7 location segment rest idle up checked directory ih =>
    have there := keeps.directories _ directory
    have named := (keeps.checkName_eq segment).trans checked
    simp only [walk, idle, up, named, there, if_false]
    exact ih walked

theorem entryAt_eq_ok (keeps : KeepsDirectories volume other)
    (entry : volume.entryAt path = .ok found) : other.entryAt path = .ok found := by
  obtain ⟨⟨location, segments⟩, started, named⟩ := exists_of_bind_eq_ok entry
  obtain ⟨directory, name, last, walked, special, checked, rfl⟩ := nameAt_eq_ok_iff.mp named
  have again := nameAt_eq_ok_iff.mpr ⟨directory, name, last, keeps.walk_eq_ok walked, special,
    (keeps.checkName_eq name).trans checked, rfl⟩
  unfold entryAt
  rw [keeps.start_eq, started]
  exact again

theorem directoryAt_eq_ok (keeps : KeepsDirectories volume other)
    (entry : volume.directoryAt path = .ok found) : other.directoryAt path = .ok found := by
  obtain ⟨⟨location, segments⟩, started, walked⟩ := exists_of_bind_eq_ok entry
  unfold directoryAt
  rw [keeps.start_eq, started]
  exact keeps.walk_eq_ok walked

end KeepsDirectories

section Directories

variable {volume changed : Volume} {path : Path} {found : Location}

theorem keepsDirectories_insert {location : Location} (named : location ≠ []) :
    KeepsDirectories volume (volume.insert location .directory) where
  current := rfl
  nameLimit := rfl
  pathLimit := rfl
  directories := by
    intro other directory
    rw [node?_insert named]
    split
    · rfl
    · exact directory

theorem walk_name {directory : Location} {name : String}
    (plain : (Path.isIdle name || name == "..") = false) (checked : volume.checkName name = .ok ())
    (there : volume.node? (directory ++ [name]) = some .directory) :
    volume.walk directory [name] = .ok (directory ++ [name]) := by
  rw [Bool.or_eq_false_iff, beq_eq_false_iff_ne] at plain
  simp [walk, plain, checked, there]

theorem directoryAt_of_makeDirectory (made : volume.makeDirectory path = .ok changed) :
    changed.directoryAt path = .ok (volume.locate path) := by
  obtain ⟨-, inside, rfl⟩ := makeDirectory_eq_ok made
  have keeps : KeepsDirectories volume (volume.insert (volume.locate path) .directory) :=
    keepsDirectories_insert inside
  obtain ⟨⟨location, segments⟩, started, made⟩ := exists_of_bind_eq_ok made
  obtain ⟨trailing, whole, empty⟩ := exists_trailing (· == "") segments
  have idle : ∀ segment ∈ trailing, Path.isIdle segment = true := by
    intro segment mem
    simp [Path.isIdle, empty segment mem]
  simp only at made
  cases named : volume.nameAt location (segments.reverse.dropWhile (· == "")).reverse with
  | error fault =>
    rw [named] at made
    cases fault <;> cases made
  | ok entry =>
    have placed := (nameAt_eq_follow named).1
    rw [follow_dropTrailing, follow_of_start started] at placed
    obtain ⟨directory, name, last, walked, plain, checked, rfl⟩ := nameAt_eq_ok_iff.mp named
    have there : (volume.insert (volume.locate path) .directory).node? (directory ++ [name]) =
        some .directory := by
      rw [node?_insert inside, if_pos placed]
    have step := walk_name plain ((keeps.checkName_eq name).trans checked) there
    unfold directoryAt
    rw [keeps.start_eq, started]
    show walk _ location segments = _
    rw [whole, walk_append, ← List.dropLast_append_getLast? name last, walk_append,
      keeps.walk_eq_ok walked]
    show (walk _ directory [name] >>= _) = _
    rw [step]
    exact (walk_idle _ idle).trans (congrArg Except.ok placed)

theorem nameAt_of_walk {location : Location} {segments : List String}
    (walked : volume.walk location segments = .ok found) :
    volume.nameAt location segments = .error .isDirectory ∨
      volume.nameAt location segments = .ok found ∧ volume.node? found = some .directory := by
  cases last : segments.getLast? with
  | none =>
    obtain rfl := List.getLast?_eq_none_iff.mp last
    exact .inl rfl
  | some name =>
    have whole := List.dropLast_append_getLast? name last
    rw [← whole, walk_append] at walked
    obtain ⟨directory, before, step⟩ := exists_of_bind_eq_ok walked
    cases plain : (Path.isIdle name || name == "..") with
    | true =>
      left
      unfold nameAt
      rw [before, last]
      simp only [plain, if_true]
      rfl
    | false =>
      right
      have special := plain
      rw [Bool.or_eq_false_iff, beq_eq_false_iff_ne] at special
      simp only [walk, special, Bool.false_eq_true, if_false] at step
      split at step
      · cases step
      · rename_i checked
        split at step
        · cases step
        · cases step
        · rename_i there
          obtain rfl := Except.ok.inj step
          exact ⟨nameAt_eq_ok_iff.mpr ⟨directory, name, last, before, plain, checked, rfl⟩, there⟩

theorem makeDirectory_of_directoryAt (there : volume.directoryAt path = .ok found) :
    volume.makeDirectory path = .error .exists := by
  obtain ⟨⟨location, segments⟩, started, walked⟩ := exists_of_bind_eq_ok there
  replace walked : volume.walk location segments = .ok found := walked
  obtain ⟨trailing, whole, -⟩ := exists_trailing (· == "") segments
  unfold makeDirectory
  rw [started]
  simp only [bind, Except.bind]
  generalize (segments.reverse.dropWhile (· == "")).reverse = named at whole
  rw [whole, walk_append] at walked
  obtain ⟨middle, walkedNamed, -⟩ := exists_of_bind_eq_ok walked
  rcases nameAt_of_walk walkedNamed with refused | ⟨entry, directory⟩
  · rw [refused]
  · simp only [entry, directory]

end Directories

end RestGraph.Files.Volume
