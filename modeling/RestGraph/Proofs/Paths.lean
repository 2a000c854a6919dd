import RestGraph.Proofs.Entries
/-!
Paths as text and as locations. A name joined to a directory lies in it, the temporary file beside
it lies there too, and the directories above a path without parent segments lie on the way to it.
-/

set_option autoImplicit false

namespace RestGraph.Files

namespace Path

variable {path parent : Path} {name : String}

theorem splitOn_slash {cs : List Char} (whole : '/' ∉ cs) : cs.splitOn '/' = [cs] := by
  rw [List.splitOn_eq_splitOnP]
  apply List.splitOnP_eq_singleton
  intro c mem
  rw [beq_eq_false_iff_ne]
  rintro rfl
  exact whole mem

theorem ofText_eq (whole : '/' ∉ name.toList) : ofText name = ⟨[name]⟩ := by
  rw [ofText, splitOn_slash whole, List.map_singleton, String.ofList_toList]

theorem exists_idle (path : Path) : ∃ idle, path.segments = path.front ++ path.body ++ idle ∧
    ∀ segment ∈ idle, isIdle segment = true := by
  obtain ⟨idle, split, all⟩ :=
    Volume.exists_trailing isIdle (path.segments.drop path.front.length)
  have start : path.segments = path.front ++ path.segments.drop path.front.length := by
    unfold front
    split <;> simp_all
  refine ⟨idle, ?_, all⟩
  rw [List.append_assoc]
  conv => lhs; rw [start, split]
  rfl

theorem isIdle_of_mem_front {segment : String} (mem : segment ∈ path.front) :
    isIdle segment = true := by
  unfold front at mem
  split at mem <;> simp_all [isIdle]

theorem isAbsolute_iff : path.isAbsolute = true ↔ path.front = [""] := by
  unfold isAbsolute front
  split
  · simp_all
  · split <;> simp_all

theorem front_body_of_concat {before : List String} (busy : isIdle name = false)
    (named : path.segments = before ++ [name]) :
    ∃ rest, before = path.front ++ rest ∧ path.body = rest ++ [name] := by
  obtain ⟨idle, split, all⟩ := path.exists_idle
  rw [named] at split
  have nothing : idle = [] := by
    rcases idle.eq_nil_or_concat' with nil | ⟨others, last, rfl⟩
    · exact nil
    · rw [← List.append_assoc] at split
      obtain ⟨-, same⟩ := List.append_inj' split rfl
      have contra := all last (by simp)
      rw [← List.singleton_inj.mp same, busy] at contra
      cases contra
  rw [nothing, List.append_nil] at split
  rcases path.body.eq_nil_or_concat' with nil | ⟨rest, last, body⟩
  · rw [nil, List.append_nil] at split
    have mem : name ∈ path.front := by
      rw [← split]
      exact List.mem_concat_self
    rw [isIdle_of_mem_front mem] at busy
    cases busy
  · rw [body, ← List.append_assoc] at split
    obtain ⟨same, last_eq⟩ := List.append_inj' split rfl
    rw [List.singleton_inj.mp last_eq]
    exact ⟨rest, same, body⟩

def namesOf (segments : List String) : List String :=
  segments.filter fun segment => !isIdle segment

def names (path : Path) : List String :=
  namesOf path.segments

theorem namesOf_append (first second : List String) :
    namesOf (first ++ second) = namesOf first ++ namesOf second :=
  List.filter_append first second

theorem namesOf_eq_nil {segments : List String}
    (idle : ∀ segment ∈ segments, isIdle segment = true) : namesOf segments = [] := by
  rw [namesOf, List.filter_eq_nil_iff]
  intro segment mem
  simp [idle segment mem]

theorem namesOf_trimIdle (segments : List String) :
    namesOf (trimIdle segments) = namesOf segments := by
  obtain ⟨idle, split, all⟩ := Volume.exists_trailing isIdle segments
  conv => rhs; rw [split, namesOf_append, namesOf_eq_nil all, List.append_nil]
  rfl

theorem namesOf_front (path : Path) : namesOf path.front = [] :=
  namesOf_eq_nil fun _ mem => isIdle_of_mem_front mem

theorem names_eq (path : Path) : path.names = namesOf path.body := by
  obtain ⟨idle, split, all⟩ := path.exists_idle
  rw [names, split, namesOf_append, namesOf_append, namesOf_eq_nil all, namesOf_front,
    List.append_nil, List.nil_append]

theorem names_ofParts (path : Path) (body : List String) :
    (ofParts path.front body).names = namesOf body := by
  unfold ofParts
  split
  · rfl
  · rfl
  · rw [names, namesOf_append, namesOf_front, List.nil_append]

theorem names_parent (above : path.parent? = some parent) :
    parent.names = namesOf path.body.dropLast := by
  unfold parent? at above
  split at above
  · rename_i nothing
    rw [nothing]
    split at above
    · obtain rfl := Option.some.inj above
      rfl
    · cases above
  · obtain rfl := Option.some.inj above
    rw [names_ofParts, namesOf_trimIdle]

theorem up_mem_names_iff : ".." ∈ path.names ↔ ".." ∈ path.segments := by
  simp [names, namesOf, isIdle]

theorem isPrefix_names_parent (above : path.parent? = some parent) :
    parent.names <+: path.names := by
  rw [names_parent above, path.names_eq]
  exact path.body.dropLast_prefix.filter _

theorem up_not_mem_parent (above : path.parent? = some parent) (down : ".." ∉ path.segments) :
    ".." ∉ parent.segments := by
  rw [← up_mem_names_iff] at down ⊢
  intro mem
  exact down ((isPrefix_names_parent above).subset mem)

theorem head_ne_of_front_eq_nil {first : String} {rest : List String}
    (relative : path.front = []) (split : path.segments = first :: rest) (more : rest ≠ []) :
    first ≠ "" := by
  rintro rfl
  obtain ⟨second, others, rfl⟩ := List.exists_cons_of_ne_nil more
  unfold front at relative
  rw [split] at relative
  cases relative

theorem isAbsolute_ofParts_relative (relative : path.front = []) (inside : path.body ≠ []) :
    (ofParts [] (trimIdle path.body.dropLast)).isAbsolute = false := by
  obtain ⟨idle, whole, -⟩ := path.exists_idle
  obtain ⟨trailing, split, -⟩ := Volume.exists_trailing isIdle path.body.dropLast
  replace split : path.body.dropLast = trimIdle path.body.dropLast ++ trailing := split
  cases kept : trimIdle path.body.dropLast with
  | nil => rfl
  | cons first rest =>
    rw [relative, List.nil_append, ← List.dropLast_concat_getLast inside, split, kept,
      List.append_assoc, List.append_assoc, List.cons_append] at whole
    have busy := head_ne_of_front_eq_nil relative whole (by simp)
    unfold ofParts isAbsolute
    simp only [List.nil_append]
    split
    · rename_i absolute
      exact absurd (List.cons.inj absolute).1 busy
    · rfl

theorem isAbsolute_parent (above : path.parent? = some parent) :
    parent.isAbsolute = path.isAbsolute := by
  have absolute_iff : path.isAbsolute = true ↔ path.front = [""] := isAbsolute_iff
  rw [Bool.eq_iff_iff, absolute_iff]
  unfold parent? at above
  split at above
  · split at above
    · rename_i here
      obtain rfl := Option.some.inj above
      simp [here, isAbsolute]
    · cases above
  · rename_i inside
    obtain rfl := Option.some.inj above
    have fronts : path.front = [] ∨ path.front = [""] ∨ path.front = ["."] := by
      unfold front
      split <;> simp
    rcases fronts with relative | absolute | here
    · rw [relative, isAbsolute_ofParts_relative relative inside]
      simp
    · rw [absolute]
      cases trimIdle path.body.dropLast <;> simp [ofParts, isAbsolute]
    · simp [here, ofParts, isAbsolute]

/-- The directories that are made for a path, each of which lies in the next one. -/
def directories (path : Path) : List Path :=
  match path.parent? with
  | none => []
  | some parent => parent.withAncestors

def opened (directory : Path) : List String :=
  if directory.segments.getLast? = some "" then directory.segments.dropLast
  else directory.segments

theorem join_name (directory : Path) (name : String) :
    directory.join ⟨[name]⟩ = ⟨directory.opened ++ [name]⟩ := by
  unfold join opened
  rw [if_neg (by simp [isAbsolute])]
  split <;> rfl

theorem exists_closing (directory : Path) : ∃ idle, directory.segments = directory.opened ++ idle ∧
    ∀ segment ∈ idle, isIdle segment = true := by
  unfold opened
  split
  · rename_i last
    exact ⟨[""], (List.dropLast_append_getLast? "" last).symm, by simp [isIdle]⟩
  · exact ⟨[], by simp⟩

theorem isAbsolute_join (directory : Path) (busy : isIdle name = false) :
    (directory.join ⟨[name]⟩).isAbsolute = directory.isAbsolute := by
  have named : name ≠ "" := by
    rintro rfl
    cases busy
  rw [join_name]
  obtain ⟨segments⟩ := directory
  unfold opened
  match segments with
  | [] => simp [isAbsolute]
  | [first] =>
    by_cases empty : first = ""
    · simp [empty, isAbsolute]
    · simp [empty, isAbsolute]
  | first :: second :: rest =>
    by_cases empty : first = ""
    · subst empty
      obtain ⟨third, more, tail⟩ :=
        List.exists_cons_of_ne_nil (l := (second :: rest).dropLast ++ [name]) (by simp)
      split <;> simp [isAbsolute, tail]
    · split <;> simp [isAbsolute, empty]

def temporaryName (name : String) : String :=
  (splitName name).1 ++ ".tmp"

theorem splitName_append {stem extension : String} (named : stem ≠ "")
    (last : '.' ∉ extension.toList) :
    splitName (stem ++ "." ++ extension) = (stem, some extension) := by
  have chars : (stem ++ "." ++ extension).toList = stem.toList ++ '.' :: extension.toList := by
    simp [String.toList_append]
  have suffix : ((stem.toList ++ '.' :: extension.toList).reverse.takeWhile (· != '.')).reverse =
      extension.toList := by
    have all : ∀ c ∈ extension.toList.reverse, (c != '.') = true := by
      intro c mem
      rw [bne_iff_ne]
      rintro rfl
      exact last (List.mem_reverse.mp mem)
    rw [List.reverse_append, List.reverse_cons, List.append_assoc,
      List.takeWhile_append_of_pos all]
    simp
  have kept : (stem.toList ++ '.' :: extension.toList).take
      ((stem.toList ++ '.' :: extension.toList).length - extension.toList.length - 1) =
        stem.toList := by
    have length : (stem.toList ++ '.' :: extension.toList).length - extension.toList.length - 1 =
        stem.toList.length := by
      rw [List.length_append, List.length_cons]
      omega
    rw [length, List.take_left]
  have busy : stem.toList.isEmpty = false := by
    rw [List.isEmpty_eq_false_iff]
    intro nil
    exact named (String.toList_eq_nil_iff.mp nil)
  unfold splitName
  simp only [chars, suffix, kept, busy, Bool.false_eq_true, if_false, String.ofList_toList]

theorem plain_temporaryName (name : String) :
    isIdle (temporaryName name) = false ∧ temporaryName name ≠ ".." := by
  have long : 4 ≤ (temporaryName name).length := by
    rw [temporaryName, String.length_append]
    exact Nat.le_add_left _ _
  refine ⟨?_, ?_⟩
  · rw [isIdle, Bool.or_eq_false_iff, beq_eq_false_iff_ne, beq_eq_false_iff_ne]
    constructor
    · intro same
      rw [same] at long
      contradiction
    · intro same
      rw [same] at long
      contradiction
  · intro same
    rw [same] at long
    contradiction

/-- The temporary file beside a path lies in the same directory. Beside a name that has nothing but
a point before its extension, the parent directory takes its place. -/
theorem temporary_of_concat {before : List String} (busy : isIdle name = false)
    (down : name ≠ "..") (named : path.segments = before ++ [name]) :
    path.temporary = ⟨before ++ [temporaryName name]⟩ ∨ path.temporary = ⟨before ++ [".."]⟩ := by
  obtain ⟨rest, split, body⟩ := front_body_of_concat busy named
  have fileName : path.fileName? = some name := by
    simp [fileName?, body, down]
  have kept : path.front ++ path.body.dropLast = before := by
    rw [body, List.dropLast_concat, split]
  unfold temporary
  simp only [fileName, kept]
  split
  · rw [if_pos (by simp [named])]
    exact .inr rfl
  · rename_i stem _ parts
    rw [temporaryName, parts]
    exact .inl rfl

theorem temporary_join (directory : Path) (busy : isIdle name = false) (down : name ≠ "..") :
    (directory.join ⟨[name]⟩).temporary = directory.join ⟨[temporaryName name]⟩ ∨
      (directory.join ⟨[name]⟩).temporary = ⟨directory.opened ++ [".."]⟩ := by
  rw [join_name directory (temporaryName name)]
  exact temporary_of_concat busy down (by rw [join_name])

theorem parent_join (directory : Path) (busy : isIdle name = false) :
    ∃ parent, (directory.join ⟨[name]⟩).parent? = some parent ∧ parent.names = directory.names := by
  have segments : (directory.join ⟨[name]⟩).segments = directory.opened ++ [name] := by
    rw [join_name]
  obtain ⟨rest, before, body⟩ := front_body_of_concat busy segments
  obtain ⟨idle, whole, all⟩ := directory.exists_closing
  cases above : (directory.join ⟨[name]⟩).parent? with
  | none =>
    unfold parent? at above
    rw [body] at above
    split at above
    · rename_i nothing
      simp at nothing
    · cases above
  | some parent =>
    refine ⟨parent, rfl, ?_⟩
    rw [names_parent above, body, List.dropLast_concat, names, whole, before, namesOf_append,
      namesOf_append, namesOf_eq_nil all, namesOf_front, List.append_nil, List.nil_append]

end Path

namespace Volume

variable {volume : Volume} {path directory parent : Path} {name : String}

theorem follow_eq_append (location : Location) {segments : List String} (down : ".." ∉ segments) :
    follow location segments = location ++ Path.namesOf segments := by
  induction segments generalizing location with
  | nil => simp [follow, Path.namesOf]
  | cons segment rest ih =>
    rw [List.mem_cons, not_or] at down
    rw [follow, ih _ down.2, ih _ down.2, if_neg (Ne.symm down.1)]
    by_cases idle : Path.isIdle segment = true
    · simp [idle, Path.namesOf]
    · simp [idle, ih _ down.2, Path.namesOf]

theorem locate_eq_append (down : ".." ∉ path.segments) :
    volume.locate path = (if path.isAbsolute then [] else volume.current) ++ path.names :=
  follow_eq_append _ down

theorem locate_parent (above : path.parent? = some parent) (down : ".." ∉ path.segments) :
    volume.locate parent <+: volume.locate path := by
  rw [locate_eq_append down, locate_eq_append (Path.up_not_mem_parent above down),
    Path.isAbsolute_parent above]
  exact (List.prefix_append_right_inj _).mpr (Path.isPrefix_names_parent above)

theorem locate_ancestors {steps : Nat} (down : ".." ∉ path.segments) :
    ∀ ancestor ∈ path.ancestors steps, volume.locate ancestor <+: volume.locate path := by
  induction steps generalizing path with
  | zero =>
    intro ancestor mem
    cases mem
  | succ steps ih =>
    intro ancestor mem
    unfold Path.ancestors at mem
    split at mem
    · cases mem
    · rcases List.mem_cons.mp mem with rfl | further
      · exact List.prefix_refl _
      · split at further
        · rename_i parent above
          have starts : volume.locate parent <+: volume.locate path := locate_parent above down
          exact (ih (Path.up_not_mem_parent above down) ancestor further).trans starts
        · cases further

theorem locate_join (directory : Path) (busy : Path.isIdle name = false) (down : name ≠ "..") :
    volume.locate (directory.join ⟨[name]⟩) = volume.locate directory ++ [name] := by
  obtain ⟨idle, whole, all⟩ := directory.exists_closing
  rw [locate, locate, Path.isAbsolute_join directory busy, Path.join_name, whole, follow_append,
    follow_append, follow_idle _ all]
  simp [follow, busy, down]

theorem locate_directories_join (busy : Path.isIdle name = false)
    (inside : ".." ∉ directory.segments) : ∀ above ∈ (directory.join ⟨[name]⟩).directories,
      volume.locate above <+: volume.locate directory := by
  obtain ⟨parent, above, names⟩ := Path.parent_join directory busy
  have further : ".." ∉ parent.segments := by
    rwa [← Path.up_mem_names_iff, names, Path.up_mem_names_iff]
  have same : volume.locate parent = volume.locate directory := by
    rw [locate_eq_append further, locate_eq_append inside, names, Path.isAbsolute_parent above,
      Path.isAbsolute_join directory busy]
  unfold Path.directories
  rw [above, ← same]
  exact locate_ancestors further

end Volume

end RestGraph.Files
