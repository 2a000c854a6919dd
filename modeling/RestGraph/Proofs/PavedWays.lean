import RestGraph.Proofs.PlainPaths
/-!
Making the directories of a plain path. In a tree they are all made unless a file stands on the way;
then nothing is made at all.
-/

set_option autoImplicit false

namespace RestGraph.Files.Volume

/-- From one volume to another, the directories on the way of some names were made as far as they
were missing, and nothing else changed. -/
structure Paved (dirs : List String) (volume other : Volume) : Prop where
  current : other.current = volume.current
  nameLimit : other.nameLimit = volume.nameLimit
  pathLimit : other.pathLimit = volume.pathLimit
  node : ∀ location, other.node? location =
    if location <+: volume.current ++ dirs then some .directory else volume.node? location

/-- No file stands on the way of some names. -/
def Free (volume : Volume) (dirs : List String) : Prop :=
  ∀ above, above <+: dirs → ∀ content, volume.node? (volume.current ++ above) ≠ some (.file content)

section Ways

variable {volume middle other : Volume} {dirs : List String} {name : String}

theorem IsTree.directory_of_prefix (tree : volume.IsTree) {location way : Location}
    (there : volume.node? way = some .directory) (above : location <+: way) :
    volume.node? location = some .directory := by
  obtain ⟨below, rfl⟩ := above
  by_cases proper : below = []
  · rwa [proper, List.append_nil] at there
  · exact tree.directory_above proper (by rw [there]; simp)

theorem free_of_directory (tree : volume.IsTree)
    (there : volume.node? (volume.current ++ dirs) = some .directory) : volume.Free dirs := by
  intro above way content file
  have directory := tree.directory_of_prefix there ((List.prefix_append_right_inj _).mpr way)
  rw [file] at directory
  cases directory

theorem exists_file_of_not_free (tree : volume.IsTree) (blocked : ¬ volume.Free dirs) :
    ∃ above content, above ≠ [] ∧ above <+: dirs ∧
      volume.node? (volume.current ++ above) = some (.file content) := by
  unfold Free at blocked
  push Not at blocked
  obtain ⟨above, way, content, file⟩ := blocked
  refine ⟨above, content, ?_, way, file⟩
  rintro rfl
  rw [List.append_nil, tree.here] at file
  cases file

theorem Paved.refl (tree : volume.IsTree)
    (there : volume.node? (volume.current ++ dirs) = some .directory) :
    Paved dirs volume volume where
  current := rfl
  nameLimit := rfl
  pathLimit := rfl
  node := by
    intro location
    split
    · rename_i above
      exact tree.directory_of_prefix there above
    · rfl

theorem Paved.trans {further : List String} (first : Paved dirs volume middle)
    (second : Paved (dirs ++ further) middle other) : Paved (dirs ++ further) volume other where
  current := second.current.trans first.current
  nameLimit := second.nameLimit.trans first.nameLimit
  pathLimit := second.pathLimit.trans first.pathLimit
  node := by
    intro location
    rw [second.node, first.node, first.current]
    by_cases way : location <+: volume.current ++ (dirs ++ further)
    · rw [if_pos way, if_pos way]
    · have short : ¬ location <+: volume.current ++ dirs := by
        intro above
        rw [← List.append_assoc] at way
        exact way (above.trans (List.prefix_append _ _))
      rw [if_neg way, if_neg way, if_neg short]

theorem Paved.insert (tree : volume.IsTree)
    (there : volume.node? (volume.current ++ dirs) = some .directory) :
    Paved (dirs ++ [name]) volume
      (volume.insert (volume.current ++ dirs ++ [name]) .directory) where
  current := rfl
  nameLimit := rfl
  pathLimit := rfl
  node := by
    intro location
    rw [node?_insert (by simp), ← List.append_assoc]
    by_cases last : location = volume.current ++ dirs ++ [name]
    · rw [if_pos last, if_pos (List.prefix_concat_iff.mpr (.inl last))]
    · by_cases way : location <+: volume.current ++ dirs
      · rw [if_neg last, if_pos (List.prefix_concat_iff.mpr (.inr way)),
          tree.directory_of_prefix there way]
      · have apart : ¬ location <+: volume.current ++ dirs ++ [name] := by
          rw [List.prefix_concat_iff]
          exact not_or.mpr ⟨last, way⟩
        rw [if_neg last, if_neg apart]

theorem Paved.unlimited (paved : Paved dirs volume other) (unlimited : volume.Unlimited) :
    other.Unlimited where
  names := paved.nameLimit.trans unlimited.names
  paths := paved.pathLimit.trans unlimited.paths

theorem Paved.there (paved : Paved dirs volume other) :
    other.node? (other.current ++ dirs) = some .directory := by
  rw [paved.node, paved.current, if_pos List.prefix_rfl]

theorem Paved.tree (paved : Paved dirs volume other) (tree : volume.IsTree) : other.IsTree where
  here := by
    rw [paved.node, paved.current, if_pos (List.prefix_append _ _)]
  above := by
    intro location name there
    rw [paved.node] at there ⊢
    by_cases way : location <+: volume.current ++ dirs
    · rw [if_pos way]
    · have longer : ¬ location ++ [name] <+: volume.current ++ dirs := fun above =>
        way ((List.prefix_append _ _).trans above)
      rw [if_neg longer] at there
      rw [if_neg way]
      exact tree.above _ _ there

theorem not_prefix_of_longer (location : Location) (dirs : List String) (name : String) :
    ¬ location ++ dirs ++ [name] <+: location ++ dirs := by
  intro way
  have length := way.length_le
  rw [List.length_append, List.length_singleton] at length
  omega

theorem Paved.node_below (paved : Paved dirs volume other) (name : String) :
    other.node? (volume.current ++ dirs ++ [name]) =
      volume.node? (volume.current ++ dirs ++ [name]) := by
  rw [paved.node, if_neg (not_prefix_of_longer _ _ _)]

end Ways

section Making

variable {volume changed : Volume} {dirs : List String} {name : String}
  {result : Except Fault Unit}

theorem Attempt.paved (tree : volume.IsTree) (unlimited : volume.Unlimited)
    (plain : ∀ segment ∈ dirs ++ [name], IsPlainName segment)
    (there : volume.node? (volume.current ++ dirs) = some .directory)
    (free : ∀ content, volume.node? (volume.current ++ dirs ++ [name]) ≠ some (.file content))
    (attempt : Attempt ⟨dirs ++ [name]⟩ volume result changed) :
    result = .ok () ∧ Paved (dirs ++ [name]) volume changed := by
  have before := (List.forall_mem_append.mp plain).1
  have outcome := volume.makeDirectory_of_plain unlimited plain
  rw [walk_of_directory tree unlimited before there] at outcome
  dsimp only at outcome
  cases standing : volume.node? (volume.current ++ dirs ++ [name]) with
  | none =>
    simp only [standing] at outcome
    cases attempt with
    | made done =>
      obtain rfl := Except.ok.inj (outcome.symm.trans done)
      exact ⟨rfl, .insert tree there⟩
    | there failed | refused failed => simp [outcome] at failed
  | some node =>
    cases node with
    | file content => exact absurd standing (free content)
    | directory =>
      simp only [standing] at outcome
      have way : volume.node? (volume.current ++ (dirs ++ [name])) = some .directory := by
        rwa [← List.append_assoc]
      cases attempt with
      | made done => simp [outcome] at done
      | there => exact ⟨rfl, .refl tree way⟩
      | refused _ absent =>
        rw [directoryAt_of_plain unlimited plain,
          walk_of_directory tree unlimited plain way] at absent
        cases absent

/-- Without a file on the way, all directories of a plain path are made. -/
theorem Attempts.paved (tree : volume.IsTree) (unlimited : volume.Unlimited)
    (plain : ∀ segment ∈ dirs, IsPlainName segment) (free : volume.Free dirs) {steps : Nat}
    (enough : dirs.length ≤ steps)
    (attempts : Attempts ((Path.ofParts [] dirs).ancestors steps) volume result changed) :
    result = .ok () ∧ Paved dirs volume changed := by
  -- The last directory is made at once, or after those above it.
  induction dirs using List.reverseRecOn generalizing steps result changed with
  | nil =>
    rw [Path.ancestors_nil] at attempts
    cases attempts with
    | nothing => exact ⟨rfl, .refl tree (by rw [List.append_nil]; exact tree.here)⟩
  | append_singleton before name ih =>
    obtain ⟨further, rfl⟩ : ∃ further, steps = further + 1 := by
      refine ⟨steps - 1, ?_⟩
      rw [List.length_append, List.length_singleton] at enough
      omega
    have shorter : before.length ≤ further := by
      rw [List.length_append, List.length_singleton] at enough
      omega
    rw [Path.ofParts_concat, Path.ancestors_concat plain] at attempts
    have plainBefore := (List.forall_mem_append.mp plain).1
    have freeBefore : volume.Free before := fun above way =>
      free above (way.trans (List.prefix_append _ _))
    have freeLast : ∀ content,
        volume.node? (volume.current ++ before ++ [name]) ≠ some (.file content) := by
      rw [List.append_assoc]
      exact free _ List.prefix_rfl
    have outcome := volume.makeDirectory_of_plain unlimited plain
    by_cases there : volume.node? (volume.current ++ before) = some .directory
    · rw [walk_of_directory tree unlimited plainBefore there] at outcome
      have possible : volume.makeDirectory ⟨before ++ [name]⟩ ≠ .error .missing := by
        rw [outcome]
        dsimp only
        split <;> simp
      cases attempts with
      | atOnce _ attempt => exact attempt.paved tree unlimited plain there freeLast
      | stopped missing | afterwards missing => exact absurd missing possible
    · have absent : volume.node? (volume.current ++ before) = none := by
        cases standing : volume.node? (volume.current ++ before) with
        | none => rfl
        | some node =>
          cases node with
          | file content => exact absurd standing (freeBefore _ List.prefix_rfl content)
          | directory => exact absurd standing there
      rw [walk_of_absent unlimited plainBefore tree.here freeBefore there] at outcome
      cases attempts with
      | atOnce possible => exact absurd outcome possible
      | stopped _ others => cases (ih plainBefore freeBefore shorter others).1
      | @afterwards _ _ _ middle _ _ _ others attempt =>
        have first := (ih plainBefore freeBefore shorter others).2
        have fresh : middle.node? (middle.current ++ before ++ [name]) = none := by
          rw [first.current, first.node_below]
          exact tree.absent_below absent [name]
        obtain ⟨done, second⟩ := attempt.paved (first.tree tree) (first.unlimited unlimited) plain
          first.there (by rw [fresh]; simp)
        exact ⟨done, first.trans second⟩

/-- A file on the way stops the making of directories before it begins. -/
theorem Attempts.blocked (tree : volume.IsTree) (unlimited : volume.Unlimited)
    (plain : ∀ segment ∈ dirs ++ [name], IsPlainName segment) {above : List String}
    (proper : above ≠ []) (way : above <+: dirs ++ [name]) {content : ByteArray}
    (file : volume.node? (volume.current ++ above) = some (.file content)) {steps : Nat}
    (attempts : Attempts ((⟨dirs ++ [name]⟩ : Path).ancestors (steps + 1)) volume result changed) :
    (∃ fault, result = .error fault) ∧ changed = volume := by
  have stopped := walk_of_file tree unlimited plain proper way file
  have nowhere := (directoryAt_of_plain unlimited plain).trans stopped
  have refused : ∃ fault, volume.makeDirectory ⟨dirs ++ [name]⟩ = .error fault ∧
      fault ≠ .missing := by
    rw [makeDirectory_of_plain unlimited plain]
    rw [walk_append] at stopped
    cases before : volume.walk volume.current dirs with
    | error fault =>
      rw [before] at stopped
      obtain rfl := Except.error.inj stopped
      exact ⟨_, rfl, by simp⟩
    | ok directory =>
      rw [before, ok_bind, walk_cons_of_plain unlimited (plain name (by simp))] at stopped
      split at stopped
      · cases stopped
      · rename_i standing
        simp only [standing]
        exact ⟨_, rfl, by simp⟩
      · cases stopped
  obtain ⟨fault, failed, other⟩ := refused
  rw [Path.ancestors_concat plain] at attempts
  cases attempts with
  | atOnce _ attempt =>
    cases attempt with
    | made done => simp [failed] at done
    | there _ found => simp [nowhere] at found
    | refused => exact ⟨⟨_, rfl⟩, rfl⟩
  | stopped missing | afterwards missing =>
    rw [failed] at missing
    exact absurd (Except.error.inj missing) other

end Making

section Parents

variable {volume changed : Volume} {dirs : List String} {name : String}
  {result : Except WriteFault Unit}

theorem exists_directories (plain : ∀ segment ∈ dirs ++ [name], IsPlainName segment) :
    ∃ steps, dirs.length ≤ steps ∧
      (⟨dirs ++ [name]⟩ : Path).directories = (Path.ofParts [] dirs).ancestors (steps + 1) := by
  refine ⟨(Path.ofParts [] dirs).segments.length, ?_, ?_⟩
  · cases dirs with
    | nil => exact Nat.zero_le _
    | cons first rest => exact Nat.le_refl _
  · rw [Path.directories, Path.parent?_of_plain plain]
    rfl

theorem MakesParents.paved (tree : volume.IsTree) (unlimited : volume.Unlimited)
    (plain : ∀ segment ∈ dirs ++ [name], IsPlainName segment) (free : volume.Free dirs)
    (parents : MakesParents ⟨dirs ++ [name]⟩ volume result changed) :
    result = .ok () ∧ Paved dirs volume changed := by
  have before := (List.forall_mem_append.mp plain).1
  obtain ⟨steps, enough, above⟩ := exists_directories plain
  cases parents with
  | done attempts =>
    rw [above] at attempts
    exact ⟨rfl, (attempts.paved tree unlimited before free (Nat.le_succ_of_le enough)).2⟩
  | failed _ attempts =>
    rw [above] at attempts
    cases (attempts.paved tree unlimited before free (Nat.le_succ_of_le enough)).1

theorem MakesParents.blocked (tree : volume.IsTree) (unlimited : volume.Unlimited)
    (plain : ∀ segment ∈ dirs ++ [name], IsPlainName segment) (blocked : ¬ volume.Free dirs)
    (parents : MakesParents ⟨dirs ++ [name]⟩ volume result changed) :
    result = .error ⟨⟨dirs⟩⟩ ∧ changed = volume := by
  obtain ⟨above, content, proper, way, file⟩ := exists_file_of_not_free tree blocked
  have before := (List.forall_mem_append.mp plain).1
  obtain ⟨steps, -, directories⟩ := exists_directories plain
  -- The file is on the way, so there is a last directory to be made.
  rcases dirs.eq_nil_or_concat' with rfl | ⟨outer, last, rfl⟩
  · exact absurd (List.prefix_nil.mp way) proper
  rw [Path.ofParts_concat] at directories
  cases parents with
  | done attempts =>
    rw [directories] at attempts
    obtain ⟨⟨fault, failed⟩, -⟩ := attempts.blocked tree unlimited before proper way file
    cases failed
  | failed parent attempts =>
    rw [directories] at attempts
    rw [Path.parent?_of_plain plain, Path.ofParts_concat] at parent
    obtain rfl := Option.some.inj parent
    exact ⟨rfl, (attempts.blocked tree unlimited before proper way file).2⟩

theorem MakesParents.there (tree : volume.IsTree) (unlimited : volume.Unlimited)
    (plain : ∀ segment ∈ dirs ++ [name], IsPlainName segment)
    (there : volume.node? (volume.current ++ dirs) = some .directory)
    (parents : MakesParents ⟨dirs ++ [name]⟩ volume result changed) :
    result = .ok () ∧ changed = volume := by
  have before := (List.forall_mem_append.mp plain).1
  obtain ⟨steps, -, directories⟩ := exists_directories plain
  have standing : ∀ directory, (⟨dirs ++ [name]⟩ : Path).directories.head? = some directory →
      ∃ found, volume.directoryAt directory = .ok found := by
    intro directory first
    rw [directories] at first
    rcases dirs.eq_nil_or_concat' with rfl | ⟨outer, last, rfl⟩
    · rw [Path.ancestors_nil] at first
      cases first
    · rw [Path.ofParts_concat, Path.ancestors_concat before] at first
      obtain rfl := Option.some.inj first
      exact ⟨_, (directoryAt_of_plain unlimited before).trans
        (walk_of_directory tree unlimited before there)⟩
  exact parents.unchanged standing

end Parents

end RestGraph.Files.Volume
