import RestGraph.Proofs.PavedWays
/-!
Every outcome of writing a file as a whole. In a tree it is decided beforehand by what stands on the
way of the path, at its temporary file and at the path itself, and each outcome is known entry by
entry: what is missing on the way is made, the temporary file is used up, and nothing else changes.
-/

set_option autoImplicit false

namespace RestGraph.Files.Volume

section Temporary

variable {volume : Volume} {dirs : List String} {name : String} {found : Location}

theorem directory_of_walk (tree : volume.IsTree) (unlimited : volume.Unlimited)
    (plain : ∀ segment ∈ dirs, IsPlainName segment)
    (walked : volume.walk volume.current dirs = .ok found) :
    volume.node? (volume.current ++ dirs) = some .directory := by
  by_contra absent
  by_cases free : volume.Free dirs
  · rw [walk_of_absent unlimited plain tree.here free absent] at walked
    cases walked
  · obtain ⟨above, content, proper, way, file⟩ := exists_file_of_not_free tree free
    rw [walk_of_file tree unlimited plain proper way file] at walked
    cases walked

theorem there_of_directoryAt (tree : volume.IsTree) (unlimited : volume.Unlimited)
    (plain : ∀ segment ∈ dirs ++ [name], IsPlainName segment)
    (full : volume.directoryAt (⟨dirs ++ [name]⟩ : Path).temporary = .ok found) :
    volume.node? (volume.current ++ dirs) = some .directory := by
  have before := (List.forall_mem_append.mp plain).1
  have reached : ∀ last, last ≠ "" → volume.directoryAt ⟨dirs ++ [last]⟩ = .ok found →
      volume.node? (volume.current ++ dirs) = some .directory := by
    intro last filled there
    obtain ⟨⟨location, segments⟩, started, walked⟩ := exists_of_bind_eq_ok there
    have relative := Path.isAbsolute_concat before filled
    rcases start_eq_ok started with ⟨absolute, -, -⟩ | ⟨-, rfl, rfl⟩
    · rw [relative] at absolute
      cases absolute
    · replace walked : volume.walk volume.current (dirs ++ [last]) = .ok found := walked
      rw [walk_append] at walked
      obtain ⟨middle, first, -⟩ := exists_of_bind_eq_ok walked
      exact directory_of_walk tree unlimited before first
  rcases Path.temporary_of_plain plain with beside | up
  · rw [beside] at full
    refine reached _ ?_ full
    intro empty
    have busy := (Path.plain_temporaryName name).1
    rw [empty] at busy
    cases busy
  · rw [up] at full
    exact reached ".." (by decide) full

theorem writeFile_of_directoryAt {path : Path} (there : volume.directoryAt path = .ok found)
    (content : ByteArray) : ∃ fault, volume.writeFile path content = .error fault := by
  obtain ⟨⟨location, segments⟩, started, walked⟩ := exists_of_bind_eq_ok there
  unfold writeFile entryAt
  rw [started, ok_bind]
  rcases nameAt_of_walk walked with refused | ⟨entry, directory⟩
  · simp only [refused]
    exact ⟨_, rfl⟩
  · simp only [entry, ok_bind, directory]
    exact ⟨_, rfl⟩

end Temporary

section Outcomes

variable {volume middle changed : Volume} {dirs : List String} {name : String}
  {content : ByteArray} {result : Except WriteFault Unit}

def Leads (volume : Volume) (path : Path) : Prop :=
  ∃ found, volume.directoryAt path = .ok found

theorem Writes.of_blocked (tree : volume.IsTree) (unlimited : volume.Unlimited)
    (plain : ∀ segment ∈ dirs ++ [name], IsPlainName segment) (blocked : ¬ volume.Free dirs)
    (writes : Writes ⟨dirs ++ [name]⟩ content volume result changed) :
    result = .error ⟨⟨dirs⟩⟩ ∧ changed = volume := by
  cases writes with
  | noDirectory parents =>
    obtain ⟨failed, rfl⟩ := parents.blocked tree unlimited plain blocked
    exact ⟨congrArg _ (Except.error.inj failed), rfl⟩
  | noTemporary parents | inPlace parents | cleaned parents | left parents =>
    cases (parents.blocked tree unlimited plain blocked).1

theorem Writes.of_full (tree : volume.IsTree) (unlimited : volume.Unlimited)
    (plain : ∀ segment ∈ dirs ++ [name], IsPlainName segment)
    (full : volume.Leads (⟨dirs ++ [name]⟩ : Path).temporary)
    (writes : Writes ⟨dirs ++ [name]⟩ content volume result changed) :
    result = .error ⟨(⟨dirs ++ [name]⟩ : Path).temporary⟩ ∧ changed = volume := by
  obtain ⟨found, reached⟩ := full
  have there := there_of_directoryAt tree unlimited plain reached
  obtain ⟨fault, refused⟩ := writeFile_of_directoryAt reached content
  cases writes with
  | noDirectory parents => cases (parents.there tree unlimited plain there).1
  | noTemporary parents => exact ⟨rfl, (parents.there tree unlimited plain there).2⟩
  | inPlace parents filled | cleaned parents filled | left parents filled =>
    obtain ⟨-, rfl⟩ := parents.there tree unlimited plain there
    rw [refused] at filled
    cases filled

theorem Writes.of_nameless (tree : volume.IsTree) (unlimited : volume.Unlimited)
    (plain : ∀ segment ∈ dirs ++ [name], IsPlainName segment) (free : volume.Free dirs)
    (nameless : (⟨dirs ++ [name]⟩ : Path).temporary = ⟨dirs ++ [".."]⟩)
    (writes : Writes ⟨dirs ++ [name]⟩ content volume result changed) :
    result = .error ⟨(⟨dirs ++ [name]⟩ : Path).temporary⟩ ∧ Paved dirs volume changed := by
  cases writes with
  | noDirectory parents => cases (parents.paved tree unlimited plain free).1
  | noTemporary parents => exact ⟨rfl, (parents.paved tree unlimited plain free).2⟩
  | inPlace _ filled | cleaned _ filled | left _ filled =>
    rw [nameless] at filled
    exact absurd (writeFile_eq_ok filled).1 (entryAt_ne_ok_of_up List.getLast?_concat _)

theorem Paved.entryAt (paved : Paved dirs volume middle) (tree : volume.IsTree)
    (unlimited : volume.Unlimited) (plain : ∀ segment ∈ dirs ++ [name], IsPlainName segment) :
    middle.entryAt ⟨dirs ++ [name]⟩ = .ok (volume.current ++ dirs ++ [name]) := by
  rw [← paved.current]
  exact entryAt_of_plain (paved.tree tree) (paved.unlimited unlimited) plain paved.there

theorem not_directory_of_not_leads (tree : volume.IsTree) (unlimited : volume.Unlimited)
    (plain : ∀ segment ∈ dirs ++ [name], IsPlainName segment)
    (empty : ¬ volume.Leads ⟨dirs ++ [name]⟩) :
    volume.node? (volume.current ++ dirs ++ [name]) ≠ some .directory := by
  intro directory
  rw [List.append_assoc] at directory
  exact empty ⟨_, (directoryAt_of_plain unlimited plain).trans
    (walk_of_directory tree unlimited plain directory)⟩

theorem rename_onto_directory {source target : Path} {old new : Location}
    (out : volume.entryAt source = .ok old) (onto : volume.entryAt target = .ok new)
    (present : volume.node? old = some (.file content))
    (taken : volume.node? new = some .directory) :
    volume.rename source target = .error .isDirectory := by
  unfold rename
  rw [out, onto, ok_bind, ok_bind]
  simp only [present, taken]

theorem removeFile_of_entryAt {path : Path} {location : Location}
    (entry : volume.entryAt path = .ok location)
    (present : volume.node? location = some (.file content)) :
    volume.removeFile path = .ok (volume.erase location) := by
  unfold removeFile
  rw [entry, ok_bind]
  simp only [present]
  rfl

theorem plain_beside (plain : ∀ segment ∈ dirs ++ [name], IsPlainName segment) :
    ∀ segment ∈ dirs ++ [Path.temporaryName name], IsPlainName segment := by
  intro segment mem
  rcases List.mem_append.mp mem with before | last
  · exact plain segment (List.mem_append_left _ before)
  · rw [List.mem_singleton.mp last]
    exact Path.isPlainName_temporaryName (plain name (by simp))

theorem Paved.filled (paved : Paved dirs volume middle) (tree : volume.IsTree)
    (unlimited : volume.Unlimited) (plain : ∀ segment ∈ dirs ++ [name], IsPlainName segment)
    (empty : ¬ volume.Leads ⟨dirs ++ [Path.temporaryName name]⟩) (content : ByteArray) :
    let beside := volume.current ++ dirs ++ [Path.temporaryName name]
    let target := volume.current ++ dirs ++ [name]
    let filled := middle.insert beside (.file content)
    middle.writeFile ⟨dirs ++ [Path.temporaryName name]⟩ content = .ok filled ∧
      filled.entryAt ⟨dirs ++ [Path.temporaryName name]⟩ = .ok beside ∧
      filled.entryAt ⟨dirs ++ [name]⟩ = .ok target ∧
      filled.node? beside = some (.file content) ∧
      (filled.node? target = some .directory ↔ volume.node? target = some .directory) := by
  intro beside target filled
  have inside := paved.entryAt tree unlimited (plain_beside plain)
  have free : volume.node? beside ≠ some .directory :=
    not_directory_of_not_leads tree unlimited (plain_beside plain) empty
  have apart : middle.node? beside ≠ some .directory := by rwa [paved.node_below]
  have placed : ChangedAt [] [beside] middle filled := .insert_file (by simp [beside]) apart content
  have present : filled.node? beside = some (.file content) := by
    rw [node?_insert (by simp [beside]), if_pos rfl]
  refine ⟨writeFile_of_entryAt inside apart content, placed.entryAt_eq_ok inside,
    placed.entryAt_eq_ok (paved.entryAt tree unlimited plain), present, ?_⟩
  by_cases same : target = beside
  · rw [same, present]
    simp [free]
  · rw [placed.unchanged (by simp) (by simpa using same), paved.node_below]

theorem Writes.of_taken (tree : volume.IsTree) (unlimited : volume.Unlimited)
    (plain : ∀ segment ∈ dirs ++ [name], IsPlainName segment)
    (named : (⟨dirs ++ [name]⟩ : Path).temporary = ⟨dirs ++ [Path.temporaryName name]⟩)
    (empty : ¬ volume.Leads ⟨dirs ++ [Path.temporaryName name]⟩)
    (taken : volume.node? (volume.current ++ dirs ++ [name]) = some .directory)
    (writes : Writes ⟨dirs ++ [name]⟩ content volume result changed) :
    result = .error ⟨⟨dirs ++ [name]⟩⟩ ∧ ∀ location, changed.node? location =
      if location = volume.current ++ dirs ++ [Path.temporaryName name] then none
      else volume.node? location := by
  have there : volume.node? (volume.current ++ dirs) = some .directory :=
    tree.above _ name (by rw [taken]; simp)
  obtain ⟨full, beside, entry, present, stays⟩ :=
    (Paved.refl tree there).filled tree unlimited plain empty content
  have moved := rename_onto_directory beside entry present (stays.mpr taken)
  have removed := removeFile_of_entryAt beside present
  -- No directory is made, the temporary file is filled but cannot be moved, and it goes away.
  cases writes with
  | noDirectory parents => cases (parents.there tree unlimited plain there).1
  | noTemporary parents refused =>
    obtain ⟨-, rfl⟩ := parents.there tree unlimited plain there
    rw [named, full] at refused
    cases refused
  | inPlace parents filled renamed =>
    obtain ⟨-, rfl⟩ := parents.there tree unlimited plain there
    rw [named] at filled renamed
    obtain rfl := Except.ok.inj (full.symm.trans filled)
    rw [moved] at renamed
    cases renamed
  | cleaned parents filled _ erased =>
    obtain ⟨-, rfl⟩ := parents.there tree unlimited plain there
    rw [named] at filled erased
    obtain rfl := Except.ok.inj (full.symm.trans filled)
    obtain rfl := Except.ok.inj (removed.symm.trans erased)
    refine ⟨rfl, fun location => ?_⟩
    rw [node?_erase (by simp), node?_insert (by simp)]
    split <;> rfl
  | left parents filled _ kept =>
    obtain ⟨-, rfl⟩ := parents.there tree unlimited plain there
    rw [named] at filled kept
    obtain rfl := Except.ok.inj (full.symm.trans filled)
    rw [removed] at kept
    cases kept

theorem Writes.of_free (tree : volume.IsTree) (unlimited : volume.Unlimited)
    (plain : ∀ segment ∈ dirs ++ [name], IsPlainName segment) (free : volume.Free dirs)
    (named : (⟨dirs ++ [name]⟩ : Path).temporary = ⟨dirs ++ [Path.temporaryName name]⟩)
    (empty : ¬ volume.Leads ⟨dirs ++ [Path.temporaryName name]⟩)
    (untaken : volume.node? (volume.current ++ dirs ++ [name]) ≠ some .directory)
    (writes : Writes ⟨dirs ++ [name]⟩ content volume result changed) :
    result = .ok () ∧ ∃ middle, Paved dirs volume middle ∧ ∀ location, changed.node? location =
      if location = volume.current ++ dirs ++ [name] then some (.file content)
      else if location = volume.current ++ dirs ++ [Path.temporaryName name] then none
      else middle.node? location := by
  cases writes with
  | noDirectory parents => cases (parents.paved tree unlimited plain free).1
  | noTemporary parents refused =>
    obtain ⟨-, paved⟩ := parents.paved tree unlimited plain free
    rw [named, (paved.filled tree unlimited plain empty content).1] at refused
    cases refused
  | @inPlace middle _ _ parents filled renamed =>
    obtain ⟨-, paved⟩ := parents.paved tree unlimited plain free
    obtain ⟨full, beside, entry, present, stays⟩ :=
      paved.filled tree unlimited plain empty content
    rw [named] at filled renamed
    obtain rfl := Except.ok.inj (full.symm.trans filled)
    have moved := rename_of_entryAt beside entry present (mt stays.mp untaken)
    obtain rfl := Except.ok.inj (moved.symm.trans renamed)
    refine ⟨rfl, middle, paved, fun location => ?_⟩
    rw [node?_insert (by simp), node?_erase (by simp), node?_insert (by simp)]
    split
    · rfl
    · split <;> rfl
  | cleaned parents filled refused | left parents filled refused =>
    obtain ⟨-, paved⟩ := parents.paved tree unlimited plain free
    obtain ⟨full, beside, entry, present, stays⟩ :=
      paved.filled tree unlimited plain empty content
    rw [named] at filled refused
    obtain rfl := Except.ok.inj (full.symm.trans filled)
    rw [rename_of_entryAt beside entry present (mt stays.mp untaken)] at refused
    cases refused

end Outcomes

/-- Writing a file as a whole at a plain path in a tree. A file on the way of the path is a failure
at the directory of the path, and a directory at the temporary file is a failure there; nothing
changes then. Otherwise the missing directories are made. If the name of the path leaves no name for
a temporary file, that is all, and the write fails there. If a directory stands at the path, it
stays, and only the temporary file is gone. Else the path holds the content. -/
theorem writeWhole_account (volume : Volume) (dirs : List String) (name content : String)
    (tree : volume.IsTree) (unlimited : volume.Unlimited)
    (plain : ∀ segment ∈ dirs ++ [name], IsPlainName segment) :
    let path : Path := ⟨dirs ++ [name]⟩
    let temporary := path.temporary
    let target := volume.current ++ path.segments
    let beside := volume.current ++ temporary.segments
    let paved := fun location : Location =>
      if location <+: volume.current ++ dirs then some .directory else volume.node? location
    let run := writeWhole (m := StateM Volume) path content volume
    (¬ volume.Free dirs → run = (.error ⟨⟨dirs⟩⟩, volume)) ∧
    (volume.Free dirs → volume.Leads temporary → run = (.error ⟨temporary⟩, volume)) ∧
    (volume.Free dirs → ¬ volume.Leads temporary → temporary = ⟨dirs ++ [".."]⟩ →
      run.1 = .error ⟨temporary⟩ ∧ run.2.node? = paved) ∧
    (volume.Free dirs → ¬ volume.Leads temporary → temporary ≠ ⟨dirs ++ [".."]⟩ →
      volume.node? target = some .directory →
        run.1 = .error ⟨path⟩ ∧ run.2.node? beside = none ∧
          ∀ location, location ≠ beside → run.2.node? location = volume.node? location) ∧
    (volume.Free dirs → ¬ volume.Leads temporary → temporary ≠ ⟨dirs ++ [".."]⟩ →
      volume.node? target ≠ some .directory →
        run.1 = .ok () ∧ run.2.node? target = some (.file content.toUTF8) ∧
          (beside ≠ target → run.2.node? beside = none) ∧
          ∀ location, location ≠ target → location ≠ beside →
            run.2.node? location = paved location) := by
  intro path temporary target beside paved run
  have writes : Writes path content.toUTF8 volume run.1 run.2 := writes_writeWhole _ _ _
  have target_eq : target = volume.current ++ dirs ++ [name] := (List.append_assoc _ _ _).symm
  have temporary_eq : temporary ≠ ⟨dirs ++ [".."]⟩ →
      temporary = ⟨dirs ++ [Path.temporaryName name]⟩ :=
    (Path.temporary_of_plain plain).resolve_right
  have beside_eq : temporary ≠ ⟨dirs ++ [".."]⟩ →
      beside = volume.current ++ dirs ++ [Path.temporaryName name] := by
    intro named
    rw [List.append_assoc]
    exact congrArg (fun path : Path => volume.current ++ path.segments) (temporary_eq named)
  refine ⟨?_, ?_, ?_, ?_, ?_⟩
  · intro blocked
    obtain ⟨outcome, same⟩ := writes.of_blocked tree unlimited plain blocked
    exact Prod.ext outcome same
  · intro _ full
    obtain ⟨outcome, same⟩ := writes.of_full tree unlimited plain full
    exact Prod.ext outcome same
  · intro free _ nameless
    obtain ⟨outcome, way⟩ := writes.of_nameless tree unlimited plain free nameless
    exact ⟨outcome, funext way.node⟩
  · intro free empty named taken
    rw [temporary_eq named] at empty
    rw [target_eq] at taken
    obtain ⟨outcome, entries⟩ :=
      writes.of_taken tree unlimited plain (temporary_eq named) empty taken
    rw [← beside_eq named] at entries
    refine ⟨outcome, ?_, ?_⟩
    · rw [entries, if_pos rfl]
    · intro location apart
      rw [entries, if_neg apart]
  · intro free empty named untaken
    rw [temporary_eq named] at empty
    rw [target_eq] at untaken
    obtain ⟨outcome, middle, way, entries⟩ :=
      writes.of_free tree unlimited plain free (temporary_eq named) empty untaken
    rw [← beside_eq named, ← target_eq] at entries
    refine ⟨outcome, ?_, ?_, ?_⟩
    · rw [entries, if_pos rfl]
    · intro apart
      rw [entries, if_neg apart, if_pos rfl]
    · intro location outside other
      rw [entries, if_neg outside, if_neg other, way.node]

theorem outcomes_in_one_tree :
    let tree : Volume := ⟨[(["out"], .directory), (["out", "notes"], .file ⟨#[110]⟩),
      (["out", "report.tmp"], .directory), (["out", "data"], .directory)], [], none, none⟩
    let run := fun segments => writeWhole (m := StateM Volume) ⟨segments⟩ "x" tree
    tree.IsTree ∧ tree.Unlimited ∧
    (∀ segment ∈ ["out", "new", "notes", "x", "report.gql", "..gql", "data", "a.gql"],
      IsPlainName segment) ∧
    run ["out", "notes", "x"] = (.error ⟨⟨["out", "notes"]⟩⟩, tree) ∧
    run ["out", "report.gql"] = (.error ⟨⟨["out", "report.tmp"]⟩⟩, tree) ∧
    (run ["new", "..gql"]).1 = .error ⟨⟨["new", ".."]⟩⟩ ∧
    (run ["out", "data"]).1 = .error ⟨⟨["out", "data"]⟩⟩ ∧
    (run ["new", "a.gql"]).2.node? ["new", "a.gql"] = some (.file "x".toUTF8) := by
  intro tree run
  have isTree : tree.IsTree := isTree_of_entries (by decide) (by decide)
  have unlimited : tree.Unlimited := ⟨rfl, rfl⟩
  have blocked : ¬ tree.Free ["out", "notes"] := fun free =>
    free ["out", "notes"] List.prefix_rfl ⟨#[110]⟩ (by decide)
  have outFree : tree.Free ["out"] := free_of_directory isTree (by decide)
  have newFree : tree.Free ["new"] := by
    intro above way content
    rcases List.prefix_cons_iff.mp way with rfl | ⟨rest, rfl, nothing⟩
    · exact nofun
    · obtain rfl := List.prefix_nil.mp nothing
      exact nofun
  refine ⟨isTree, unlimited, by decide, ?_, ?_, ?_, ?_, ?_⟩
  · exact (writeWhole_account tree ["out", "notes"] "x" "x" isTree unlimited (by decide)).1 blocked
  · obtain ⟨-, full, -⟩ :=
      writeWhole_account tree ["out"] "report.gql" "x" isTree unlimited (by decide)
    exact full outFree ⟨["out", "report.tmp"], by decide⟩
  · obtain ⟨-, -, nameless, -⟩ :=
      writeWhole_account tree ["new"] "..gql" "x" isTree unlimited (by decide)
    exact (nameless newFree nofun (by decide)).1
  · obtain ⟨-, -, -, taken, -⟩ :=
      writeWhole_account tree ["out"] "data" "x" isTree unlimited (by decide)
    exact (taken outFree nofun (by decide) (by decide)).1
  · obtain ⟨-, -, -, -, written⟩ :=
      writeWhole_account tree ["new"] "a.gql" "x" isTree unlimited (by decide)
    exact (written newFree nofun (by decide) (by decide)).2.1

/-- Three obstacles are not all there are. In an empty tree nothing is in the way of a name that
leaves none for the temporary file, and yet it is not written. -/
theorem not_written_whenever_free :
    ¬ ∀ (volume : Volume) (dirs : List String) (name content : String), volume.IsTree →
      volume.Unlimited → (∀ segment ∈ dirs ++ [name], IsPlainName segment) → volume.Free dirs →
      ¬ volume.Leads (⟨dirs ++ [name]⟩ : Path).temporary →
      volume.node? (volume.current ++ (dirs ++ [name])) ≠ some .directory →
        (writeWhole (m := StateM Volume) ⟨dirs ++ [name]⟩ content volume).1 = .ok () := by
  intro written
  have isTree : (⟨[], [], none, none⟩ : Volume).IsTree := isTree_of_entries rfl (by simp)
  have free : (⟨[], [], none, none⟩ : Volume).Free ["a"] := by
    intro above way content
    cases above <;> exact nofun
  have success := written ⟨[], [], none, none⟩ ["a"] "..gql" "x" isTree ⟨rfl, rfl⟩ (by decide) free
    nofun (by decide)
  revert success
  decide +kernel

end RestGraph.Files.Volume
