import RestGraph.Files.Write
import RestGraph.Proofs.Paths
/-!
Writing whole files on a volume. Whatever becomes of a write, it adds directories above its path and
touches the entries of the path and of the temporary file beside it, and nothing else; if it fails,
the path is left as it was, and if it succeeds, another write of the same content changes nothing.
-/

set_option autoImplicit false

namespace RestGraph.Files

namespace Volume

/-- From one volume to another, directories were added at the locations `made`, and of all other
entries only those at the locations `written` were put, replaced or taken away. -/
structure ChangedAt (made written : List Location) (volume other : Volume) : Prop
    extends KeepsDirectories volume other where
  others : ∀ location, location ∉ written → other.node? location = volume.node? location ∨
    (location ∈ made ∧ volume.node? location = none ∧ other.node? location = some .directory)

namespace ChangedAt

variable {made written : List Location} {volume middle other : Volume} {location : Location}

theorem refl (volume : Volume) : ChangedAt made written volume volume where
  current := rfl
  nameLimit := rfl
  pathLimit := rfl
  directories := fun _ there => there
  others := fun _ _ => .inl rfl

theorem trans (first : ChangedAt made written volume middle)
    (second : ChangedAt made written middle other) : ChangedAt made written volume other where
  current := second.current.trans first.current
  nameLimit := second.nameLimit.trans first.nameLimit
  pathLimit := second.pathLimit.trans first.pathLimit
  directories := fun location there => second.directories _ (first.directories _ there)
  others := by
    intro location apart
    rcases first.others location apart with same | ⟨mem, absent, added⟩
    · rw [← same]
      exact second.others location apart
    · exact .inr ⟨mem, absent, second.directories _ added⟩

theorem mono {made' written' : List Location} (changed : ChangedAt made written volume other)
    (moreMade : made ⊆ made') (moreWritten : written ⊆ written') :
    ChangedAt made' written' volume other where
  toKeepsDirectories := changed.toKeepsDirectories
  others := by
    intro location apart
    rcases changed.others location (fun mem => apart (moreWritten mem)) with same | ⟨mem, added⟩
    · exact .inl same
    · exact .inr ⟨moreMade mem, added⟩

theorem kept (changed : ChangedAt made written volume other) (apart : location ∉ written)
    {node : Node} (there : volume.node? location = some node) :
    other.node? location = some node := by
  rcases changed.others location apart with same | ⟨-, absent, -⟩
  · rw [same, there]
  · rw [absent] at there
    cases there

theorem unchanged (changed : ChangedAt made written volume other) (above : location ∉ made)
    (apart : location ∉ written) : other.node? location = volume.node? location := by
  rcases changed.others location apart with same | ⟨mem, -⟩
  · exact same
  · exact absurd mem above

theorem locate_eq (changed : ChangedAt made written volume other) (path : Path) :
    other.locate path = volume.locate path :=
  locate_congr changed.current path

theorem insert_directory (named : location ≠ []) (absent : volume.node? location = none) :
    ChangedAt [location] [] volume (volume.insert location .directory) where
  toKeepsDirectories := keepsDirectories_insert named
  others := by
    intro other _
    rw [node?_insert named]
    by_cases same : other = location
    · subst same
      exact .inr ⟨List.mem_cons_self, absent, if_pos rfl⟩
    · exact .inl (if_neg same)

theorem insert_file (named : location ≠ []) (apart : volume.node? location ≠ some .directory)
    (content : ByteArray) : ChangedAt [] [location] volume (volume.insert location (.file content))
    where
  current := rfl
  nameLimit := rfl
  pathLimit := rfl
  directories := by
    intro other there
    rw [node?_insert named, if_neg]
    · exact there
    · rintro rfl
      exact apart there
  others := by
    intro other outside
    left
    rw [node?_insert named, if_neg (by simpa using outside)]

theorem erase (named : location ≠ []) (apart : volume.node? location ≠ some .directory) :
    ChangedAt [] [location] volume (volume.erase location) where
  current := rfl
  nameLimit := rfl
  pathLimit := rfl
  directories := by
    intro other there
    rw [node?_erase named, if_neg]
    · exact there
    · rintro rfl
      exact apart there
  others := by
    intro other outside
    left
    rw [node?_erase named, if_neg (by simpa using outside)]

end ChangedAt

/-- What an attempt to make one directory comes to. Something that stands in its place is accepted
if it is a directory. -/
inductive Attempt (path : Path) (volume : Volume) : Except Fault Unit → Volume → Prop
  | made {changed : Volume} : volume.makeDirectory path = .ok changed →
    Attempt path volume (.ok ()) changed
  | there {fault : Fault} {found : Location} : volume.makeDirectory path = .error fault →
    volume.directoryAt path = .ok found → Attempt path volume (.ok ()) volume
  | refused {fault absence : Fault} : volume.makeDirectory path = .error fault →
    volume.directoryAt path = .error absence → Attempt path volume (.error fault) volume

inductive Attempts : List Path → Volume → Except Fault Unit → Volume → Prop
  | nothing (volume : Volume) : Attempts [] volume (.ok ()) volume
  | atOnce {path : Path} {above : List Path} {volume changed : Volume}
      {result : Except Fault Unit} : volume.makeDirectory path ≠ .error .missing →
    Attempt path volume result changed → Attempts (path :: above) volume result changed
  | stopped {path : Path} {above : List Path} {volume changed : Volume} {fault : Fault} :
    volume.makeDirectory path = .error .missing → Attempts above volume (.error fault) changed →
      Attempts (path :: above) volume (.error fault) changed
  | afterwards {path : Path} {above : List Path} {volume middle changed : Volume}
      {result : Except Fault Unit} : volume.makeDirectory path = .error .missing →
    Attempts above volume (.ok ()) middle → Attempt path middle result changed →
      Attempts (path :: above) volume result changed

section Runs

variable {volume changed : Volume} {path : Path} {fault : Fault}

theorem run_bind {α β : Type} (first : StateM Volume α) (next : α → StateM Volume β)
    (volume : Volume) : (first >>= next) volume = next (first volume).1 (first volume).2 :=
  rfl

theorem attempt_orExisting (failed : volume.makeDirectory path = .error fault) :
    Attempt path volume (orExisting (m := StateM Volume) path fault volume).1
      (orExisting (m := StateM Volume) path fault volume).2 := by
  unfold orExisting
  rw [run_bind]
  cases there : volume.directoryAt path with
  | ok found =>
    simp only [FileSystem.isDirectory, there]
    exact .there failed there
  | error absence =>
    simp only [FileSystem.isDirectory, there]
    exact .refused failed there

theorem attempts_makeDirectories (paths : List Path) (volume : Volume) :
    Attempts paths volume (makeDirectories (m := StateM Volume) paths volume).1
      (makeDirectories (m := StateM Volume) paths volume).2 := by
  induction paths generalizing volume with
  | nil => exact .nothing volume
  | cons path above ih =>
    simp only [makeDirectories, run_bind, FileSystem.makeDirectory, perform]
    cases first : volume.makeDirectory path with
    | ok changed => exact .atOnce (by simp [first]) (.made first)
    | error fault =>
      cases fault with
      | missing =>
        have others := ih volume
        simp only [run_bind]
        cases ran : makeDirectories (m := StateM Volume) above volume with
        | mk result middle =>
          rw [ran] at others
          cases result with
          | error fault => exact .stopped first others
          | ok _ =>
            refine .afterwards first others ?_
            simp only [run_bind, perform]
            cases second : middle.makeDirectory path with
            | ok changed => exact .made second
            | error fault => exact attempt_orExisting second
      | _ => exact .atOnce (by simp [first]) (attempt_orExisting first)

theorem Attempt.changedAt {result : Except Fault Unit}
    (attempt : Attempt path volume result changed) :
    ChangedAt [volume.locate path] [] volume changed := by
  cases attempt with
  | made done =>
    obtain ⟨absent, inside, rfl⟩ := makeDirectory_eq_ok done
    exact .insert_directory inside absent
  | there | refused => exact .refl volume

theorem Attempts.changedAt {paths : List Path} {result : Except Fault Unit}
    (attempts : Attempts paths volume result changed) :
    ChangedAt (paths.map volume.locate) [] volume changed := by
  induction attempts with
  | nothing volume => exact .refl volume
  | atOnce _ attempt => exact attempt.changedAt.mono (by simp) (by simp)
  | stopped _ _ ih => exact ih.mono (by simp) (by simp)
  | afterwards _ _ attempt ih =>
    have last := attempt.changedAt
    rw [ih.locate_eq] at last
    exact (ih.mono (by simp) (by simp)).trans (last.mono (by simp) (by simp))

theorem Attempt.directoryAt (attempt : Attempt path volume (.ok ()) changed) :
    ∃ found, changed.directoryAt path = .ok found := by
  cases attempt with
  | made done => exact ⟨_, directoryAt_of_makeDirectory done⟩
  | there _ found => exact ⟨_, found⟩

theorem Attempts.directoryAt {paths : List Path} {directory : Path}
    (attempts : Attempts paths volume (.ok ()) changed) (first : paths.head? = some directory) :
    ∃ found, changed.directoryAt directory = .ok found := by
  cases attempts with
  | nothing => cases first
  | atOnce _ attempt | afterwards _ _ attempt =>
    obtain rfl := Option.some.inj first
    exact attempt.directoryAt

end Runs

inductive MakesParents (path : Path) (volume : Volume) : Except WriteFault Unit → Volume → Prop
  | done {changed : Volume} : Attempts path.directories volume (.ok ()) changed →
    MakesParents path volume (.ok ()) changed
  | failed {parent : Path} {fault : Fault} {changed : Volume} : path.parent? = some parent →
    Attempts path.directories volume (.error fault) changed →
      MakesParents path volume (.error ⟨parent⟩) changed

/-- What the writing of a file comes to. The temporary file is taken away again if it cannot be put
in place. -/
inductive Writes (path : Path) (content : ByteArray) (volume : Volume) :
    Except WriteFault Unit → Volume → Prop
  | noDirectory {fault : WriteFault} {changed : Volume} :
    MakesParents path volume (.error fault) changed →
      Writes path content volume (.error fault) changed
  | noTemporary {middle : Volume} {fault : Fault} : MakesParents path volume (.ok ()) middle →
    middle.writeFile path.temporary content = .error fault →
      Writes path content volume (.error ⟨path.temporary⟩) middle
  | inPlace {middle filled changed : Volume} : MakesParents path volume (.ok ()) middle →
    middle.writeFile path.temporary content = .ok filled →
      filled.rename path.temporary path = .ok changed → Writes path content volume (.ok ()) changed
  | cleaned {middle filled changed : Volume} {fault : Fault} :
    MakesParents path volume (.ok ()) middle →
      middle.writeFile path.temporary content = .ok filled →
        filled.rename path.temporary path = .error fault →
          filled.removeFile path.temporary = .ok changed →
            Writes path content volume (.error ⟨path⟩) changed
  | left {middle filled : Volume} {fault trouble : Fault} :
    MakesParents path volume (.ok ()) middle →
      middle.writeFile path.temporary content = .ok filled →
        filled.rename path.temporary path = .error fault →
          filled.removeFile path.temporary = .error trouble →
            Writes path content volume (.error ⟨path⟩) filled

section Outcomes

variable {volume changed : Volume} {path : Path}

theorem makesParents_makeParents (path : Path) (volume : Volume) :
    MakesParents path volume (makeParents (m := StateM Volume) path volume).1
      (makeParents (m := StateM Volume) path volume).2 := by
  unfold makeParents
  cases parent : path.parent? with
  | none =>
    refine .done ?_
    rw [Path.directories, parent]
    exact .nothing volume
  | some directory =>
    have attempts := attempts_makeDirectories directory.withAncestors volume
    have above : path.directories = directory.withAncestors := by rw [Path.directories, parent]
    simp only [run_bind]
    cases ran : makeDirectories (m := StateM Volume) directory.withAncestors volume with
    | mk result changed =>
      rw [ran, ← above] at attempts
      cases result with
      | ok _ => exact .done attempts
      | error fault => exact .failed parent attempts

theorem writes_writeWhole (path : Path) (content : String) (volume : Volume) :
    Writes path content.toUTF8 volume (writeWhole (m := StateM Volume) path content volume).1
      (writeWhole (m := StateM Volume) path content volume).2 := by
  have parents := makesParents_makeParents path volume
  unfold writeWhole
  rw [run_bind]
  cases ran : makeParents (m := StateM Volume) path volume with
  | mk result middle =>
    rw [ran] at parents
    cases result with
    | error fault => exact .noDirectory parents
    | ok _ =>
      simp only [run_bind, FileSystem.writeFile, perform]
      cases filled : middle.writeFile path.temporary content.toUTF8 with
      | error fault => exact .noTemporary parents filled
      | ok full =>
        simp only [run_bind, FileSystem.rename, perform]
        cases moved : full.rename path.temporary path with
        | ok changed => exact .inPlace parents filled moved
        | error fault =>
          simp only [run_bind, FileSystem.removeFile, perform]
          cases removed : full.removeFile path.temporary with
          | ok changed => exact .cleaned parents filled moved removed
          | error trouble => exact .left parents filled moved removed

theorem MakesParents.changedAt {result : Except WriteFault Unit}
    (parents : MakesParents path volume result changed) :
    ChangedAt (path.directories.map volume.locate) [] volume changed := by
  cases parents with
  | done attempts => exact attempts.changedAt
  | failed _ attempts => exact attempts.changedAt

theorem writeFile_changedAt {content : ByteArray}
    (filled : volume.writeFile path content = .ok changed) :
    ChangedAt [] [volume.locate path] volume changed := by
  obtain ⟨-, inside, apart, rfl⟩ := writeFile_eq_ok filled
  exact .insert_file inside apart content

theorem rename_changedAt {target : Path} (moved : volume.rename path target = .ok changed) :
    ChangedAt [] [volume.locate path, volume.locate target] volume changed := by
  obtain ⟨source, there, apart, content, present, rfl⟩ := rename_eq_ok moved
  have inside := (entryAt_eq_ok source).2
  have outside := (entryAt_eq_ok there).2
  have taken : ChangedAt [] [volume.locate path] volume (volume.erase (volume.locate path)) :=
    .erase inside (by simp [present])
  have free : (volume.erase (volume.locate path)).node? (volume.locate target) ≠
      some .directory := by
    rw [node?_erase inside]
    split
    · simp
    · exact apart
  exact (taken.mono (by simp) (by simp)).trans
    ((ChangedAt.insert_file outside free content).mono (by simp) (by simp))

theorem removeFile_changedAt (removed : volume.removeFile path = .ok changed) :
    ChangedAt [] [volume.locate path] volume changed := by
  obtain ⟨there, ⟨content, present⟩, rfl⟩ := removeFile_eq_ok removed
  exact .erase (entryAt_eq_ok there).2 (by simp [present])

variable {content : ByteArray} {result : Except WriteFault Unit} {fault : WriteFault}

theorem filled_changedAt {middle filled : Volume}
    (parents : MakesParents path volume (.ok ()) middle)
    (full : middle.writeFile path.temporary content = .ok filled) :
    ChangedAt (path.directories.map volume.locate) [volume.locate path.temporary] volume
      filled := by
  have made := parents.changedAt
  have written := writeFile_changedAt full
  rw [made.locate_eq] at written
  exact (made.mono (by simp) (by simp)).trans (written.mono (by simp) (by simp))

theorem Writes.changedAt_of_error (writes : Writes path content volume (.error fault) changed) :
    ChangedAt (path.directories.map volume.locate) [volume.locate path.temporary] volume
      changed := by
  cases writes with
  | noDirectory parents | noTemporary parents _ => exact parents.changedAt.mono (by simp) (by simp)
  | cleaned parents full _ removed =>
    have before := filled_changedAt parents full
    have last := removeFile_changedAt removed
    rw [before.locate_eq] at last
    exact before.trans (last.mono (by simp) (by simp))
  | left parents full _ _ => exact filled_changedAt parents full

theorem Writes.changedAt_of_refused (writes : Writes path content volume result changed)
    (nowhere : ∀ (middle : Volume) (found : Location), middle.entryAt path.temporary ≠ .ok found) :
    (∃ fault, result = .error fault) ∧
      ChangedAt (path.directories.map volume.locate) [] volume changed := by
  cases writes with
  | noDirectory parents | noTemporary parents _ => exact ⟨⟨_, rfl⟩, parents.changedAt⟩
  | inPlace _ full _ | cleaned _ full _ _ | left _ full _ _ =>
    exact absurd (writeFile_eq_ok full).1 (nowhere _ _)

theorem Writes.changedAt (writes : Writes path content volume result changed) :
    ChangedAt (path.directories.map volume.locate)
      [volume.locate path.temporary, volume.locate path] volume changed := by
  cases result with
  | error fault => exact writes.changedAt_of_error.mono (by simp) (by simp)
  | ok _ =>
    cases writes with
    | inPlace parents full moved =>
      have before := filled_changedAt parents full
      have last := rename_changedAt moved
      rw [before.locate_eq, before.locate_eq] at last
      exact (before.mono (by simp) (by simp)).trans (last.mono (by simp) (by simp))

end Outcomes

/-- A path holds a content, nothing stands at its temporary file, and all that a write needs is
there. -/
structure Settled (volume : Volume) (path : Path) (content : ByteArray) : Prop where
  above : ∀ directory, path.directories.head? = some directory →
    ∃ found, volume.directoryAt directory = .ok found
  beside : volume.entryAt path.temporary = .ok (volume.locate path.temporary)
  entry : volume.entryAt path = .ok (volume.locate path)
  absent : volume.node? (volume.locate path.temporary) = none
  present : volume.node? (volume.locate path) = some (.file content)

section Repeats

variable {volume changed : Volume} {path : Path} {content : ByteArray}
  {result : Except WriteFault Unit} {made written : List Location}

theorem readFile_of_entryAt {location : Location} (entry : volume.entryAt path = .ok location)
    (present : volume.node? location = some (.file content)) :
    volume.readFile path = .ok content := by
  unfold Volume.readFile
  rw [entry]
  simp only [bind, Except.bind, present]
  rfl

theorem Settled.readFile (settled : Settled volume path content) :
    volume.readFile path = .ok content :=
  readFile_of_entryAt settled.entry settled.present

theorem Settled.readFile_of_changedAt (settled : Settled volume path content)
    (changedAt : ChangedAt made written volume changed) (outside : volume.locate path ∉ written) :
    changed.readFile path = .ok content :=
  readFile_of_entryAt (changedAt.entryAt_eq_ok settled.entry)
    (changedAt.kept outside settled.present)

/-- A path stays settled unless it is written or something comes to its temporary file. -/
theorem Settled.of_changedAt (settled : Settled volume path content)
    (changedAt : ChangedAt made written volume changed) (outside : volume.locate path ∉ written)
    (absent : changed.node? (volume.locate path.temporary) = none) :
    Settled changed path content where
  above := by
    intro directory first
    obtain ⟨found, there⟩ := settled.above directory first
    exact ⟨found, changedAt.directoryAt_eq_ok there⟩
  beside := by
    rw [changedAt.locate_eq]
    exact changedAt.entryAt_eq_ok settled.beside
  entry := by
    rw [changedAt.locate_eq]
    exact changedAt.entryAt_eq_ok settled.entry
  absent := by rwa [changedAt.locate_eq]
  present := by
    rw [changedAt.locate_eq]
    exact changedAt.kept outside settled.present

theorem Writes.settled (writes : Writes path content volume (.ok ()) changed)
    (apart : volume.locate path.temporary ≠ volume.locate path) :
    Settled changed path content := by
  cases writes with
  | @inPlace middle filled _ parents full moved =>
    -- The directories are made, the temporary file is filled, then it is moved; none of these takes
    -- away what an earlier one needed.
    have first := parents.changedAt
    have second := writeFile_changedAt full
    have third := rename_changedAt moved
    have placed : ∀ other, changed.locate other = filled.locate other := third.locate_eq
    have further : ∀ other, filled.locate other = volume.locate other := fun other =>
      (second.locate_eq other).trans (first.locate_eq other)
    obtain ⟨beside, entry, -, moving, inTemporary, rfl⟩ := rename_eq_ok moved
    have besideNamed := (entryAt_eq_ok beside).2
    have entryNamed := (entryAt_eq_ok entry).2
    have content_eq : moving = content := by
      obtain ⟨-, named, -, rfl⟩ := writeFile_eq_ok full
      rw [second.locate_eq, node?_insert named, if_pos rfl] at inTemporary
      exact (Node.file.inj (Option.some.inj inTemporary)).symm
    refine ⟨?_, ?_, ?_, ?_, ?_⟩
    · intro directory head
      cases parents with
      | done attempts =>
        obtain ⟨found, there⟩ := attempts.directoryAt head
        exact ⟨found, third.directoryAt_eq_ok (second.directoryAt_eq_ok there)⟩
    · rw [placed]
      exact third.entryAt_eq_ok beside
    · rw [placed]
      exact third.entryAt_eq_ok entry
    · have different : filled.locate path.temporary ≠ filled.locate path := by
        rw [further, further]
        exact apart
      rw [placed, node?_insert entryNamed, if_neg different, node?_erase besideNamed, if_pos rfl]
    · rw [placed, node?_insert entryNamed, if_pos rfl, content_eq]

theorem writeFile_of_entryAt {location : Location} (entry : volume.entryAt path = .ok location)
    (apart : volume.node? location ≠ some .directory) (content : ByteArray) :
    volume.writeFile path content = .ok (volume.insert location (.file content)) := by
  unfold writeFile
  rw [entry]
  simp only [bind, Except.bind]
  rfl

theorem rename_of_entryAt {target : Path} {old new : Location}
    (source : volume.entryAt path = .ok old) (entry : volume.entryAt target = .ok new)
    (present : volume.node? old = some (.file content))
    (apart : volume.node? new ≠ some .directory) :
    volume.rename path target = .ok ((volume.erase old).insert new (.file content)) := by
  unfold rename
  rw [source, entry]
  simp only [bind, Except.bind, present]
  cases there : volume.node? new with
  | none => rfl
  | some node =>
    cases node with
    | file _ => rfl
    | directory => exact absurd there apart

theorem Attempts.unchanged {paths : List Path} {result : Except Fault Unit}
    (attempts : Attempts paths volume result changed)
    (there : ∀ directory, paths.head? = some directory →
      ∃ found, volume.directoryAt directory = .ok found) :
    result = .ok () ∧ changed = volume := by
  cases paths with
  | nil =>
    cases attempts with
    | nothing => exact ⟨rfl, rfl⟩
  | cons path above =>
    obtain ⟨found, reached⟩ := there path rfl
    have standing := makeDirectory_of_directoryAt reached
    cases attempts with
    | atOnce _ attempt =>
      cases attempt with
      | made done => simp [standing] at done
      | there => exact ⟨rfl, rfl⟩
      | refused _ absent => simp [reached] at absent
    | stopped missing | afterwards missing => simp [standing] at missing

theorem MakesParents.unchanged {parents : Except WriteFault Unit}
    (makes : MakesParents path volume parents changed)
    (above : ∀ directory, path.directories.head? = some directory →
      ∃ found, volume.directoryAt directory = .ok found) :
    parents = .ok () ∧ changed = volume := by
  cases makes with
  | done attempts => exact ⟨rfl, (attempts.unchanged above).2⟩
  | failed _ attempts => cases (attempts.unchanged above).1

theorem changedAt_replaced {old new : Location} (named : old ≠ []) (there : new ≠ [])
    (absent : volume.node? old = none)
    (present : volume.node? new = some (.file content)) :
    ChangedAt [] [] volume
      (((volume.insert old (.file content)).erase old).insert new (.file content)) := by
  have same : ∀ location, (((volume.insert old (.file content)).erase old).insert new
      (.file content)).node? location = volume.node? location := by
    intro location
    rw [node?_insert there, node?_erase named, node?_insert named]
    split
    · rename_i here
      rw [here, present]
    · split
      · rename_i here
        rw [here, absent]
      · rfl
  refine ⟨⟨rfl, rfl, rfl, ?_⟩, ?_⟩
  · intro location directory
    rw [same, directory]
  · intro location _
    exact .inl (same location)

theorem Settled.again (settled : Settled volume path content)
    (apart : volume.locate path.temporary ≠ volume.locate path)
    (writes : Writes path content volume result changed) :
    result = .ok () ∧ ChangedAt [] [] volume changed := by
  have named := (entryAt_eq_ok settled.entry).2
  have beside := (entryAt_eq_ok settled.beside).2
  have free : volume.node? (volume.locate path.temporary) ≠ some .directory := by
    simp [settled.absent]
  have full := writeFile_of_entryAt settled.beside free content
  have placed : ChangedAt [] [volume.locate path.temporary] volume
      (volume.insert (volume.locate path.temporary) (.file content)) :=
    .insert_file beside free content
  have present := placed.kept (by simpa using apart.symm) settled.present
  have moved := rename_of_entryAt (placed.entryAt_eq_ok settled.beside)
    (placed.entryAt_eq_ok settled.entry) (by rw [node?_insert beside, if_pos rfl])
    (by simp [present])
  -- No directory is made, so only the run that fills and moves the temporary file is left.
  cases writes with
  | noDirectory parents => cases (parents.unchanged settled.above).1
  | noTemporary parents refused =>
    obtain ⟨-, rfl⟩ := parents.unchanged settled.above
    simp [full] at refused
  | inPlace parents filled renamed =>
    obtain ⟨-, rfl⟩ := parents.unchanged settled.above
    obtain rfl := Except.ok.inj (full.symm.trans filled)
    obtain rfl := Except.ok.inj (moved.symm.trans renamed)
    exact ⟨rfl, changedAt_replaced beside named settled.absent settled.present⟩
  | cleaned parents filled refused _ | left parents filled refused _ =>
    obtain ⟨-, rfl⟩ := parents.unchanged settled.above
    obtain rfl := Except.ok.inj (full.symm.trans filled)
    simp [moved] at refused

end Repeats

end Volume

end RestGraph.Files
