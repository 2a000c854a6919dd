import RestGraph.Proofs.DirectoryWrites
/-!
Reading files back that were written one after another. Their names may lead anywhere, through
slashes and parent segments; as long as the paths end in different names and no name is one of a
temporary file, no write touches what another one has put down.
-/

set_option autoImplicit false

namespace RestGraph

open Files

structure Files.Path.EndsIn (path : Path) (name : String) : Prop where
  last : path.segments.getLast? = some name
  busy : Path.isIdle name = false
  down : name ≠ ".."

namespace Files.Path

variable {path directory : Path} {name : String}

theorem EndsIn.segments_eq (ends : path.EndsIn name) :
    path.segments = path.segments.dropLast ++ [name] :=
  (List.dropLast_append_getLast? name ends.last).symm

theorem EndsIn.locate_eq (ends : path.EndsIn name) (volume : Volume) :
    ∃ above, volume.locate path = above ++ [name] := by
  rw [Volume.locate, ends.segments_eq, Volume.follow_append]
  simp [Volume.follow, ends.busy, ends.down]

theorem EndsIn.temporary (ends : path.EndsIn name) :
    path.temporary.EndsIn (temporaryName name) ∨
      path.temporary.segments.getLast? = some ".." := by
  obtain ⟨busy, down⟩ := plain_temporaryName name
  rcases temporary_of_concat ends.busy ends.down ends.segments_eq with beside | up
  · left
    rw [beside]
    exact ⟨List.getLast?_concat, busy, down⟩
  · right
    rw [up]
    exact List.getLast?_concat

theorem EndsIn.join (ends : path.EndsIn name) (directory : Path) :
    (directory.join path).EndsIn name where
  last := by
    unfold Path.join
    split
    · exact ends.last
    · split <;> rw [List.getLast?_append, ends.last, Option.some_or]
  busy := ends.busy
  down := ends.down

end Files.Path

def lastSegment (name : String) : String :=
  (Path.ofText name).segments.getLast?.getD ""

theorem OutputFile.endsIn {file : OutputFile} (named : IsFileName (lastSegment file.name))
    (directory : Path) : (file.path directory).EndsIn (lastSegment file.name) := by
  have ends : (Path.ofText file.name).EndsIn (lastSegment file.name) := by
    refine ⟨?_, named.busy, named.down⟩
    rw [lastSegment]
    cases last : (Path.ofText file.name).segments.getLast? with
    | none =>
      have empty := named.busy
      rw [lastSegment, last] at empty
      cases empty
    | some name => rfl
  exact ends.join directory

theorem exists_lastSegment (stem : String) {extension : String} (whole : '/' ∉ extension.toList) :
    ∃ last : String, '/' ∉ last.toList ∧ lastSegment (stem ++ extension) = last ++ extension := by
  have split : ∃ (before : List (List Char)) (last : List Char), '/' ∉ last ∧
      (stem ++ extension).toList.splitOn '/' = before ++ [last ++ extension.toList] := by
    rw [String.toList_append]
    by_cases slash : '/' ∈ stem.toList
    · -- The last slash is the first one from behind.
      obtain ⟨behind, front, reversed, fresh⟩ :=
        List.eq_append_cons_of_mem (List.mem_reverse.mpr slash)
      have parts : stem.toList = front.reverse ++ '/' :: behind.reverse := by
        rw [← List.reverse_reverse stem.toList, reversed]
        simp
      rw [← List.mem_reverse] at fresh
      rw [parts, List.append_assoc, List.cons_append, List.splitOn_append_cons_self,
        Path.splitOn_slash (List.not_mem_append fresh whole)]
      exact ⟨_, _, fresh, rfl⟩
    · exact ⟨[], _, slash, Path.splitOn_slash (List.not_mem_append slash whole)⟩
  obtain ⟨before, last, fresh, split⟩ := split
  refine ⟨String.ofList last, by rwa [String.toList_ofList], ?_⟩
  rw [lastSegment, Path.ofText, split, List.map_append, List.map_singleton,
    List.getLast?_concat, Option.getD_some, String.ofList_append, String.ofList_toList]

namespace Files.Volume

section Holding

variable {volume changed : Volume} {path other : Path} {name otherName : String}
  {content held : ByteArray} {result : Except WriteFault Unit} {made written : List Location}

/-- A path leads to a file with a content. -/
structure Holds (volume : Volume) (path : Path) (content : ByteArray) : Prop where
  entry : volume.entryAt path = .ok (volume.locate path)
  present : volume.node? (volume.locate path) = some (.file content)

theorem Holds.readFile (holds : Holds volume path content) : volume.readFile path = .ok content :=
  readFile_of_entryAt holds.entry holds.present

theorem Holds.of_changedAt (holds : Holds volume path content)
    (changedAt : ChangedAt made written volume changed) (outside : volume.locate path ∉ written) :
    Holds changed path content where
  entry := by
    rw [changedAt.locate_eq]
    exact changedAt.entryAt_eq_ok holds.entry
  present := by
    rw [changedAt.locate_eq]
    exact changedAt.kept outside holds.present

theorem Writes.holds (ends : path.EndsIn name) (lasting : name ≠ Path.temporaryName name)
    (writes : Writes path content volume (.ok ()) changed) : Holds changed path content := by
  rcases ends.temporary with beside | up
  · have apart : volume.locate path.temporary ≠ volume.locate path := by
      obtain ⟨above, here⟩ := ends.locate_eq volume
      obtain ⟨around, there⟩ := beside.locate_eq volume
      rw [here, there]
      intro same
      exact lasting (List.append_inj' same rfl |>.2 |> List.singleton_inj.mp).symm
    have settled := writes.settled apart
    exact ⟨settled.entry, settled.present⟩
  · obtain ⟨⟨fault, failed⟩, -⟩ := writes.changedAt_of_refused fun _ => entryAt_ne_ok_of_up up
    cases failed

/-- What another path holds is not touched. -/
theorem Holds.of_writes (holds : Holds volume other held) (otherEnds : other.EndsIn otherName)
    (ends : path.EndsIn name) (apart : otherName ≠ name)
    (lasting : otherName ≠ Path.temporaryName name)
    (writes : Writes path content volume result changed) : Holds changed other held := by
  obtain ⟨around, elsewhere⟩ := otherEnds.locate_eq volume
  rcases ends.temporary with beside | up
  · refine holds.of_changedAt writes.changedAt ?_
    obtain ⟨above, here⟩ := ends.locate_eq volume
    obtain ⟨next, there⟩ := beside.locate_eq volume
    rw [elsewhere, here, there, List.mem_cons, List.mem_singleton, not_or]
    exact ⟨fun same => lasting (List.singleton_inj.mp (List.append_inj' same rfl).2),
      fun same => apart (List.singleton_inj.mp (List.append_inj' same rfl).2)⟩
  · have refused := writes.changedAt_of_refused fun _ => entryAt_ne_ok_of_up up
    exact holds.of_changedAt refused.2 (by simp)

end Holding

section Sequences

variable {directory : Path} {volume : Volume} {files : List OutputFile}

theorem Holds.of_afterWrites {other : Path} {otherName : String} {held : ByteArray}
    (holds : Holds volume other held) (otherEnds : other.EndsIn otherName)
    (lasting : ∀ stem : String, otherName ≠ stem ++ ".tmp")
    (named : ∀ file ∈ files, IsFileName (lastSegment file.name))
    (apart : ∀ file ∈ files, otherName ≠ lastSegment file.name) :
    Holds (volume.afterWrites directory files) other held := by
  induction files generalizing volume with
  | nil => exact holds
  | cons file rest ih =>
    rw [List.forall_mem_cons] at named apart
    exact ih (holds.of_writes otherEnds (OutputFile.endsIn named.1 directory) apart.1 (lasting _)
      (writes_write directory volume file)) named.2 apart.2

theorem readFile_of_allWritten (named : ∀ file ∈ files, IsFileName (lastSegment file.name))
    (distinct : files.Pairwise fun file later => lastSegment file.name ≠ lastSegment later.name)
    (written : volume.AllWritten directory files) : ∀ file ∈ files,
      (volume.afterWrites directory files).readFile (file.path directory) =
        .ok file.content.toUTF8 := by
  induction files generalizing volume with
  | nil => simp
  | cons file rest ih =>
    rw [List.forall_mem_cons] at named ⊢
    rw [List.pairwise_cons] at distinct
    obtain ⟨first, others⟩ := written
    have ends := OutputFile.endsIn named.1 directory
    have writes := writes_write directory volume file
    rw [first] at writes
    have holds := writes.holds ends (named.1.ne_temporaryName _)
    exact ⟨(holds.of_afterWrites ends named.1.lasting named.2 distinct.1).readFile,
      ih named.2 distinct.2 others⟩

end Sequences

end Files.Volume

end RestGraph
