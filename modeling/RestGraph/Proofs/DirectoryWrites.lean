import RestGraph.Artifacts
import RestGraph.Proofs.WholeWrites
/-!
Writing files into one directory, one after another. Each write leaves alone what the other files
and their names need, so all files are there in the end, and what a failure stops was not begun.
-/

set_option autoImplicit false

namespace RestGraph

open Files

def OutputFile.path (file : OutputFile) (directory : Path) : Path :=
  directory.join (Path.ofText file.name)

/-- A name for a file in a directory: it has no slash in it, no meaning of its own in a path, and is
not the name of a temporary file. -/
structure IsFileName (name : String) : Prop where
  whole : '/' ∉ name.toList
  busy : Path.isIdle name = false
  down : name ≠ ".."
  lasting : ∀ stem : String, name ≠ stem ++ ".tmp"

theorem IsFileName.ne_temporaryName {name : String} (named : IsFileName name) (other : String) :
    name ≠ Path.temporaryName other :=
  named.lasting _

namespace Files.Volume

@[irreducible]
def write (directory : Path) (volume : Volume) (file : OutputFile) :
    Except WriteFault Unit × Volume :=
  writeWhole (m := StateM Volume) (file.path directory) file.content volume

def afterWrites (directory : Path) (volume : Volume) (files : List OutputFile) : Volume :=
  files.foldl (fun volume file => (volume.write directory file).2) volume

/-- Of files that are written one after another, each is written. -/
def AllWritten (directory : Path) (volume : Volume) : List OutputFile → Prop
  | [] => True
  | file :: rest =>
    (volume.write directory file).1 = .ok () ∧
      (volume.write directory file).2.AllWritten directory rest

section Single

variable {directory : Path} {volume : Volume} {file : OutputFile} {fault : WriteFault}

theorem path_eq (named : IsFileName file.name) :
    file.path directory = directory.join ⟨[file.name]⟩ := by
  rw [OutputFile.path, Path.ofText_eq named.whole]

theorem locate_path (named : IsFileName file.name) :
    volume.locate (file.path directory) = volume.locate directory ++ [file.name] := by
  rw [path_eq named, locate_join directory named.busy named.down]

theorem temporary_cases (directory : Path) (named : IsFileName file.name) :
    (∀ volume : Volume, volume.locate (file.path directory).temporary =
      volume.locate directory ++ [Path.temporaryName file.name]) ∨
    ∀ (volume : Volume) (found : Location),
      volume.entryAt (file.path directory).temporary ≠ .ok found := by
  rw [path_eq named]
  rcases Path.temporary_join directory named.busy named.down with beside | up
  · left
    intro volume
    obtain ⟨busy, down⟩ := Path.plain_temporaryName file.name
    rw [beside, locate_join directory busy down]
  · right
    intro volume
    rw [up]
    exact entryAt_ne_ok_of_up List.getLast?_concat

theorem locate_temporary (named : IsFileName file.name) {found : Location}
    (entry : volume.entryAt (file.path directory).temporary = .ok found) :
    volume.locate (file.path directory).temporary =
      volume.locate directory ++ [Path.temporaryName file.name] := by
  rcases temporary_cases directory named with beside | nowhere
  · exact beside volume
  · exact absurd entry (nowhere volume found)

theorem writes_write (directory : Path) (volume : Volume) (file : OutputFile) :
    Writes (file.path directory) file.content.toUTF8 volume (volume.write directory file).1
      (volume.write directory file).2 := by
  unfold write
  exact writes_writeWhole _ _ _

def madeAbove (directory : Path) (volume : Volume) (file : OutputFile) : List Location :=
  (file.path directory).directories.map volume.locate

theorem changedAt_of_error (named : IsFileName file.name)
    (failed : (volume.write directory file).1 = .error fault) :
    ChangedAt (madeAbove directory volume file)
      [volume.locate directory ++ [Path.temporaryName file.name]] volume
      (volume.write directory file).2 := by
  have writes := writes_write directory volume file
  rcases temporary_cases directory named with beside | nowhere
  · rw [failed] at writes
    have changed := writes.changedAt_of_error
    rwa [beside volume] at changed
  · exact (writes.changedAt_of_refused nowhere).2.mono (List.Subset.refl _) (by simp)

theorem changedAt_write (named : IsFileName file.name) :
    ChangedAt (madeAbove directory volume file)
      [volume.locate directory ++ [Path.temporaryName file.name],
        volume.locate directory ++ [file.name]] volume (volume.write directory file).2 := by
  have writes := writes_write directory volume file
  rcases temporary_cases directory named with beside | nowhere
  · have changed := writes.changedAt
    rwa [beside volume, locate_path named] at changed
  · exact (writes.changedAt_of_refused nowhere).2.mono (List.Subset.refl _) (by simp)

end Single

section Frame

variable {directory : Path} {volume : Volume} {file : OutputFile} {name : String}

theorem not_mem_madeAbove (inside : ".." ∉ directory.segments) (named : IsFileName file.name)
    (below : Location) :
    volume.locate directory ++ name :: below ∉ madeAbove directory volume file := by
  intro mem
  obtain ⟨made, mem, same⟩ := List.mem_map.mp mem
  rw [path_eq named] at mem
  -- A directory that is made lies on the way to this one, so its location is shorter.
  have short : volume.locate made <+: volume.locate directory :=
    locate_directories_join named.busy inside made mem
  have length := short.length_le
  rw [same, List.length_append, List.length_cons] at length
  omega

theorem node?_write (inside : ".." ∉ directory.segments) (named : IsFileName file.name)
    (otherNamed : IsFileName name)
    (failed : name = file.name → (volume.write directory file).1 ≠ .ok ()) (below : Location) :
    (volume.write directory file).2.node? (volume.locate directory ++ name :: below) =
      volume.node? (volume.locate directory ++ name :: below) := by
  by_cases same : name = file.name
  · cases outcome : (volume.write directory file).1 with
    | ok _ => exact absurd outcome (failed same)
    | error fault =>
      refine (changedAt_of_error named outcome).unchanged (not_mem_madeAbove inside named below) ?_
      simp [otherNamed.ne_temporaryName]
  · refine (changedAt_write named).unchanged (not_mem_madeAbove inside named below) ?_
    simp [otherNamed.ne_temporaryName, same]

end Frame

section Settling

variable {directory : Path} {volume : Volume} {file other : OutputFile} {content : ByteArray}

theorem settled_write (named : IsFileName file.name)
    (written : (volume.write directory file).1 = .ok ()) :
    Settled (volume.write directory file).2 (file.path directory) file.content.toUTF8 := by
  have writes := writes_write directory volume file
  rcases temporary_cases directory named with beside | nowhere
  · rw [written] at writes
    apply writes.settled
    rw [beside, locate_path named]
    simp [(named.ne_temporaryName _).symm]
  · obtain ⟨⟨fault, failed⟩, -⟩ := writes.changedAt_of_refused nowhere
    rw [written] at failed
    cases failed

/-- A file that was written stays settled when another one is written, even when both go through the
same temporary file. -/
theorem Settled.write_other (settled : Settled volume (other.path directory) content)
    (inside : ".." ∉ directory.segments) (named : IsFileName file.name)
    (otherNamed : IsFileName other.name) (apart : other.name ≠ file.name)
    (written : (volume.write directory file).1 = .ok ()) :
    Settled (volume.write directory file).2 (other.path directory) content := by
  have changed : ChangedAt (madeAbove directory volume file)
      [volume.locate directory ++ [Path.temporaryName file.name],
        volume.locate directory ++ [file.name]] volume (volume.write directory file).2 :=
    changedAt_write named
  have beside := locate_temporary otherNamed settled.beside
  refine settled.of_changedAt changed ?_ ?_
  · rw [locate_path otherNamed]
    simp [otherNamed.ne_temporaryName, apart]
  · rw [beside]
    -- The two files may share their temporary file; then the write that succeeds leaves it absent.
    by_cases same : Path.temporaryName other.name = Path.temporaryName file.name
    · have last := settled_write named written
      have absent := last.absent
      rw [locate_temporary named last.beside, changed.locate_eq] at absent
      rw [same, absent]
    · have outside : volume.locate directory ++ [Path.temporaryName other.name] ∉
          [volume.locate directory ++ [Path.temporaryName file.name],
            volume.locate directory ++ [file.name]] := by
        simp [same, (named.ne_temporaryName _).symm]
      rw [changed.unchanged (not_mem_madeAbove inside named []) outside, ← beside, settled.absent]

end Settling

section Sequences

variable {directory : Path} {volume : Volume} {files : List OutputFile}

structure Separate (files : List OutputFile) : Prop where
  named : ∀ file ∈ files, IsFileName file.name
  distinct : files.Pairwise fun file later => file.name ≠ later.name

theorem locate_afterWrites (named : ∀ file ∈ files, IsFileName file.name) (path : Path) :
    (volume.afterWrites directory files).locate path = volume.locate path := by
  induction files generalizing volume with
  | nil => rfl
  | cons file rest ih =>
    rw [List.forall_mem_cons] at named
    exact (ih named.2).trans ((changedAt_write named.1).locate_eq path)

theorem node?_afterWrites (inside : ".." ∉ directory.segments)
    (named : ∀ file ∈ files, IsFileName file.name) {name : String} (otherNamed : IsFileName name)
    (apart : ∀ file ∈ files, name ≠ file.name) (below : Location) :
    (volume.afterWrites directory files).node? (volume.locate directory ++ name :: below) =
      volume.node? (volume.locate directory ++ name :: below) := by
  induction files generalizing volume with
  | nil => rfl
  | cons file rest ih =>
    rw [List.forall_mem_cons] at named apart
    have base : (volume.write directory file).2.locate directory = volume.locate directory :=
      (changedAt_write named.1).locate_eq directory
    rw [← base]
    refine (ih named.2 apart.2).trans ?_
    rw [base]
    exact (node?_write inside named.1 otherNamed (fun same => absurd same apart.1) below)

theorem settled_afterWrites (earlier : List OutputFile) (inside : ".." ∉ directory.segments)
    (separate : Separate (earlier ++ files))
    (settled : ∀ file ∈ earlier,
      Settled volume (file.path directory) file.content.toUTF8)
    (written : volume.AllWritten directory files) :
    ∀ file ∈ earlier ++ files,
      Settled (volume.afterWrites directory files) (file.path directory) file.content.toUTF8 := by
  -- Each file that is written joins the earlier ones.
  induction files generalizing volume earlier with
  | nil => simpa [afterWrites] using settled
  | cons file rest ih =>
    obtain ⟨first, others⟩ := written
    have named := separate.named file (by simp)
    have again : earlier ++ file :: rest = (earlier ++ [file]) ++ rest := by simp
    rw [again] at separate ⊢
    refine ih (earlier ++ [file]) separate ?_ others
    intro other mem
    rcases List.mem_append.mp mem with before | last
    · have apart : other.name ≠ file.name := by
        have distinct := (List.pairwise_append.mp separate.distinct).1
        exact (List.pairwise_append.mp distinct).2.2 other before file (by simp)
      have otherNamed := separate.named other (by simp [before])
      exact (settled other before).write_other inside named otherNamed apart first
    · obtain rfl := List.mem_singleton.mp last
      exact settled_write named first

theorem settled_of_allWritten (inside : ".." ∉ directory.segments) (separate : Separate files)
    (written : volume.AllWritten directory files) : ∀ file ∈ files,
      Settled (volume.afterWrites directory files) (file.path directory) file.content.toUTF8 :=
  settled_afterWrites [] inside separate (by simp) written

theorem allWritten_of_settled (named : ∀ file ∈ files, IsFileName file.name)
    (settled : ∀ file ∈ files, Settled volume (file.path directory) file.content.toUTF8) :
    volume.AllWritten directory files ∧
      ChangedAt [] [] volume (volume.afterWrites directory files) := by
  induction files generalizing volume with
  | nil => exact ⟨trivial, .refl volume⟩
  | cons file rest ih =>
    rw [List.forall_mem_cons] at named settled
    have apart : volume.locate (file.path directory).temporary ≠
        volume.locate (file.path directory) := by
      rw [locate_temporary named.1 settled.1.beside, locate_path named.1]
      simp [(named.1.ne_temporaryName _).symm]
    obtain ⟨first, same⟩ := settled.1.again apart (writes_write directory volume file)
    have still : ∀ other ∈ rest, Settled (volume.write directory file).2 (other.path directory)
        other.content.toUTF8 := by
      intro other mem
      have before := settled.2 other mem
      refine before.of_changedAt same (by simp) ?_
      rw [same.unchanged (by simp) (by simp), before.absent]
    obtain ⟨others, after⟩ := ih named.2 still
    exact ⟨⟨first, others⟩, same.trans after⟩

section Failure

variable {done rest : List OutputFile} {failing : OutputFile}

theorem readFile_of_stopped (inside : ".." ∉ directory.segments)
    (separate : Separate (done ++ failing :: rest)) (written : volume.AllWritten directory done) :
    ∀ file ∈ done, ((volume.afterWrites directory done).write directory failing).2.readFile
      (file.path directory) = .ok file.content.toUTF8 := by
  intro file mem
  obtain ⟨before, -, across⟩ := List.pairwise_append.mp separate.distinct
  have named := separate.named file (by simp [mem])
  have failingNamed := separate.named failing (by simp)
  have settled := settled_of_allWritten inside
    ⟨fun file mem => separate.named file (by simp [mem]), before⟩ written file mem
  refine settled.readFile_of_changedAt (changedAt_write failingNamed) ?_
  rw [locate_path named]
  simp [named.ne_temporaryName, across file mem failing (by simp)]

theorem node?_of_stopped {fault : WriteFault} (inside : ".." ∉ directory.segments)
    (separate : Separate (done ++ failing :: rest))
    (failed : ((volume.afterWrites directory done).write directory failing).1 = .error fault) :
    ∀ file ∈ failing :: rest, ∀ below,
      ((volume.afterWrites directory done).write directory failing).2.node?
          (volume.locate (file.path directory) ++ below) =
        volume.node? (volume.locate (file.path directory) ++ below) := by
  intro file mem below
  obtain ⟨-, later, across⟩ := List.pairwise_append.mp separate.distinct
  have named := separate.named file (by simp [mem])
  have failingNamed := separate.named failing (by simp)
  have doneNamed : ∀ file ∈ done, IsFileName file.name :=
    fun file mem => separate.named file (by simp [mem])
  have base : (volume.afterWrites directory done).locate directory = volume.locate directory :=
    locate_afterWrites doneNamed directory
  have others : (volume.afterWrites directory done).node?
      (volume.locate directory ++ file.name :: below) =
        volume.node? (volume.locate directory ++ file.name :: below) :=
    node?_afterWrites inside doneNamed named
      (fun earlier before => (across earlier before file mem).symm) below
  rw [locate_path named, List.append_assoc, List.singleton_append, ← others, ← base]
  exact node?_write inside failingNamed named (by simp [failed]) below

end Failure

end Sequences

section Runs

variable {directory : Path} {volume : Volume} {files : List OutputFile}

theorem run_writeFiles_cons (directory : Path) (volume : Volume) (file : OutputFile)
    (rest : List OutputFile) :
    writeFiles (m := StateM Volume) directory (file :: rest) volume =
      match volume.write directory file with
      | (.error fault, changed) => (([], .error fault), changed)
      | (.ok (), changed) =>
        let others := writeFiles (m := StateM Volume) directory rest changed
        ((file.path directory :: others.1.1, others.1.2), others.2) := by
  have step : writeWhole (m := StateM Volume) (directory.join (Path.ofText file.name))
      file.content volume = volume.write directory file := by
    simp only [write, OutputFile.path]
  conv => lhs; unfold writeFiles
  simp only [run_bind, step]
  rcases volume.write directory file with ⟨_ | _, changed⟩ <;> rfl

theorem run_writeFiles_append {done : List OutputFile} (rest : List OutputFile)
    (written : volume.AllWritten directory done) :
    (writeFiles (m := StateM Volume) directory (done ++ rest) volume).1.2 =
        (writeFiles (m := StateM Volume) directory rest (volume.afterWrites directory done)).1.2 ∧
      (writeFiles (m := StateM Volume) directory (done ++ rest) volume).2 =
        (writeFiles (m := StateM Volume) directory rest (volume.afterWrites directory done)).2 := by
  induction done generalizing volume with
  | nil => exact ⟨rfl, rfl⟩
  | cons file others ih =>
    obtain ⟨first, written⟩ := written
    have step : volume.write directory file = (.ok (), (volume.write directory file).2) :=
      Prod.ext first rfl
    rw [List.cons_append, run_writeFiles_cons, step]
    exact ih written

theorem run_writeFiles (written : volume.AllWritten directory files) :
    (writeFiles (m := StateM Volume) directory files volume).1.2 = .ok () ∧
      (writeFiles (m := StateM Volume) directory files volume).2 =
        volume.afterWrites directory files := by
  have run := run_writeFiles_append [] written
  rwa [List.append_nil] at run

theorem run_writeFiles_of_error {done : List OutputFile} {failing : OutputFile}
    {fault : WriteFault} (rest : List OutputFile) (written : volume.AllWritten directory done)
    (failed : ((volume.afterWrites directory done).write directory failing).1 = .error fault) :
    (writeFiles (m := StateM Volume) directory (done ++ failing :: rest) volume).1.2 =
        .error fault ∧
      (writeFiles (m := StateM Volume) directory (done ++ failing :: rest) volume).2 =
        ((volume.afterWrites directory done).write directory failing).2 := by
  obtain ⟨outcome, after⟩ := run_writeFiles_append (failing :: rest) written
  have step : (volume.afterWrites directory done).write directory failing =
      (.error fault, ((volume.afterWrites directory done).write directory failing).2) :=
    Prod.ext failed rfl
  rw [run_writeFiles_cons, step] at outcome after
  exact ⟨outcome, after⟩

/-- Either each file is written, or there is a first one whose write fails. -/
theorem allWritten_or_stopped (directory : Path) (volume : Volume) (files : List OutputFile) :
    volume.AllWritten directory files ∨ ∃ done failing rest fault,
      files = done ++ failing :: rest ∧ volume.AllWritten directory done ∧
        ((volume.afterWrites directory done).write directory failing).1 = .error fault := by
  induction files generalizing volume with
  | nil => exact .inl trivial
  | cons file rest ih =>
    cases first : (volume.write directory file).1 with
    | error fault => exact .inr ⟨[], file, rest, fault, rfl, trivial, first⟩
    | ok _ =>
      rcases ih (volume.write directory file).2 with others | stopped
      · exact .inl ⟨first, others⟩
      · obtain ⟨done, failing, later, fault, rfl, written, failed⟩ := stopped
        exact .inr ⟨file :: done, failing, later, fault, rfl, ⟨first, written⟩, failed⟩

theorem kept_writeFiles (named : ∀ file ∈ files, IsFileName file.name) {location : Location}
    {node : Node} (present : volume.node? location = some node)
    (apart : ∀ file ∈ files, location ≠ volume.locate directory ++ [file.name] ∧
      location ≠ volume.locate directory ++ [Path.temporaryName file.name]) :
    (writeFiles (m := StateM Volume) directory files volume).2.node? location = some node := by
  induction files generalizing volume with
  | nil => exact present
  | cons file rest ih =>
    rw [List.forall_mem_cons] at named apart
    have changed : ChangedAt _ _ volume (volume.write directory file).2 := changedAt_write named.1
    have still : (volume.write directory file).2.node? location = some node :=
      changed.kept (by simp [apart.1]) present
    rw [← changed.locate_eq directory] at apart
    rw [run_writeFiles_cons]
    cases run : volume.write directory file with
    | mk outcome after =>
      rw [run] at still apart
      cases outcome with
      | error fault => exact still
      | ok _ => exact ih named.2 still apart.2

end Runs

end Files.Volume

end RestGraph
