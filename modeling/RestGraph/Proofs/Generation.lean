import RestGraph.Proofs.DirectoryWrites
import RestGraph.Proofs.Selections
/-!
Generating into a directory. Nothing is touched when the generation is refused; otherwise the three
files are written one after another, and what a failed write was to replace is left as it was.
-/

set_option autoImplicit false

namespace RestGraph

open Files Files.Volume

section Names

variable {name stem : String}

theorem ne_temporary_of_last (last : name.toList.getLast? ≠ some 'p') (stem : String) :
    name ≠ stem ++ ".tmp" := by
  rintro rfl
  apply last
  simp [String.toList_append]

theorem isFileName_resolverFile : IsFileName resolverFile where
  whole := by decide
  busy := by decide
  down := by decide
  lasting := ne_temporary_of_last (by decide)

theorem isFileName_typeDefsFile : IsFileName typeDefsFile where
  whole := by decide
  busy := by decide
  down := by decide
  lasting := ne_temporary_of_last (by decide)

theorem queryFile_ne (stem : String) (last : name.toList.getLast? ≠ some 'l') :
    Naming.queryFile stem ≠ name := by
  rintro rfl
  apply last
  simp [Naming.queryFile, String.toList_append]

theorem isFileName_queryFile (single : '/' ∉ stem.toList) :
    IsFileName (Naming.queryFile stem) where
  whole := by simpa [Naming.queryFile, String.toList_append] using single
  busy := by
    have empty : Naming.queryFile stem ≠ "" := queryFile_ne stem (by decide)
    have here : Naming.queryFile stem ≠ "." := queryFile_ne stem (by decide)
    simp [Path.isIdle, empty, here]
  down := queryFile_ne stem (by decide)
  lasting := ne_temporary_of_last (by simp [Naming.queryFile, String.toList_append])

theorem temporaryName_queryFile (filled : stem ≠ "") :
    Path.temporaryName (Naming.queryFile stem) = stem ++ ".tmp" := by
  have parts : Naming.queryFile stem = stem ++ "." ++ "gql" := by
    rw [Naming.queryFile, String.append_assoc]
    rfl
  rw [Path.temporaryName, parts, Path.splitName_append filled (by decide)]

theorem separate_files (options : Options) (endpoint : Endpoint) (artifacts : Artifacts)
    (single : '/' ∉ stem.toList) : Separate (endpoint.files options artifacts stem) where
  named := by
    simp [Endpoint.files, isFileName_resolverFile, isFileName_typeDefsFile,
      isFileName_queryFile single]
  distinct := by
    have first : Naming.queryFile stem ≠ resolverFile := queryFile_ne stem (by decide)
    have second : Naming.queryFile stem ≠ typeDefsFile := queryFile_ne stem (by decide)
    have apart : resolverFile ≠ typeDefsFile := by decide
    simp [Endpoint.files, first.symm, second.symm, apart]

end Names

namespace Endpoint

/-- Why an endpoint is not generated: an empty stem, else a fault of the settings, else a collision
of names, which is looked for if the settings ask for it. -/
def refusal? (options : Options) (endpoint : Endpoint) (stem : String) : Option GenerationFault :=
  if Text.isBlankText stem then some (.options .emptyStem)
  else
    match options.check with
    | .error fault => some (.options fault)
    | .ok () => if options.detectCollisions then endpoint.collision?.map .collision else none

theorem prepare_eq (options : Options) (endpoint : Endpoint) (stem : String) :
    endpoint.prepare options stem =
      match endpoint.refusal? options stem with
      | some fault => .error fault
      | none => .ok (endpoint.artifacts options,
          endpoint.files options (endpoint.artifacts options) stem) := by
  unfold prepare refusal? generate
  split
  · rfl
  · cases options.check with
    | error fault => rfl
    | ok _ =>
      cases options.detectCollisions with
      | false => rfl
      | true => cases endpoint.collision? <;> rfl

section Runs

variable {options : Options} {endpoint : Endpoint} {directory : Path} {stem : String}
  {volume : Volume}

theorem run_emit_of_refusal {fault : GenerationFault}
    (refused : endpoint.refusal? options stem = some fault) :
    endpoint.emit (m := StateM Volume) options directory stem volume =
      (.error (.generation fault), volume) := by
  have prepared := prepare_eq options endpoint stem
  rw [refused] at prepared
  unfold emit
  rw [prepared]
  rfl

theorem run_emit (accepted : endpoint.refusal? options stem = none) :
    endpoint.emit (m := StateM Volume) options directory stem volume =
      let run := writeFiles (m := StateM Volume) directory
        (endpoint.files options (endpoint.artifacts options) stem) volume
      (match run.1.2 with
        | .error fault => .error (.write fault)
        | .ok () => .ok (endpoint.artifacts options), run.2) := by
  have prepared := prepare_eq options endpoint stem
  rw [accepted] at prepared
  unfold emit
  rw [prepared]
  simp only [run_bind]
  cases (writeFiles (m := StateM Volume) directory
    (endpoint.files options (endpoint.artifacts options) stem) volume).1.2 <;> rfl

theorem run_emit_of_allWritten (accepted : endpoint.refusal? options stem = none)
    (written : volume.AllWritten directory
      (endpoint.files options (endpoint.artifacts options) stem)) :
    endpoint.emit (m := StateM Volume) options directory stem volume =
      (.ok (endpoint.artifacts options), volume.afterWrites directory
        (endpoint.files options (endpoint.artifacts options) stem)) := by
  obtain ⟨outcome, after⟩ := run_writeFiles written
  simp only [run_emit accepted, outcome, after]

theorem run_emit_of_error (accepted : endpoint.refusal? options stem = none)
    {done rest : List OutputFile} {failing : OutputFile} {fault : WriteFault}
    (split : endpoint.files options (endpoint.artifacts options) stem = done ++ failing :: rest)
    (written : volume.AllWritten directory done)
    (failed : ((volume.afterWrites directory done).write directory failing).1 = .error fault) :
    endpoint.emit (m := StateM Volume) options directory stem volume =
      (.error (.write fault), ((volume.afterWrites directory done).write directory failing).2) := by
  obtain ⟨outcome, after⟩ := run_writeFiles_of_error rest written failed
  simp only [run_emit accepted, split, outcome, after]

end Runs

/-- Generating into a directory is a sequence of whole-file writes and nothing else. A refused
generation touches nothing. Otherwise the result is good if and only if each write succeeds; then
all files hold their contents, and generating once more changes nothing. If a write fails, the files
before it hold their contents, and whatever stands at its path and at the later ones is as it was
before the generation. -/
theorem emit_writes_whole_files (options : Options) (endpoint : Endpoint) (directory : Path)
    (stem : String) (volume : Volume) (inside : ".." ∉ directory.segments)
    (single : '/' ∉ stem.toList) :
    let emit := endpoint.emit (m := StateM Volume) options directory stem
    let files := endpoint.files options (endpoint.artifacts options) stem
    (∀ fault, endpoint.refusal? options stem = some fault →
      emit volume = (.error (.generation fault), volume)) ∧
    (endpoint.refusal? options stem = none →
      files.map OutputFile.name = ["resolvers.ts", "typeDefs.ts", stem ++ ".gql"] ∧
      ((∃ artifacts, (emit volume).1 = .ok artifacts) ↔ volume.AllWritten directory files) ∧
      (volume.AllWritten directory files →
        emit volume = (.ok (endpoint.artifacts options), volume.afterWrites directory files) ∧
        (∀ file ∈ files,
          (emit volume).2.readFile (file.path directory) = .ok file.content.toUTF8) ∧
        (emit (emit volume).2).1 = .ok (endpoint.artifacts options) ∧
        ∀ location, (emit (emit volume).2).2.node? location = (emit volume).2.node? location) ∧
      ∀ done failing rest fault, files = done ++ failing :: rest →
        volume.AllWritten directory done →
        ((volume.afterWrites directory done).write directory failing).1 = .error fault →
          emit volume = (.error (.write fault),
            ((volume.afterWrites directory done).write directory failing).2) ∧
          (∀ file ∈ done,
            (emit volume).2.readFile (file.path directory) = .ok file.content.toUTF8) ∧
          ∀ file ∈ failing :: rest, ∀ below,
            (emit volume).2.node? (volume.locate (file.path directory) ++ below) =
              volume.node? (volume.locate (file.path directory) ++ below)) := by
  intro emit files
  have separate : Separate files := separate_files options endpoint _ single
  refine ⟨fun fault refused => run_emit_of_refusal refused, ?_⟩
  intro accepted
  have complete : volume.AllWritten directory files →
      emit volume = (.ok (endpoint.artifacts options), volume.afterWrites directory files) :=
    run_emit_of_allWritten accepted
  refine ⟨rfl, ⟨?_, ?_⟩, ?_, ?_⟩
  · rintro ⟨artifacts, succeeded⟩
    rcases allWritten_or_stopped directory volume files with written | stopped
    · exact written
    · obtain ⟨done, failing, rest, fault, split, written, failed⟩ := stopped
      have run : emit volume = _ := run_emit_of_error accepted split written failed
      rw [run] at succeeded
      cases succeeded
  · intro written
    exact ⟨_, congrArg Prod.fst (complete written)⟩
  · intro written
    have settled : ∀ file ∈ files, Settled (volume.afterWrites directory files)
        (file.path directory) file.content.toUTF8 :=
      settled_of_allWritten inside separate written
    obtain ⟨again, same⟩ := allWritten_of_settled separate.named settled
    have repeated : emit (volume.afterWrites directory files) = _ :=
      run_emit_of_allWritten accepted again
    simp only [complete written, repeated]
    refine ⟨trivial, fun file mem => (settled file mem).readFile, trivial, ?_⟩
    intro location
    exact same.unchanged (by simp) (by simp)
  · intro done failing rest fault split written failed
    have run : emit volume = _ := run_emit_of_error accepted split written failed
    rw [split] at separate
    simp only [run]
    exact ⟨trivial, readFile_of_stopped inside separate written,
      node?_of_stopped inside separate failed⟩

theorem report_written_or_blocked :
    ".." ∉ (Path.ofText "out").segments ∧ '/' ∉ "report".toList ∧
      let emit := report.emit (m := StateM Volume) {} (Path.ofText "out") "report"
      let files := report.files {} (report.artifacts {}) "report"
      let empty : Volume := ⟨[], [], none, none⟩
      let blocked : Volume :=
        ⟨[(["out"], .directory), (["out", "typeDefs.ts"], .directory)], [], none, none⟩
      ((∃ artifacts, (emit empty).1 = .ok artifacts) ∧
        ∀ location, (emit (emit empty).2).2.node? location = (emit empty).2.node? location) ∧
      (emit blocked).1 = .error (.write ⟨Path.ofText "out/typeDefs.ts"⟩) ∧
      (∀ file ∈ files.take 1, (emit blocked).2.readFile (file.path (Path.ofText "out")) =
        .ok file.content.toUTF8) ∧
      ∀ file ∈ files.drop 1, ∀ below,
        (emit blocked).2.node? (blocked.locate (file.path (Path.ofText "out")) ++ below) =
          blocked.node? (blocked.locate (file.path (Path.ofText "out")) ++ below) := by
  have inside : ".." ∉ (Path.ofText "out").segments := by decide
  have single : '/' ∉ "report".toList := by decide
  have accepted : report.refusal? {} "report" = none := by decide +kernel
  refine ⟨inside, single, ?_⟩
  intro emit files empty blocked
  obtain ⟨-, result, complete, -⟩ :=
    (emit_writes_whole_files {} report (Path.ofText "out") "report" empty inside single).2 accepted
  obtain ⟨-, -, -, stopped⟩ :=
    (emit_writes_whole_files {} report (Path.ofText "out") "report" blocked inside
      single).2 accepted
  have written : empty.AllWritten (Path.ofText "out") files :=
    ⟨by decide +kernel, by decide +kernel, by decide +kernel, trivial⟩
  obtain ⟨run, before, after⟩ := stopped (files.take 1) _ (files.drop 2)
    ⟨Path.ofText "out/typeDefs.ts"⟩ rfl ⟨by decide +kernel, trivial⟩ (by decide +kernel)
  exact ⟨⟨result.mpr written, (complete written).2.2.2⟩, congrArg Prod.fst run, before, after⟩

/-- Whatever becomes of a generation, an entry that was there is there unless it is one of the three
files or the temporary file beside one of them. -/
theorem emit_keeps_other_entries (options : Options) (endpoint : Endpoint) (directory : Path)
    (stem : String) (volume : Volume) (single : '/' ∉ stem.toList) (location : Location)
    (node : Files.Node) (present : volume.node? location = some node)
    (apart : ∀ name ∈ ["resolvers.ts", "typeDefs.ts", stem ++ ".gql", "resolvers.tmp",
      "typeDefs.tmp", stem ++ ".tmp"], location ≠ volume.locate directory ++ [name]) :
    (endpoint.emit (m := StateM Volume) options directory stem volume).2.node? location =
      some node := by
  cases refused : endpoint.refusal? options stem with
  | some fault =>
    rw [run_emit_of_refusal refused]
    exact present
  | none =>
    -- An empty stem is refused, so the name of the query file has a part before its extension.
    have filled : stem ≠ "" := by
      rintro rfl
      cases refused
    have outside : ∀ file ∈ endpoint.files options (endpoint.artifacts options) stem,
        location ≠ volume.locate directory ++ [file.name] ∧
          location ≠ volume.locate directory ++ [Path.temporaryName file.name] := by
      have resolver : Path.temporaryName resolverFile = "resolvers.tmp" := by decide
      have typeDefs : Path.temporaryName typeDefsFile = "typeDefs.tmp" := by decide
      have query := temporaryName_queryFile filled
      simp only [files, List.forall_mem_cons, resolver, typeDefs, query]
      refine ⟨⟨?_, ?_⟩, ⟨?_, ?_⟩, ⟨?_, ?_⟩, by simp⟩
      all_goals exact apart _ (by simp [resolverFile, typeDefsFile, Naming.queryFile])
    have kept := kept_writeFiles
      (separate_files options endpoint (endpoint.artifacts options) single).named present outside
    rw [run_emit refused]
    dsimp only
    exact kept

theorem notes_beside_report_kept :
    let notes : Volume :=
      ⟨[(["out"], .directory), (["out", "notes.txt"], .file ⟨#[110]⟩)], [], none, none⟩
    '/' ∉ "report".toList ∧
      notes.node? ["out", "notes.txt"] = some (.file ⟨#[110]⟩) ∧
      (∀ name ∈ ["resolvers.ts", "typeDefs.ts", "report" ++ ".gql", "resolvers.tmp",
        "typeDefs.tmp", "report" ++ ".tmp"],
        ["out", "notes.txt"] ≠ notes.locate (Path.ofText "out") ++ [name]) ∧
      (report.emit (m := StateM Volume) {} (Path.ofText "out") "report" notes).2.node?
        ["out", "notes.txt"] = some (.file ⟨#[110]⟩) := by
  intro notes
  have single : '/' ∉ "report".toList := by decide
  have present : notes.node? ["out", "notes.txt"] = some (.file ⟨#[110]⟩) := by decide +kernel
  have apart : ∀ name ∈ ["resolvers.ts", "typeDefs.ts", "report" ++ ".gql", "resolvers.tmp",
      "typeDefs.tmp", "report" ++ ".tmp"],
      ["out", "notes.txt"] ≠ notes.locate (Path.ofText "out") ++ [name] := by decide +kernel
  exact ⟨single, present, apart, emit_keeps_other_entries {} report (Path.ofText "out") "report"
    notes single _ _ present apart⟩

/-- The temporary files cannot be left out: a file that has the name of one of them does not
survive. -/
theorem not_every_other_file_kept :
    ¬ ∀ (options : Options) (endpoint : Endpoint) (directory : Path) (stem : String)
      (volume : Volume), '/' ∉ stem.toList → ∀ (location : Location) (content : ByteArray),
        volume.node? location = some (.file content) →
        (∀ name ∈ ["resolvers.ts", "typeDefs.ts", stem ++ ".gql"],
          location ≠ volume.locate directory ++ [name]) →
        (endpoint.emit (m := StateM Volume) options directory stem volume).2.node? location =
          some (.file content) := by
  intro kept
  have notes := kept {} report (Path.ofText "out") "report"
    ⟨[(["out"], .directory), (["out", "resolvers.tmp"], .file ⟨#[110]⟩)], [], none, none⟩
    (by decide) ["out", "resolvers.tmp"] ⟨#[110]⟩ (by decide +kernel) (by decide +kernel)
  revert notes
  decide +kernel

end Endpoint

end RestGraph
