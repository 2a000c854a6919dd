import RestGraph.Proofs.AddedSwitch
import RestGraph.Proofs.Generation
import RestGraph.Proofs.ReadBack
import RestGraph.Proofs.Runs
/-!
Dry runs. A run with the switch for a dry run goes through the plan of the run without it, so it
fails in the same way; and what it prints under the headings of the files is what the other run
leaves in them, if nothing hinders the writing.
-/

set_option autoImplicit false

namespace RestGraph

open Files Files.Volume

theorem Endpoint.lastSegments_files (options : Options) (endpoint : Endpoint)
    (artifacts : Artifacts) (stem : String) :
    (∀ file ∈ endpoint.files options artifacts stem, IsFileName (lastSegment file.name)) ∧
      (endpoint.files options artifacts stem).Pairwise fun file later =>
        lastSegment file.name ≠ lastSegment later.name := by
  obtain ⟨last, single, query⟩ := exists_lastSegment stem (show '/' ∉ ".gql".toList by decide)
  have resolver : lastSegment resolverFile = resolverFile := by decide
  have typeDefs : lastSegment typeDefsFile = typeDefsFile := by decide
  have first : resolverFile ≠ Naming.queryFile last := (queryFile_ne last (by decide)).symm
  have second : typeDefsFile ≠ Naming.queryFile last := (queryFile_ne last (by decide)).symm
  have apart : resolverFile ≠ typeDefsFile := by decide
  replace query : lastSegment (Naming.queryFile stem) = Naming.queryFile last := query
  unfold Endpoint.files
  simp [resolver, typeDefs, query, isFileName_resolverFile, isFileName_typeDefsFile,
    isFileName_queryFile single, first, second, apart]

namespace Command

section Plans

variable {arguments : Arguments} {name : String} {input : ByteArray} {volume : Volume}

theorem error_of_plan {outcome : Outcome}
    (failed : plan arguments name input volume = .error outcome) :
    outcome.error.isSome = true := by
  unfold plan at failed
  split at failed
  · obtain rfl := Except.error.inj failed
    rfl
  · split at failed
    · obtain rfl := Except.error.inj failed
      rfl
    · split at failed
      · obtain rfl := Except.error.inj failed
        rfl
      · cases failed

theorem exists_text_of_plan {planned : Plan}
    (made : plan arguments name input volume = .ok planned) :
    ∃ text, inputText name input volume = some text ∧
      Endpoint.parse text = .ok planned.endpoint ∧
      planned.files = planned.endpoint.files arguments.options planned.artifacts
        (arguments.stem name planned.endpoint) := by
  unfold plan at made
  split at made
  · cases made
  · rename_i text read
    split at made
    · cases made
    · rename_i endpoint parsed
      split at made
      · cases made
      · rename_i artifacts files prepared
        obtain rfl := Except.ok.inj made
        refine ⟨text, read, parsed, ?_⟩
        rw [Endpoint.prepare_eq] at prepared
        split at prepared
        · cases prepared
        · obtain ⟨rfl, rfl⟩ := Prod.mk.inj (Except.ok.inj prepared)
          rfl

end Plans

theorem allWritten_of_writeFiles {directory : Path} {volume : Volume} {files : List OutputFile}
    (written : (writeFiles (m := StateM Volume) directory files volume).1.2 = .ok ()) :
    volume.AllWritten directory files := by
  rcases allWritten_or_stopped directory volume files with all | stopped
  · exact all
  · obtain ⟨done, failing, rest, fault, rfl, before, failed⟩ := stopped
    rw [(run_writeFiles_of_error rest before failed).1] at written
    cases written

theorem readFile_of_plan {arguments : Arguments} {name : String} {input : ByteArray}
    {volume : Volume} {planned : Plan} {directory : Path}
    (made : plan arguments name input volume = .ok planned)
    (all : (writeFiles (m := StateM Volume) directory planned.files volume).1.2 = .ok ()) :
    ∀ file ∈ planned.files,
      (writeFiles (m := StateM Volume) directory planned.files volume).2.readFile
        (file.path directory) = .ok file.content.toUTF8 := by
  have written := allWritten_of_writeFiles all
  obtain ⟨_, -, -, files⟩ := exists_text_of_plan made
  have separate := planned.endpoint.lastSegments_files arguments.options planned.artifacts
    (arguments.stem name planned.endpoint)
  rw [← files] at separate
  rw [(run_writeFiles written).2]
  exact readFile_of_allWritten separate.1 separate.2 written

theorem error_eq (fault : WriteFault) :
    "Error: " ++ fault.message =
      "Error: Failed to write output file '" ++ fault.path.text ++ "'" := by
  have joined : "Error: " ++ "Failed to write output file '" =
      "Error: Failed to write output file '" := by decide
  unfold WriteFault.message
  rw [← String.append_assoc, ← String.append_assoc, joined]

theorem runOn_real_cases (surroundings : Surroundings) {words : List String}
    {arguments : Arguments} {name : String} {input : ByteArray} {volume : Volume} {planned : Plan}
    (parsed : Arguments.parse words = .ok (arguments, name)) (real : arguments.dryRun = false)
    (made : plan arguments name input volume = .ok planned) :
    let done := runOn surroundings words input volume
    (done.1.status = 0 ∧ ∀ file ∈ planned.files,
      done.2.readFile (file.path (arguments.directory name)) = .ok file.content.toUTF8) ∨
    ∃ path, done.1.status = 1 ∧
      done.1.error = some ("Error: Failed to write output file '" ++ path ++ "'") := by
  intro done
  have done_eq : done = _ := runOn_of_real surroundings input volume parsed made real
  rw [done_eq]
  have ending := report_of_written surroundings arguments planned arguments.options
    (arguments.directory name)
    (writeFiles (m := StateM Volume) (arguments.directory name) planned.files volume).1
  rcases ending with ⟨all, fine⟩ | ⟨fault, -, status, failed⟩
  · exact .inl ⟨fine, readFile_of_plan made all⟩
  · exact .inr ⟨fault.path.text, status, failed.trans (congrArg some (error_eq fault))⟩

section Headings

variable {name : String}

theorem resume_of_not_mem {style chars : List Char} (plain : '\x1b' ∉ chars) :
    Style.resume style chars = chars := by
  induction chars with
  | nil => rfl
  | cons c rest ih =>
    obtain ⟨here, later⟩ := not_or.mp (mt List.mem_cons.mpr plain)
    rw [Style.resume, ih later]
    rintro _ rfl
    exact absurd rfl here

/-- The heading over a file. Colour puts its codes around a heading that has none inside. -/
def IsHeading (color : Bool) (name heading : String) : Prop :=
  (color = false → heading = "=== " ++ name ++ " ===") ∧
    (color = true → '\x1b' ∉ name.toList → heading = "\x1b[1;36m=== " ++ name ++ " ===\x1b[0m")

theorem isHeading_heading (color : Bool) (name : String) :
    IsHeading color name (heading color name) := by
  cases color with
  | false => exact ⟨fun _ => rfl, nofun⟩
  | true =>
    refine ⟨nofun, fun _ plain => ?_⟩
    have title : '\x1b' ∉ ("=== " ++ name ++ " ===").toList := by
      simpa [String.toList_append] using plain
    apply String.toList_injective
    rw [heading, if_pos rfl, Style.apply, resume_of_not_mem title]
    simp [String.toList_append, Style.heading, Style.ending]

/-- An output shows files one after another, each on the lines below its heading and with a line end
behind it. -/
def ShowsFiles (color : Bool) (output : String) (files : List OutputFile) : Prop :=
  ∃ heading : String → String, (∀ name, IsHeading color name (heading name)) ∧
    output = String.join (files.map fun file => heading file.name ++ "\n" ++ file.content ++ "\n")

theorem showsFiles_printed (color : Bool) (files : List OutputFile) :
    ShowsFiles color (printed color files) files :=
  ⟨heading color, isHeading_heading color, rfl⟩

end Headings

theorem report_congr {halt : Halt} (asked : halt ≠ .usage) (first second : String) :
    halt.report first = halt.report second := by
  cases halt with
  | usage => exact absurd rfl asked
  | help | version => rfl

/-- Both runs go through one plan. The dry run shows its files, and the other run leaves them in the
output directory or fails at one of them. -/
theorem runs_of_plan (surroundings : Surroundings) {real dry : List String} {arguments : Arguments}
    {name : String} {input : ByteArray} {volume : Volume} {planned : Plan}
    (readReal : Arguments.parse real = .ok (arguments, name)) (off : arguments.dryRun = false)
    (readDry : Arguments.parse dry = .ok (arguments.withDryRun true, name))
    (made : plan arguments name input volume = .ok planned) :
    let foretold := runOn surroundings dry input volume
    let done := runOn surroundings real input volume
    foretold.2 = volume ∧ foretold.1.status = 0 ∧
    ShowsFiles surroundings.color foretold.1.output planned.files ∧
    ((done.1.status = 0 ∧ ∀ file ∈ planned.files,
      done.2.readFile (file.path (arguments.directory name)) = .ok file.content.toUTF8) ∨
    ∃ path, done.1.status = 1 ∧
      done.1.error = some ("Error: Failed to write output file '" ++ path ++ "'")) := by
  intro foretold done
  have foretold_eq : foretold = _ := runOn_of_dry surroundings input volume readDry made rfl
  refine ⟨?_, ?_, ?_, runOn_real_cases surroundings readReal off made⟩
  · rw [foretold_eq]
  · rw [foretold_eq]
    rfl
  · rw [foretold_eq]
    exact showsFiles_printed surroundings.color planned.files

/-- A dry run foretells the run. It touches nothing. If it fails, the other run comes to the same,
faults and untouched files included, except that a refused command line is answered with a message
for its own words; else the other run succeeds or fails at a file that it cannot write. If both
succeed, what the dry run has printed is three files under their headings, and these are in the
output directory with just the contents that were printed. A command line that asks for the version
or for help comes to the same with and without the switch. -/
theorem dry_run_foretells_run (surroundings : Surroundings) {real dry : List String}
    (adds : Arguments.AddsDryRun real dry) (input : ByteArray) (volume : Volume) :
    let foretold := runOn surroundings dry input volume
    let done := runOn surroundings real input volume
    foretold.2 = volume ∧
    (foretold.1.status ≠ 0 → Arguments.parse real ≠ .error .usage → done = foretold) ∧
    (Arguments.parse real = .error .usage →
      foretold = ({ status := 2, error := some (surroundings.refusal dry) }, volume) ∧
        done = ({ status := 2, error := some (surroundings.refusal real) }, volume)) ∧
    (foretold.1.status = 0 → done.1.status = 0 ∨
      ∃ path, done.1.error = some ("Error: Failed to write output file '" ++ path ++ "'")) ∧
    (foretold.1.status = 0 → done.1.status = 0 →
      ∀ arguments name, Arguments.parse real = .ok (arguments, name) →
        ∃ text endpoint files, inputText name input volume = some text ∧
          Endpoint.parse text = .ok endpoint ∧
          files.map OutputFile.name =
            ["resolvers.ts", "typeDefs.ts", arguments.stem name endpoint ++ ".gql"] ∧
          ShowsFiles surroundings.color foretold.1.output files ∧
          ∀ file ∈ files, done.2.readFile (file.path (arguments.directory name)) =
            .ok file.content.toUTF8) ∧
    ∀ halt, halt ≠ .usage → Arguments.parse real = .error halt → done = foretold := by
  intro foretold done
  have parsed := adds.parse_eq
  cases read : Arguments.parse real with
  | error halt =>
    rw [read, map_error] at parsed
    have done_eq : done = (halt.report (surroundings.refusal real), volume) :=
      runOn_of_halt surroundings input volume read
    have foretold_eq : foretold = (halt.report (surroundings.refusal dry), volume) :=
      runOn_of_halt surroundings input volume parsed
    have agree (asked : halt ≠ .usage) : done = foretold := by
      rw [done_eq, foretold_eq, report_congr asked]
    refine ⟨by rw [foretold_eq], fun _ allowed => agree fun usage => allowed (by rw [usage]),
      ?_, fun good => .inl ?_, ?_, fun _ asked same => agree (Except.error.inj same ▸ asked)⟩
    · intro refused
      obtain rfl := Except.error.inj refused
      exact ⟨foretold_eq, done_eq⟩
    · have asked : halt ≠ .usage := by
        rintro rfl
        rw [foretold_eq] at good
        cases good
      rw [agree asked]
      exact good
    · intro _ _ arguments name impossible
      cases impossible
  | ok given =>
    obtain ⟨arguments, name⟩ := given
    have off := adds.dryRun_eq_false read
    replace parsed : Arguments.parse dry = .ok (arguments.withDryRun true, name) := by
      rw [parsed, read]
      rfl
    -- The plan does not look at the switch.
    have same : plan (arguments.withDryRun true) name input volume =
        plan arguments name input volume := rfl
    cases made : plan arguments name input volume with
    | error outcome =>
      have fault := error_of_plan made
      have done_eq : done = _ := runOn_of_failed surroundings input volume read made
      have foretold_eq : foretold = _ :=
        runOn_of_failed surroundings input volume parsed (same.trans made)
      have agree : done = foretold := done_eq.trans foretold_eq.symm
      have fails : foretold.1.status = 1 := by
        rw [foretold_eq]
        simp only [reportOf, fault, if_true]
      refine ⟨by rw [foretold_eq], fun _ _ => agree, nofun, ?_, ?_, nofun⟩
      · simp [fails]
      · simp [fails]
    | ok planned =>
      obtain ⟨text, readable, endpoint, files⟩ := exists_text_of_plan made
      obtain ⟨untouched, good, shows, ending⟩ := runs_of_plan surroundings read off parsed made
      refine ⟨untouched, fun bad _ => absurd good bad, nofun, fun _ => ?_, ?_, nofun⟩
      · rcases ending with ⟨fine, -⟩ | ⟨path, -, failed⟩
        · exact .inl fine
        · exact .inr ⟨path, failed⟩
      · intro _ fine others label reading
        obtain ⟨rfl, rfl⟩ := Prod.mk.inj (Except.ok.inj reading)
        rcases ending with ⟨-, held⟩ | ⟨_, bad, -⟩
        · refine ⟨text, planned.endpoint, planned.files, readable, endpoint, ?_, shows, held⟩
          rw [files]
          rfl
        · rw [fine] at bad
          cases bad

def itemInput : ByteArray :=
  ("\x7b\"API_NAME\":\"GetItem\",\"METHOD\":\"GET\"," ++
    "\"RESPONSE\":\x7b\"id\":\"string\"\x7d\x7d").toUTF8

theorem addsDryRun_nil : Arguments.AddsDryRun [] ["--dry-run"] := by
  refine .intro [] [] (by decide) ?_ (by decide) (by decide)
  intro state read
  obtain rfl := Except.ok.inj read
  rfl

/-- The message for a command line that gives no input. Its last line but one shows how the words
that are there would have to be completed. -/
def missingInput (words : List String) : String :=
  "error: the following required arguments were not provided:\n  <INPUT>\n\nUsage: api2gql " ++
    String.join (words.map (· ++ " ")) ++ "<INPUT>\n\nFor more information, try '--help'."

theorem item_foretold :
    let surroundings : Surroundings := { refusal := missingInput }
    let real := ["-", "-o", "out"]
    let dry := ["-", "--dry-run", "-o", "out"]
    let empty : Volume := ⟨[], [], none, none⟩
    let taken : Volume := ⟨[(["out"], .file .empty)], [], none, none⟩
    Arguments.AddsDryRun real dry ∧ Arguments.AddsDryRun [] ["--dry-run"] ∧
    (∃ files : List OutputFile,
      files.map OutputFile.name = ["resolvers.ts", "typeDefs.ts", "getitem.gql"] ∧
      ShowsFiles false (runOn surroundings dry itemInput empty).1.output files ∧
      ∀ file ∈ files, (runOn surroundings real itemInput empty).2.readFile
        (Path.ofText ("out/" ++ file.name)) = .ok file.content.toUTF8) ∧
    (∃ path, (runOn surroundings real itemInput taken).1.error =
      some ("Error: Failed to write output file '" ++ path ++ "'")) ∧
    runOn surroundings real .empty empty = runOn surroundings dry .empty empty ∧
    runOn surroundings [] .empty empty =
      ({ status := 2, error := some (missingInput []) }, empty) := by
  intro surroundings real dry empty taken
  let arguments : Arguments := { output := some "out", input := some "-" }
  let item : Endpoint := ⟨"GetItem", "GET", [], .scalar "id" .string .nil⟩
  have adds : Arguments.AddsDryRun real dry := by
    refine .intro ["-"] ["-o", "out"] (by decide) ?_ (by decide) (by decide)
    intro state read
    obtain rfl := Except.ok.inj read
    rfl
  have bare : Arguments.AddsDryRun [] ["--dry-run"] := addsDryRun_nil
  have parsed : Arguments.parse real = .ok (arguments, "-") := by decide
  obtain ⟨-, -, -, -, written, -⟩ := dry_run_foretells_run surroundings adds itemInput empty
  obtain ⟨-, -, -, unwritten, -, -⟩ := dry_run_foretells_run surroundings adds itemInput taken
  obtain ⟨-, failed, -, -, -, -⟩ := dry_run_foretells_run surroundings adds .empty empty
  obtain ⟨-, -, refused, -, -, -⟩ := dry_run_foretells_run surroundings bare .empty empty
  have shown : (runOn surroundings dry itemInput empty).1.status = 0 := by decide +kernel
  have fine : (runOn surroundings real itemInput empty).1.status = 0 := by decide +kernel
  have beside : (runOn surroundings dry itemInput taken).1.status = 0 := by decide +kernel
  have blocked : (runOn surroundings real itemInput taken).1.status ≠ 0 := by decide +kernel
  have nothing : (runOn surroundings dry .empty empty).1.status ≠ 0 := by decide +kernel
  have given : Arguments.parse real ≠ .error .usage := by rw [parsed]; exact nofun
  obtain ⟨text, endpoint, files, readable, accepted, names, shows, held⟩ :=
    written shown fine arguments "-" parsed
  have described : (inputText "-" itemInput empty).map Endpoint.parse = some (.ok item) := by
    decide +kernel
  have named : arguments.stem "-" endpoint ++ ".gql" = "getitem.gql" := by
    rw [readable, Option.map_some, accepted] at described
    obtain rfl := Except.ok.inj (Option.some.inj described)
    decide +kernel
  have placed : ∀ name ∈ ["resolvers.ts", "typeDefs.ts", "getitem.gql"],
      (arguments.directory "-").join (Path.ofText name) = Path.ofText ("out/" ++ name) := by
    decide
  rw [named] at names
  refine ⟨adds, bare, ⟨files, names, shows, fun file mem => ?_⟩,
    (unwritten beside).resolve_left blocked, failed nothing given, (refused rfl).2⟩
  rw [← placed file.name (names ▸ List.mem_map_of_mem mem)]
  exact held file mem

/-- The switch shows in the message for a command line that gives no input. -/
theorem refusal_names_the_switch :
    let surroundings : Surroundings := { refusal := missingInput }
    let empty : Volume := ⟨[], [], none, none⟩
    let foretold := runOn surroundings ["--dry-run"] .empty empty
    let done := runOn surroundings [] .empty empty
    Arguments.AddsDryRun [] ["--dry-run"] ∧ foretold.1.status = 2 ∧ done.1.status = 2 ∧
    foretold.1.error = some ("error: the following required arguments were not provided:\n" ++
      "  <INPUT>\n\nUsage: api2gql --dry-run <INPUT>\n\nFor more information, try '--help'.") ∧
    done.1.error = some ("error: the following required arguments were not provided:\n" ++
      "  <INPUT>\n\nUsage: api2gql <INPUT>\n\nFor more information, try '--help'.") ∧
    done.1.error ≠ foretold.1.error := by
  intro surroundings empty foretold done
  have foretold_eq : foretold = _ :=
    runOn_of_halt surroundings .empty empty (show Arguments.parse ["--dry-run"] = .error .usage from
      by decide)
  have done_eq : done = _ :=
    runOn_of_halt surroundings .empty empty (show Arguments.parse [] = .error .usage from rfl)
  rw [foretold_eq, done_eq]
  exact ⟨addsDryRun_nil, rfl, rfl, rfl, rfl, by decide +kernel⟩

end Command

end RestGraph
