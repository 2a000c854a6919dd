import RestGraph.Command.Run
import RestGraph.Proofs.WholeWrites
/-!
Runs of the program on a volume. What a run reads and generates is settled before it writes, and the
standard input plays no part in its writing; so a run is a plan that fails, or one whose files are
printed or written.
-/

set_option autoImplicit false

namespace RestGraph

open Files Files.Volume

namespace Command

abbrev OnVolume : Type → Type :=
  ReaderT ByteArray (StateM Volume)

section Writing

variable {α β : Type} (input : ByteArray)

theorem onVolume_bind (first : OnVolume α) (next : α → OnVolume β) :
    (first >>= next) input = first input >>= fun value => next value input :=
  rfl

theorem orExisting_onVolume (path : Path) (fault : Fault) :
    (orExisting path fault : OnVolume _) input = orExisting (m := StateM Volume) path fault := by
  unfold orExisting
  rw [onVolume_bind]
  refine congrArg _ (funext fun there => ?_)
  cases there <;> rfl

theorem makeDirectories_onVolume (paths : List Path) :
    (makeDirectories paths : OnVolume _) input = makeDirectories (m := StateM Volume) paths := by
  induction paths with
  | nil => rfl
  | cons path above ih =>
    unfold makeDirectories
    rw [onVolume_bind]
    refine congrArg _ (funext fun first => ?_)
    rcases first with fault | _
    · cases fault with
      | missing =>
        dsimp only
        rw [onVolume_bind, ih]
        refine congrArg _ (funext fun others => ?_)
        rcases others with fault | _
        · rfl
        · dsimp only
          rw [onVolume_bind]
          refine congrArg _ (funext fun again => ?_)
          rcases again with fault | _
          · exact orExisting_onVolume input path fault
          · rfl
      | _ => exact orExisting_onVolume input path _
    · rfl

theorem makeParents_onVolume (path : Path) :
    (makeParents path : OnVolume _) input = makeParents (m := StateM Volume) path := by
  unfold makeParents
  cases path.parent? with
  | none => rfl
  | some parent =>
    dsimp only
    rw [onVolume_bind, makeDirectories_onVolume]
    refine congrArg _ (funext fun made => ?_)
    cases made <;> rfl

theorem writeWhole_onVolume (path : Path) (content : String) :
    (writeWhole path content : OnVolume _) input =
      writeWhole (m := StateM Volume) path content := by
  unfold writeWhole
  rw [onVolume_bind, makeParents_onVolume]
  refine congrArg _ (funext fun made => ?_)
  rcases made with fault | _
  · rfl
  · dsimp only
    rw [onVolume_bind]
    refine congrArg _ (funext fun filled => ?_)
    rcases filled with fault | _
    · rfl
    · dsimp only
      rw [onVolume_bind]
      refine congrArg _ (funext fun moved => ?_)
      rcases moved with fault | _ <;> rfl

theorem writeFiles_onVolume (directory : Path) (files : List OutputFile) :
    (writeFiles directory files : OnVolume _) input =
      writeFiles (m := StateM Volume) directory files := by
  induction files with
  | nil => rfl
  | cons file rest ih =>
    unfold writeFiles
    dsimp only
    rw [onVolume_bind, writeWhole_onVolume]
    refine congrArg _ (funext fun written => ?_)
    rcases written with fault | _
    · rfl
    · dsimp only
      rw [onVolume_bind, ih]
      rfl

end Writing

def inputText (name : String) (input : ByteArray) (volume : Volume) : Option String :=
  if name = "-" then String.fromUTF8? input
  else
    match volume.readFile (Path.ofText name) with
    | .error _ => none
    | .ok content => String.fromUTF8? content

structure Plan where
  endpoint : Endpoint
  artifacts : Artifacts
  files : List OutputFile

/-- What a run makes of its input before it prints or writes anything, or the outcome of a run that
fails before that. -/
def plan (arguments : Arguments) (name : String) (input : ByteArray) (volume : Volume) :
    Except Outcome Plan :=
  match inputText name input volume with
  | none => .error ⟨[], "", some (unreadable name)⟩
  | some text =>
    match Endpoint.parse text with
    | .error fault => .error ⟨[], "", some fault.message⟩
    | .ok endpoint =>
      match endpoint.prepare arguments.options (arguments.stem name endpoint) with
      | .error fault =>
        let loaded := Event.loaded endpoint.name endpoint.method endpoint.parameters.length
        .error ⟨[loaded], "", some fault.message⟩
      | .ok (artifacts, files) => .ok ⟨endpoint, artifacts, files⟩

namespace Plan

def events (planned : Plan) (options : Options) : List Event :=
  .loaded planned.endpoint.name planned.endpoint.method planned.endpoint.parameters.length ::
    generationEvents options planned.endpoint planned.artifacts

def shown (planned : Plan) (options : Options) (color : Bool) : Outcome :=
  ⟨planned.events options, printed color planned.files, none⟩

def written (planned : Plan) (options : Options) (directory : Path)
    (writing : List Path × Except WriteFault Unit) : Outcome :=
  let events := planned.events options ++ writing.1.map fun path => .wrote path.text
  match writing.2 with
  | .error fault => ⟨events, "", some fault.message⟩
  | .ok () => ⟨events ++ [.complete directory.text], "", none⟩

end Plan

section Performing

variable (arguments : Arguments) (name : String) (color : Bool) (input : ByteArray)
  (volume : Volume)

theorem readInput_onVolume :
    (readInput name : OnVolume _) input volume = (inputText name input volume, volume) := by
  unfold readInput inputText
  by_cases standard : name = "-"
  · rw [if_pos standard, if_pos standard]
    rfl
  · rw [if_neg standard, if_neg standard, onVolume_bind, run_bind]
    have read : (FileSystem.readFile (Path.ofText name) : OnVolume _) input volume =
        (volume.readFile (Path.ofText name), volume) := rfl
    rw [read]
    cases volume.readFile (Path.ofText name) <;> rfl

theorem perform_onVolume :
    (perform arguments name color : OnVolume _) input volume =
      match plan arguments name input volume with
      | .error outcome => (outcome, volume)
      | .ok planned =>
        if arguments.dryRun then (planned.shown arguments.options color, volume)
        else
          let run := writeFiles (m := StateM Volume) (arguments.directory name) planned.files volume
          (planned.written arguments.options (arguments.directory name) run.1, run.2) := by
  unfold perform plan
  rw [onVolume_bind, run_bind, readInput_onVolume]
  cases inputText name input volume with
  | none => rfl
  | some text =>
    dsimp only
    cases Endpoint.parse text with
    | error fault => rfl
    | ok endpoint =>
      dsimp only
      unfold generateFor
      cases endpoint.prepare arguments.options (arguments.stem name endpoint) with
      | error fault => rfl
      | ok made =>
        dsimp only
        cases arguments.dryRun with
        | true => rfl
        | false =>
          simp only [Bool.false_eq_true, if_false]
          rw [onVolume_bind, run_bind, writeFiles_onVolume]
          rcases writeFiles (m := StateM Volume) (arguments.directory name) made.2 volume with
            ⟨⟨paths, fault | _⟩, changed⟩ <;> rfl

end Performing

section Reports

variable (surroundings : Surroundings) {words : List String} (input : ByteArray) (volume : Volume)

def reportOf (surroundings : Surroundings) (arguments : Arguments) (outcome : Outcome) :
    Report where
  status := if outcome.error.isSome then 1 else 0
  output := outcome.output
  log :=
    let shown := match Filter.select surroundings.log arguments.verbosity with
      | none => []
      | some filter => outcome.events.filter filter.shows
    shown.map Event.entry
  error := outcome.error.map ("Error: " ++ ·)

theorem runOn_of_halt {halt : Halt} (parsed : Arguments.parse words = .error halt) :
    runOn surroundings words input volume =
      (halt.report (surroundings.refusal words), volume) := by
  unfold runOn run
  rw [parsed]
  rfl

variable {arguments : Arguments} {name : String} {planned : Plan} {outcome : Outcome}

theorem runOn_of_ok (parsed : Arguments.parse words = .ok (arguments, name)) :
    runOn surroundings words input volume =
      let performed := (perform arguments name surroundings.color : OnVolume _) input volume
      (reportOf surroundings arguments performed.1, performed.2) := by
  unfold runOn run
  rw [parsed]
  rfl

theorem runOn_of_failed (parsed : Arguments.parse words = .ok (arguments, name))
    (failed : plan arguments name input volume = .error outcome) :
    runOn surroundings words input volume =
      (reportOf surroundings arguments outcome, volume) := by
  rw [runOn_of_ok surroundings input volume parsed, perform_onVolume, failed]

theorem runOn_of_dry (parsed : Arguments.parse words = .ok (arguments, name))
    (made : plan arguments name input volume = .ok planned) (dry : arguments.dryRun = true) :
    runOn surroundings words input volume =
      (reportOf surroundings arguments (planned.shown arguments.options surroundings.color),
        volume) := by
  rw [runOn_of_ok surroundings input volume parsed, perform_onVolume, made]
  simp only [dry, if_true]

theorem runOn_of_real (parsed : Arguments.parse words = .ok (arguments, name))
    (made : plan arguments name input volume = .ok planned) (real : arguments.dryRun = false) :
    runOn surroundings words input volume =
      let directory := arguments.directory name
      let run := writeFiles (m := StateM Volume) directory planned.files volume
      (reportOf surroundings arguments (planned.written arguments.options directory run.1),
        run.2) := by
  rw [runOn_of_ok surroundings input volume parsed, perform_onVolume, made]
  simp only [real, Bool.false_eq_true, if_false]

theorem report_of_written (arguments : Arguments) (planned : Plan) (options : Options)
    (directory : Path) (writing : List Path × Except WriteFault Unit) :
    let report := reportOf surroundings arguments (planned.written options directory writing)
    (writing.2 = .ok () ∧ report.status = 0) ∨
      ∃ fault, writing.2 = .error fault ∧ report.status = 1 ∧
        report.error = some ("Error: " ++ fault.message) := by
  obtain ⟨paths, fault | _⟩ := writing
  · exact .inr ⟨fault, rfl, rfl, rfl⟩
  · exact .inl ⟨rfl, rfl⟩

end Reports

end Command

end RestGraph
