import ServiceTree.Command.Run
import ServiceTree.Proofs.ClientAgreement
import ServiceTree.Proofs.ModelDocuments

/-!
# What rejected runs leave behind

A run that is rejected leaves the files as they were, with one exception: the code of a client is written
before the name of its package is looked at, and stays if the name is refused. A dry run never writes.
-/

namespace ServiceTree.Command

/-! ## Dry runs -/

namespace Given

variable {given result : Given}

/-- Giving an option its value does not turn a dry run into another one. -/
theorem dryRun_of_set {setting : Setting} {value : String} (h : given.set setting value = .ok result) :
    result.dryRun = given.dryRun := by
  unfold set at h
  split at h
  · cases h
    rfl
  · cases h

/-- Throwing a switch does not turn a dry run into another one. -/
theorem dryRun_of_throwSwitch {switch : Switch} (h : given.throwSwitch switch = .ok result)
    (hdry : given.dryRun = true) : result.dryRun = true := by
  cases switch with
  | dryRun =>
    rw [throwSwitch, if_pos hdry] at h
    cases h
  | verbose =>
    cases h
    exact hdry
  | help => cases h
  | version => cases h

end Given

variable {given result : Given} {waiting : Option Setting}

/-- An option with its value does not turn a dry run into another one. -/
theorem dryRun_of_map_set {setting : Setting} {value : String}
    (h : (given.set setting value).map (·, none) = .ok (result, waiting)) :
    result.dryRun = given.dryRun := by
  obtain ⟨read, hread, hpair⟩ := Outcome.map_eq_ok.mp h
  cases hpair
  exact Given.dryRun_of_set hread

/-- Reading letters does not turn a dry run into another one. -/
theorem dryRun_of_readLetters {letters : List Char} (h : readLetters given letters = .ok (result, waiting))
    (hdry : given.dryRun = true) : result.dryRun = true := by
  induction letters generalizing given with
  | nil =>
    cases h
    exact hdry
  | cons letter rest ih =>
    rw [readLetters.eq_def] at h
    dsimp only at h
    split at h
    case h_1 => cases h
    case h_2 switch _ =>
      obtain ⟨thrown, hthrown, h⟩ := Outcome.bind_eq_ok.mp h
      exact ih h (Given.dryRun_of_throwSwitch hthrown hdry)
    case h_3 setting _ =>
      split at h
      · cases h
        exact hdry
      · exact (dryRun_of_map_set h).trans hdry
      · exact (dryRun_of_map_set h).trans hdry

/-- Reading an argument does not turn a dry run into another one. -/
theorem dryRun_of_readFlag {argument : List Char} (h : readFlag given argument = .ok (result, waiting))
    (hdry : given.dryRun = true) : result.dryRun = true := by
  unfold readFlag at h
  split at h
  · split at h
    · exact (dryRun_of_map_set h).trans hdry
    · cases h
      exact hdry
    · obtain ⟨thrown, hthrown, hpair⟩ := Outcome.map_eq_ok.mp h
      cases hpair
      exact Given.dryRun_of_throwSwitch hthrown hdry
    · cases h
  · exact dryRun_of_readLetters h hdry

/-- The argument for dry runs asks for one. -/
theorem dryRun_of_readFlag_dryRun (h : readFlag given "--dry-run".toList = .ok (result, waiting)) :
    result.dryRun = true := by
  have hread : readFlag given "--dry-run".toList = (given.throwSwitch .dryRun).map (·, none) := by
    rfl
  rw [hread, Given.throwSwitch] at h
  split at h
  · cases h
  · cases h
    rfl

/-- A dry run is asked for by the arguments up to one, or by that one. -/
theorem dryRun_of_readFlag_or {argument : String}
    (h : readFlag given argument.toList = .ok (result, waiting))
    (hdry : given.dryRun = true ∨ "--dry-run" = argument) : result.dryRun = true := by
  rcases hdry with hdry | rfl
  · exact dryRun_of_readFlag h hdry
  · exact dryRun_of_readFlag_dryRun h

/-- Where the argument for dry runs is among the arguments and all are read, the run is dry. -/
theorem dryRun_of_readArguments {arguments : List String} (h : readArguments given arguments = .ok result)
    (hdry : given.dryRun = true ∨ "--dry-run" ∈ arguments) : result.dryRun = true := by
  fun_induction readArguments given arguments with
  | case1 given =>
    cases h
    simpa using hdry
  | case2 given argument rest hend hnone =>
    cases h
    rw [beq_iff_eq] at hend
    subst hend
    rw [List.isEmpty_iff.mp hnone] at hdry
    exact hdry.resolve_right (by decide)
  | case6 given argument rest _ _ next hread ih =>
    rw [List.mem_cons, ← or_assoc] at hdry
    exact ih h (hdry.imp_left (dryRun_of_readFlag_or hread))
  | case10 given argument _ _ next setting hread value rest hvalue given' hset ih =>
    rw [List.mem_cons, ← or_assoc, List.mem_cons] at hdry
    have hplain : "--dry-run" ≠ value := by
      rintro rfl
      exact hvalue (by decide)
    refine ih h ?_
    rw [Given.dryRun_of_set hset]
    exact hdry.imp (dryRun_of_readFlag_or hread) fun hmem => hmem.resolve_left hplain
  | _ => cases h

/-- Complete arguments are dry if what was given is. -/
theorem dryRun_of_parse {arguments : List String} {options : Arguments} (h : parse arguments = .ok options)
    (hdry : "--dry-run" ∈ arguments) : options.dryRun = true := by
  obtain ⟨given, hgiven, h⟩ := Outcome.bind_eq_ok.mp h
  have hgiven := dryRun_of_readArguments hgiven (.inr hdry)
  unfold Given.complete at h
  split at h
  · cases h
  · cases h
    exact hgiven

/-! ## Effects -/

/-- The file that is not written where an effect fails. -/
def failedWrite? (files : FileSystem) : List Effect → Option FilePath
  | [] => none
  | .print _ :: rest => failedWrite? files rest
  | .write path content :: rest =>
    match files.writeWhole path content with
    | (true, files) => failedWrite? files rest
    | (false, _) => some path

/-- Effects none of which fails end with the status of the run. -/
theorem perform_status {status : Nat} {files : FileSystem} {printed : String} {effects : List Effect}
    (h : failedWrite? files effects = none) : (perform status files printed effects).status = status := by
  induction effects generalizing files printed with
  | nil => rfl
  | cons effect rest ih =>
    cases effect with
    | print text => exact ih h
    | write path content =>
      cases hwrite : files.writeWhole path content with
      | mk isWritten written =>
        rw [failedWrite?, hwrite] at h
        rw [perform, hwrite]
        cases isWritten with
        | true => exact ih h
        | false => cases h

/-- Printing leaves the files as they are. -/
theorem perform_files_of_prints {status : Nat} {files : FileSystem} {printed : String}
    {effects : List Effect} (h : ∀ effect ∈ effects, ∃ text, effect = .print text) :
    (perform status files printed effects).files = files := by
  induction effects generalizing printed with
  | nil => rfl
  | cons effect rest ih =>
    rw [List.forall_mem_cons] at h
    obtain ⟨⟨text, rfl⟩, hrest⟩ := h
    exact ih hrest

/-- What a run can come to: a model that is not loaded, an artifact that cannot be made, code whose package
cannot be named, or everything handed out. -/
inductive Generated (options : Arguments) (content : Option ByteArray) : Run → Prop
  | unmade {error : GenerationError}
    (herror : (loadModel options content >>= options.artifact.ofModel) = .error error) :
    Generated options content (failure [] error)
  | misnamed {text : String} {error : GenerationError} (hartifact : options.artifact = .code)
    (htext : (loadModel options content >>= Artifact.code.ofModel) = .ok text)
    (hname : Manifest.isPackageName options.packageName = false) :
    Generated options content
      (failure [handOut options options.output Artifact.code.fileName text] error)
  | complete {text : String} {model : Model} {rest : List Effect}
    (htext : (loadModel options content >>= options.artifact.ofModel) = .ok text)
    (hrest : ∀ effect ∈ rest, ∃ directory name content, effect = handOut options directory name content) :
    Generated options content
      (success options model (handOut options options.output options.artifact.fileName text :: rest))

/-- A run comes to one of these ends. -/
theorem generate_generated (options : Arguments) (content : Option ByteArray) :
    Generated options content (generate options content) := by
  unfold generate
  cases hmodel : loadModel options content with
  | error error => exact .unmade (by rw [hmodel]; rfl)
  | ok model =>
    dsimp only
    cases htext : options.artifact.ofModel model with
    | error error => exact .unmade (by rw [hmodel]; exact htext)
    | ok text =>
      have hmade : (loadModel options content >>= options.artifact.ofModel) = .ok text := by
        rw [hmodel]
        exact htext
      have hcomplete {rest : List Effect} := @Generated.complete options content text model rest hmade
      cases hartifact : options.artifact with
      | plan =>
        rw [hartifact] at hcomplete
        exact hcomplete (List.forall_mem_nil _)
      | code =>
        rw [hartifact] at hcomplete hmade
        dsimp only
        unfold withManifest Manifest.render manifest
        dsimp only
        cases hname : Manifest.isPackageName options.packageName with
        | true => exact hcomplete (by simp)
        | false => exact .misnamed hartifact hmade hname

/-- The effects of a dry run print. -/
theorem Generated.prints {options : Arguments} {content : Option ByteArray} {run : Run}
    (h : Generated options content run) (hdry : options.dryRun = true) :
    ∀ effect ∈ run.effects, ∃ text, effect = .print text := by
  have hout (directory : FilePath) (name content : String) :
      ∃ text, handOut options directory name content = .print text := by
    rw [handOut, if_pos hdry]
    exact ⟨_, rfl⟩
  cases h with
  | unmade => exact List.forall_mem_nil _
  | misnamed => exact List.forall_mem_singleton.mpr (hout _ _ _)
  | complete htext hrest =>
    refine List.forall_mem_cons.mpr ⟨hout _ _ _, fun effect hmem => ?_⟩
    obtain ⟨directory, name, content, rfl⟩ := hrest effect hmem
    exact hout _ _ _

/-- A run ends with an error, and not with one of writing a file. -/
def Rejected (files : FileSystem) (arguments : List String) : Prop :=
  (runOn files arguments).status ≠ succeeded ∧
    failedWrite? files (run files.read? arguments).effects = none

/-- Arguments for writing the code of a package that cannot be named so, and that code. -/
structure Misnames (files : FileSystem) (options : Arguments) (text : String) : Prop where
  artifact : options.artifact = .code
  written : options.dryRun = false
  code : (loadModel options (options.model.bind files.read?) >>= Artifact.code.ofModel) = .ok text
  name : Manifest.isPackageName options.packageName = false

section

variable {files : FileSystem} {arguments : List String} {options : Arguments} {content : Option ByteArray}
  {run : Run} {text : String}

/-- The run for stopped arguments prints. -/
theorem stopped_prints (stop : Stop) : ∀ effect ∈ (stopped stop).effects, ∃ text, effect = .print text := by
  cases stop with
  | refused => exact List.forall_mem_nil _
  | help => exact List.forall_mem_singleton.mpr ⟨_, rfl⟩
  | version => exact List.forall_mem_singleton.mpr ⟨_, rfl⟩

/-- The run for the options that arguments write. -/
theorem run_of_parse (h : parse arguments = .ok options) :
    Command.run files.read? arguments = generate options (options.model.bind files.read?) := by
  rw [Command.run, h]

/-- Stopped arguments leave the files as they are. -/
theorem runOn_files_of_stop {stop : Stop} (h : parse arguments = .error stop) :
    (runOn files arguments).files = files := by
  rw [runOn, Command.run, h]
  exact perform_files_of_prints (stopped_prints stop)

/-- What a single effect of writing a file leaves, if it does not fail. -/
theorem writeWhole_of_failedWrite? {status : Nat} {printed : String} {path : FilePath}
    (h : failedWrite? files [.write path text] = none) :
    files.writeWhole path text = (true, (perform status files printed [.write path text]).files) := by
  cases hwrite : files.writeWhole path text with
  | mk isWritten written =>
    rw [failedWrite?, hwrite] at h
    cases isWritten with
    | true => simp [perform, hwrite]
    | false => cases h

/-- A run that ends with an error leaves the files as they are, unless it writes code for a package that
cannot be named so. -/
theorem Generated.files_of_not_misnames (h : Generated options (options.model.bind files.read?) run)
    (hstatus : run.status ≠ succeeded) (hnamed : ¬ ∃ text, Misnames files options text) :
    (perform run.status files "" run.effects).files = files := by
  cases h with
  | unmade => rfl
  | complete => exact absurd rfl hstatus
  | @misnamed text _ hartifact htext hname =>
    cases hdry : options.dryRun with
    | false => exact absurd ⟨text, hartifact, hdry, htext, hname⟩ hnamed
    | true =>
      exact perform_files_of_prints ((Generated.misnamed hartifact htext hname).prints hdry)

/-- A run that writes code for a package that cannot be named so leaves that code behind. -/
theorem Generated.files_of_misnames (h : Generated options (options.model.bind files.read?) run)
    (hstatus : run.status ≠ succeeded) (hwrites : failedWrite? files run.effects = none)
    (hmisnames : Misnames files options text) :
    files.writeWhole (options.output.child Artifact.code.fileName) text =
      (true, (perform run.status files "" run.effects).files) := by
  cases h with
  | complete => exact absurd rfl hstatus
  | unmade herror =>
    rw [hmisnames.artifact, hmisnames.code] at herror
    cases herror
  | misnamed _ htext =>
    rw [hmisnames.code] at htext
    cases htext
    have hout : handOut options options.output Artifact.code.fileName text =
        .write (options.output.child Artifact.code.fileName) text := by
      rw [handOut, hmisnames.written]
      rfl
    rw [failure, hout] at hwrites ⊢
    exact writeWhole_of_failedWrite? hwrites

end

/-- A dry run leaves all files as they are, and so does a rejected one, but for the code that it has written
when the package cannot be named so. -/
theorem run_files (files : FileSystem) (arguments : List String) :
    ("--dry-run" ∈ arguments → (runOn files arguments).files = files) ∧
    (Rejected files arguments →
      ((¬ ∃ options text, parse arguments = .ok options ∧ Misnames files options text) →
        (runOn files arguments).files = files) ∧
      ∀ options text, parse arguments = .ok options → Misnames files options text →
        files.writeWhole (options.output.child Artifact.code.fileName) text =
          (true, (runOn files arguments).files)) := by
  cases hparse : parse arguments with
  | error stop =>
    refine ⟨fun _ => runOn_files_of_stop hparse, fun _ => ⟨fun _ => runOn_files_of_stop hparse, ?_⟩⟩
    rintro options text hoptions
    cases hoptions
  | ok options =>
    have hgenerated := generate_generated options (options.model.bind files.read?)
    rw [← run_of_parse hparse] at hgenerated
    refine ⟨fun hdry => ?_, fun hrejected => ?_⟩
    · exact perform_files_of_prints (hgenerated.prints (dryRun_of_parse hparse hdry))
    · have hend : (runOn files arguments).status = (run files.read? arguments).status :=
        perform_status hrejected.2
      have hstatus : (run files.read? arguments).status ≠ succeeded := hend ▸ hrejected.1
      refine ⟨fun hnamed => ?_, ?_⟩
      · refine hgenerated.files_of_not_misnames hstatus ?_
        rintro ⟨text, hmisnames⟩
        exact hnamed ⟨options, text, rfl, hmisnames⟩
      · rintro _ text ⟨⟩ hmisnames
        exact hgenerated.files_of_misnames hstatus hrejected.2 hmisnames

/-- A directory with the model of the shop in a file. -/
def shopFiles : FileSystem := ⟨[("shop.json", .file shopModel.toJson.render.toUTF8)]⟩

/-- Arguments for the client of the shop, in a package that cannot be named so. -/
def misnamingArguments : List String := ["--model", "shop.json", "--crate-name", "1bad"]

/-- The options that the arguments write. -/
def misnamingOptions : Arguments where
  model := some (.ofText "shop.json")
  api := none
  output := .ofText "client/src"
  packageName := "1bad"
  libraryPath := none
  artifact := .code
  dryRun := false

/-- The code of the client of the shop can be made. -/
theorem shopModel_code : ∃ text, Artifact.code.ofModel shopModel = .ok text := by
  have hvalidate : shopModel.validate = .ok () := by decide
  obtain ⟨tokens, hemit⟩ : ∃ tokens, shopPlan.emit = .ok tokens :=
    Outcome.exists_of_isSome (by decide +kernel)
  refine ⟨Artifact.codeText tokens, ?_⟩
  rw [Artifact.ofModel, hvalidate, shopModel_plan]
  change shopPlan.emit.map Artifact.codeText = _
  rw [hemit]
  rfl

/-- A file is read as its text is, in the format that its extension names. -/
theorem ofFile_of_reader? {path : FilePath} {read : String → Except ModelError Model}
    (hreader : Model.reader? (Unicode.lowerText path.extension) = some read) (text : String) :
    Model.ofFile path (some text.toUTF8) = read text := by
  have htext : String.fromUTF8? text.toUTF8 = some text := dif_pos text.isValidUTF8
  unfold Model.ofFile
  dsimp only
  rw [hreader, Option.bind_some, htext]

/-- The model of the shop is loaded from its file. -/
theorem shopModel_loaded :
    loadModel misnamingOptions (misnamingOptions.model.bind shopFiles.read?) = .ok shopModel := by
  have hcontent : misnamingOptions.model.bind shopFiles.read? =
      some shopModel.toJson.render.toUTF8 := rfl
  have hextension : Unicode.lowerText (FilePath.ofText "shop.json").extension = "json" := by
    decide +kernel
  have hread : Model.ofJsonText shopModel.toJson.render = .ok shopModel := by
    rw [Model.ofJsonText_render]
    decide +kernel
  have hfile : Model.ofFile (.ofText "shop.json") (some shopModel.toJson.render.toUTF8) =
      .ok shopModel :=
    (ofFile_of_reader? (by rw [hextension]; rfl) _).trans hread
  rw [hcontent, loadModel, misnamingOptions]
  dsimp only
  rw [hfile]
  rfl

/-- Some code is left behind by a run that is rejected without any failure to write. -/
theorem shopFiles_changed : Rejected shopFiles misnamingArguments ∧
    shopFiles.read? (.ofText "client/src/lib.rs") = none ∧
      ∃ text, Artifact.code.ofModel shopModel = .ok text ∧
        (runOn shopFiles misnamingArguments).files.read? (.ofText "client/src/lib.rs") =
          some text.toUTF8 := by
  obtain ⟨text, htext⟩ := shopModel_code
  have hparse : parse misnamingArguments = .ok misnamingOptions := by decide +kernel
  obtain ⟨report, hrun⟩ : ∃ report, Command.run shopFiles.read? misnamingArguments =
      ⟨[.write ((FilePath.ofText "client/src").child "lib.rs") text], failed, report⟩ := by
    have hartifact : misnamingOptions.artifact.ofModel shopModel = .ok text := htext
    rw [run_of_parse hparse, generate, shopModel_loaded]
    dsimp only
    rw [hartifact]
    exact ⟨_, rfl⟩
  have hwrites : failedWrite? shopFiles (Command.run shopFiles.read? misnamingArguments).effects = none := by
    rw [hrun]
    rfl
  refine ⟨⟨?_, hwrites⟩, rfl, text, htext, ?_⟩
  · have hend : (runOn shopFiles misnamingArguments).status =
        (Command.run shopFiles.read? misnamingArguments).status := perform_status hwrites
    rw [hend, hrun]
    exact Nat.one_ne_zero
  · rw [runOn, hrun]
    rfl

end ServiceTree.Command
