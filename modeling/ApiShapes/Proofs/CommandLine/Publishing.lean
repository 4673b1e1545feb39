import ApiShapes.CommandLine.Run
import ApiShapes.Proofs.FileTree.Created
import ApiShapes.Proofs.Project.Regenerate

/-!
# Runs that publish a build

* `FileTree.fileAt` : what the file at a location holds;
* `Outdated` : the artifact is missing, no text, or says something else;
* `HasRoom` : a text can be put in a directory under a name;
* `writeArtifact_run` : an artifact that is outdated is written exactly if there is room for it, and all
  else that happens is that directories are created;
* `run_publishes` : a run publishes its build or touches no file.
-/

namespace ApiShapes
open FileEdit

/-! ## What files hold -/

namespace FileTree

variable {tree tree' : FileTree} {loc place : Location} {content : Content} {s : String}

def fileAt (tree : FileTree) (loc : Location) : Option Content :=
  match tree.entryAt loc with
  | some (.file content) => some content
  | _ => none

theorem fileAt_eq_some : tree.fileAt loc = some content ↔ tree.entryAt loc = some (.file content) := by
  unfold fileAt
  split
  · rename_i found hentry
    rw [hentry]
    simp
  · rename_i hother
    exact iff_of_false (by simp) (hother content)

theorem fileAt_eq_of_iff (h : ∀ content,
    tree'.entryAt loc = some (.file content) ↔ tree.entryAt loc = some (.file content)) :
    tree'.fileAt loc = tree.fileAt loc := by
  ext content
  rw [fileAt_eq_some, fileAt_eq_some, h content]

theorem AddsDirectories.fileAt_eq (h : AddsDirectories tree tree') (loc : Location) :
    tree'.fileAt loc = tree.fileAt loc :=
  fileAt_eq_of_iff (h.file loc)

theorem Writes.fileAt_eq (h : Writes s place tree tree') (hloc : loc ≠ place) :
    tree'.fileAt loc = tree.fileAt loc :=
  fileAt_eq_of_iff (h.elsewhere loc hloc)

theorem WellFormed.textOf?_eq_some_iff (h : tree.WellFormed) {path : Path} (hpath : path.IsNormal) :
    tree.textOf? path = some s ↔ tree.fileAt path.location = some (.text s) := by
  rw [textOf?_eq_some, h.readText_iff hpath, fileAt_eq_some]

/-- A text can be put in the directory under the name: no file is in the directory's way, and no
directory has the name. -/
def HasRoom (tree : FileTree) (dir : Path) (name : String) : Prop :=
  tree.Passable dir.location ∧ tree.entryAt (dir.child name).location ≠ some .directory

end FileTree

/-- The file at the path is missing, holds no text, or a text that differs by more than blanks at its
ends. -/
def Outdated (tree : FileTree) (path : Path) (text : String) : Prop :=
  ∀ s, tree.fileAt path.location = some (.text s) → Text.trim s ≠ Text.trim text

variable {tree tree' : FileTree} {config : Configuration} {text : String} {dir path cwd : Path}
  {options : ProjectOptions} {args : List String}

theorem outdated_iff (hwf : tree.WellFormed) (hpath : path.IsNormal) :
    Outdated tree path text ↔ ¬SaysSame tree path text := by
  simp only [Outdated, SaysSame, Option.map_eq_some_iff, hwf.textOf?_eq_some_iff hpath, not_exists,
    not_and, ne_eq]

/-! ## Writing an artifact -/

/-- An outdated artifact is written if there is room for it. If there is none, no file is touched. -/
theorem writeArtifact_run (hwf : tree.WellFormed) (hdir : dir.IsNormal)
    (hother : ¬SaysSame tree (dir.child artifactName) text) :
    (tree.HasRoom dir artifactName → ∃ tree',
      (writeArtifact dir text).run.run tree = (.ok (.written (dir.child artifactName)), tree')) ∧
    (¬tree.HasRoom dir artifactName → ∃ e tree',
      (writeArtifact dir text).run.run tree = (.error e, tree') ∧ tree.AddsDirectories tree') := by
  have hbeq : (((tree.readText (dir.child artifactName)).toOption.map Text.trim) ==
      some (Text.trim text)) = false := beq_eq_false_iff_ne.2 hother
  have hchild : (dir.child artifactName).location = dir.location ++ [artifactName] :=
    hdir.location_child isName_artifactName
  have hcreates := creates_createDirectories hwf hdir
  have hadds := addsDirectories_createDirectories dir tree
  simp only [writeArtifact, run_bind, run_get, hbeq, Bool.false_eq_true, if_false, run_adapt]
  rcases hrun : (createDirectories dir).run.run tree with ⟨result, made⟩
  rw [hrun] at hcreates hadds
  cases result with
  | error cause =>
    have hblocked : ¬tree.Passable dir.location := fun h => by cases hcreates.ok_iff.2 h
    exact ⟨fun hroom => absurd hroom.1 hblocked, fun _ => ⟨_, made, rfl, hadds⟩⟩
  | ok =>
    have hplace : made.entryAt (dir.location ++ [artifactName]) =
        tree.entryAt (dir.location ++ [artifactName]) := by
      refine hcreates.elsewhere _ fun h => ?_
      have hlength := h.length_le
      simp at hlength
    have hwrite := @writeText_run _ _ _ (Text.trim text) (hadds.wellFormed hwf) hdir isName_artifactName
      (hcreates.here rfl)
    rw [hplace, ← hchild] at hwrite
    by_cases hentry : tree.entryAt (dir.child artifactName).location = some .directory
    · rw [if_pos hentry] at hwrite
      simp only [Except.mapError, hwrite]
      exact ⟨fun hroom => absurd hentry hroom.2, fun _ => ⟨_, made, rfl, hadds⟩⟩
    · rw [if_neg hentry] at hwrite
      simp only [Except.mapError, hwrite]
      exact ⟨fun _ => ⟨_, rfl⟩, fun hroom => absurd ⟨hcreates.ok_iff.1 rfl, hentry⟩ hroom⟩

/-- Writing succeeds, for the artifact is up to date or there is room for it, or it touches no file. -/
theorem writeArtifact_cases (hwf : tree.WellFormed) (hdir : dir.IsNormal) (text : String) :
    (∃ outcome tree', (writeArtifact dir text).run.run tree = (.ok outcome, tree') ∧
      (¬Outdated tree (dir.child artifactName) text ∨ tree.HasRoom dir artifactName)) ∨
    (∃ e tree', (writeArtifact dir text).run.run tree = (.error e, tree') ∧
      ¬(¬Outdated tree (dir.child artifactName) text ∨ tree.HasRoom dir artifactName) ∧
      tree.AddsDirectories tree') := by
  rw [outdated_iff hwf (hdir.child isName_artifactName), not_not]
  by_cases hsame : SaysSame tree (dir.child artifactName) text
  · exact .inl ⟨_, tree, writeArtifact_of_saysSame hsame, .inl hsame⟩
  · obtain ⟨hwritten, hfailed⟩ := writeArtifact_run hwf hdir hsame
    by_cases hroom : tree.HasRoom dir artifactName
    · obtain ⟨tree', hrun⟩ := hwritten hroom
      exact .inl ⟨_, tree', hrun, .inr hroom⟩
    · obtain ⟨e, tree', hrun, hadds⟩ := hfailed hroom
      exact .inr ⟨e, tree', hrun, not_or.2 ⟨hsame, hroom⟩, hadds⟩

theorem writeArtifact_succeeds_iff (hwf : tree.WellFormed) (hdir : dir.IsNormal) :
    (∃ outcome, ((writeArtifact dir text).run.run tree).1 = .ok outcome) ↔
      ¬Outdated tree (dir.child artifactName) text ∨ tree.HasRoom dir artifactName := by
  rcases writeArtifact_cases hwf hdir text with ⟨outcome, tree', hrun, h⟩ | ⟨e, tree', hrun, h, -⟩
  · rw [hrun]
    exact iff_of_true ⟨outcome, rfl⟩ h
  · rw [hrun]
    exact iff_of_false (by simp) h

/-- A failure leaves all files as they are. -/
theorem addsDirectories_of_writeArtifact_error {e : BuildError} (hwf : tree.WellFormed)
    (hdir : dir.IsNormal) (h : (writeArtifact dir text).run.run tree = (.error e, tree')) :
    tree.AddsDirectories tree' := by
  rcases writeArtifact_cases hwf hdir text with ⟨_, _, hrun, -⟩ | ⟨_, _, hrun, -, hadds⟩
  · cases hrun.symm.trans h
  · cases hrun.symm.trans h
    exact hadds

/-! ## A run -/

/-- The configuration is found, the text is built from it, and writing it succeeds. -/
structure AllSucceed (tree : FileTree) (cwd : Path) (options : ProjectOptions)
    (config : Configuration) (text : String) : Prop where
  load : Configuration.load tree cwd options = .ok config
  build : build tree config = .ok text
  write : ∃ outcome, ((writeArtifact config.output text).run.run tree).1 = .ok outcome

/-- The text stands as the artifact, blanks at its ends apart, and no other file was touched. If the
artifact said the same before, then it was not touched either. -/
structure Published (config : Configuration) (text : String) (tree tree' : FileTree) (exit : Exit) :
    Prop where
  artifact : ∃ s, tree'.fileAt config.artifact.location = some (.text s) ∧ Text.trim s = Text.trim text
  elsewhere : ∀ loc, loc ≠ config.artifact.location → tree'.fileAt loc = tree.fileAt loc
  stdout_of_outdated : Outdated tree config.artifact text →
    exit.stdout = config.artifact.text ++ " was built successfully\n"
  stdout_of_kept : ¬Outdated tree config.artifact text → exit.stdout = ""
  kept : ¬Outdated tree config.artifact text →
    tree'.fileAt config.artifact.location = tree.fileAt config.artifact.location

theorem runBuild_run (cwd : Path) (options : ProjectOptions) (tree : FileTree) :
    (runBuild cwd options).run tree =
      match Configuration.load tree cwd options with
      | .error e => (.failure e.message, tree)
      | .ok config =>
        match (generate config).run.run tree with
        | (.error e, after) => (.failure e.message, after)
        | (.ok outcome, after) => (.success outcome, after) := by
  cases hload : Configuration.load tree cwd options with
  | error e =>
    simp only [runBuild, StateT.run_bind, StateT.run_get, pure_bind, hload]
    rfl
  | ok config =>
    rcases hgenerate : (generate config).run.run tree with ⟨e | outcome, after⟩ <;>
      simp only [runBuild, StateT.run_bind, StateT.run_get, pure_bind, hload, hgenerate] <;> rfl

/-- A build comes to its end, or it fails and touches no file. -/
theorem runBuild_cases (hwf : tree.WellFormed) (cwd : Path) (options : ProjectOptions) :
    (∃ config text outcome tree', Configuration.load tree cwd options = .ok config ∧
      build tree config = .ok text ∧
      (writeArtifact config.output text).run.run tree = (.ok outcome, tree') ∧
      (runBuild cwd options).run tree = (.success outcome, tree')) ∨
    ((¬∃ config text, AllSucceed tree cwd options config text) ∧
      ∃ message tree', (runBuild cwd options).run tree = (.failure message, tree') ∧
        tree.AddsDirectories tree') := by
  rw [runBuild_run]
  cases hload : Configuration.load tree cwd options with
  | error e =>
    refine .inr ⟨?_, e.message, tree, rfl, .refl tree⟩
    rintro ⟨config, text, hall⟩
    cases hload.symm.trans hall.load
  | ok config =>
    have hgenerate := generate_run config tree
    cases hbuild : build tree config with
    | error e =>
      simp only [hbuild] at hgenerate
      simp only [hgenerate]
      refine .inr ⟨?_, _, tree, rfl, .refl tree⟩
      rintro ⟨_, text, hall⟩
      cases hload.symm.trans hall.load
      cases hbuild.symm.trans hall.build
    | ok text =>
      simp only [hbuild] at hgenerate
      simp only [hgenerate]
      rcases hwrite : (writeArtifact config.output text).run.run tree with ⟨e | outcome, tree'⟩
      · have hadds := addsDirectories_of_writeArtifact_error hwf (isNormal_output hload) hwrite
        refine .inr ⟨?_, _, tree', rfl, hadds⟩
        rintro ⟨_, _, hall⟩
        cases hload.symm.trans hall.load
        cases hbuild.symm.trans hall.build
        obtain ⟨outcome, houtcome⟩ := hall.write
        rw [hwrite] at houtcome
        cases houtcome
      · exact .inl ⟨config, text, outcome, tree', rfl, hbuild, hwrite, rfl⟩

/-- What a success leaves behind is published. -/
theorem published_success {outcome : WriteOutcome} (hwf : tree.WellFormed)
    (houtput : config.output.IsNormal)
    (hwrite : (writeArtifact config.output text).run.run tree = (.ok outcome, tree')) :
    Published config text tree tree' (.success outcome) := by
  have hnormal : config.artifact.IsNormal := houtput.child isName_artifactName
  have houtdated : Outdated tree config.artifact text ↔ ¬SaysSame tree config.artifact text :=
    outdated_iff hwf hnormal
  by_cases hsame : SaysSame tree config.artifact text
  · rw [writeArtifact_of_saysSame hsame] at hwrite
    cases hwrite
    obtain ⟨s, hs, htrim⟩ := Option.map_eq_some_iff.1 hsame
    exact {
      artifact := ⟨s, (hwf.textOf?_eq_some_iff hnormal).1 hs, htrim⟩
      elsewhere := fun _ _ => rfl
      stdout_of_outdated := fun hout => absurd hsame (houtdated.1 hout)
      stdout_of_kept := fun _ => rfl
      kept := fun _ => rfl }
  · have hout : Outdated tree config.artifact text := houtdated.2 hsame
    rcases writeArtifact_eq_ok hwrite houtput with ⟨-, -, h⟩ | ⟨rfl, hwrites⟩
    · exact absurd h hsame
    · exact {
        artifact := ⟨_, FileTree.fileAt_eq_some.2 hwrites.here, Text.trim_trim text⟩
        elsewhere := fun _ => hwrites.fileAt_eq
        stdout_of_outdated := fun _ => rfl
        stdout_of_kept := fun hkept => absurd hout hkept
        kept := fun hkept => absurd hout hkept }

/-- **A run publishes its build or touches no file.** It succeeds exactly if the configuration is found,
the text is built and writing it succeeds, where writing fails only for want of room. Then the text stands
as the artifact, no other file was touched, and the artifact's path is printed exactly if the artifact was
outdated. After a failure nothing is printed but what went wrong, and all files are as before. -/
theorem run_publishes (hwf : tree.WellFormed) (hargs : Invocation.ofArgs args = .build options false) :
    ∃ exit tree', (run cwd args).run tree = (exit, tree') ∧
      (exit.code = 0 ↔ ∃ config text, AllSucceed tree cwd options config text) ∧
      (∀ config text, AllSucceed tree cwd options config text →
        Published config text tree tree' exit) ∧
      (∀ config text, Configuration.load tree cwd options = .ok config →
        ((∃ outcome, ((writeArtifact config.output text).run.run tree).1 = .ok outcome) ↔
          ¬Outdated tree config.artifact text ∨ tree.HasRoom config.output artifactName)) ∧
      (exit.code ≠ 0 → exit.code = 1 ∧ exit.stdout = "" ∧
        ∀ loc, tree'.fileAt loc = tree.fileAt loc) := by
  have hrun : run cwd args = runBuild cwd options := by rw [run, hargs]
  have hroom : ∀ config text, Configuration.load tree cwd options = .ok config →
      ((∃ outcome, ((writeArtifact config.output text).run.run tree).1 = .ok outcome) ↔
        ¬Outdated tree config.artifact text ∨ tree.HasRoom config.output artifactName) :=
    fun config text hload => writeArtifact_succeeds_iff hwf (isNormal_output hload)
  rw [hrun]
  rcases runBuild_cases hwf cwd options with
    ⟨config, text, outcome, tree', hload, hbuild, hwrite, hbuilt⟩ |
    ⟨hnot, message, tree', hbuilt, hadds⟩
  · have hcode : (Exit.success outcome).code = 0 := by cases outcome <;> rfl
    have hall : AllSucceed tree cwd options config text := ⟨hload, hbuild, outcome, by rw [hwrite]⟩
    refine ⟨_, tree', hbuilt, iff_of_true hcode ⟨config, text, hall⟩, ?_, hroom,
      fun hne => absurd hcode hne⟩
    intro config₂ text₂ hall₂
    obtain rfl : config = config₂ := Except.ok.inj (hload.symm.trans hall₂.load)
    obtain rfl : text = text₂ := Except.ok.inj (hbuild.symm.trans hall₂.build)
    exact published_success hwf (isNormal_output hload) hwrite
  · refine ⟨_, tree', hbuilt, iff_of_false (by simp [Exit.failure]) hnot, ?_, hroom,
      fun _ => ⟨rfl, rfl, hadds.fileAt_eq⟩⟩
    exact fun config text hall => absurd ⟨config, text, hall⟩ hnot

/-- The artifact was missing, so a text is written and its path printed. The module beside it stays. -/
theorem run_publishes_item : ∃ text exit tree',
    Invocation.ofArgs ["--tsconfig", "config/tsconfig.json"] =
        .build { tsconfig := some (.ofString "config/tsconfig.json") } false ∧
      (run (.ofString "/") ["--tsconfig", "config/tsconfig.json"]).run itemProject = (exit, tree') ∧
      build itemProject itemConfig = .ok text ∧ Published itemConfig text itemProject tree' exit ∧
      exit.code = 0 ∧ exit.stdout = "/lib/$apis.ts was built successfully\n" ∧
      tree'.fileAt ["lib", "item.ts"] = itemProject.fileAt ["lib", "item.ts"] := by
  have hwf : itemProject.WellFormed := by
    constructor
    · simp [itemProject, isName_iff]
    · decide +kernel
  have hargs : Invocation.ofArgs ["--tsconfig", "config/tsconfig.json"] =
      .build { tsconfig := some (.ofString "config/tsconfig.json") } false := by
    decide +kernel
  have hload : Configuration.load itemProject (.ofString "/")
      { tsconfig := some (.ofString "config/tsconfig.json") } = .ok itemConfig := by
    decide +kernel
  have hgenerate : (generate itemConfig).run.run itemProject =
      (.ok (.written itemConfig.artifact), ((generate itemConfig).run.run itemProject).2) :=
    Prod.ext (by decide +kernel) rfl
  obtain ⟨text, hbuild, hwrite⟩ := generate_eq_ok.1 hgenerate
  have hall : AllSucceed itemProject (.ofString "/")
      { tsconfig := some (.ofString "config/tsconfig.json") } itemConfig text :=
    ⟨hload, hbuild, _, by rw [hwrite]⟩
  have houtdated : Outdated itemProject itemConfig.artifact text := by
    intro s hs
    have hmissing : itemProject.fileAt itemConfig.artifact.location = none := by decide +kernel
    cases hmissing.symm.trans hs
  obtain ⟨exit, tree', hrun, hcode, hpublished, -, -⟩ := run_publishes hwf hargs
  have hpublish := hpublished itemConfig text hall
  have hline : itemConfig.artifact.text ++ " was built successfully\n" =
      "/lib/$apis.ts was built successfully\n" := by
    decide +kernel
  exact ⟨text, exit, tree', hargs, hrun, hbuild, hpublish, hcode.2 ⟨itemConfig, text, hall⟩,
    hline ▸ hpublish.stdout_of_outdated houtdated, hpublish.elsewhere _ (by decide +kernel)⟩

end ApiShapes
