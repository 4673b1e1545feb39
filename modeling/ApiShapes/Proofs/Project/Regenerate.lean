import ApiShapes.Proofs.Artifact.Declared
import ApiShapes.Proofs.Project.Program
import ApiShapes.Proofs.Text.Blank

/-!
# Generating an artifact again

* `build_eq_ok` : the text that comes of a project's program;
* `Configuration.Apart` : neither the compiler options nor the routes lead to the artifact;
* `FileTree.Writes.build_eq_ok` : then a build gives the same text after the artifact was written;
* `writeArtifact_eq_ok`, `generate_eq_ok` : what a success leaves behind;
* `generate_again` : generating again changes nothing.
-/

namespace ApiShapes
open FileEdit

/-! ## What a build looks at -/

namespace Configuration

def artifact (config : Configuration) : Path :=
  config.output.child artifactName

def IsArtifact (config : Configuration) (path : Path) : Prop :=
  path.location = config.artifact.location

def routes (config : Configuration) (program : Program) : List Path :=
  program.roots.filter config.isRouteFile

def render (config : Configuration) (program : Program) : String :=
  renderArtifact program.checker config.framework config.input (config.routes program)

/-- The artifact is no part of what a build looks at, where `tree` holds the files before it was
written and `tree'` those after it. -/
structure Apart (config : Configuration) (tree tree' : FileTree) : Prop where
  /-- no file of compiler options leads to it -/
  options : ∀ path, Relation.ReflTransGen (TsConfigLayer.Extends tree') config.tsconfigPath.normal path →
    ¬config.IsArtifact path
  /-- no other route leads to it -/
  reach : ∀ program, config.program tree' = .ok program →
    ∀ route ∈ config.routes program, ¬config.IsArtifact route →
      ∀ path, tree'.Reaches program.resolver route path → ¬config.IsArtifact path
  /-- if it is a route itself, it has no handlers, and so had the file it takes the place of -/
  silent : ∀ files ∈ [tree, tree'], ∀ program, config.program files = .ok program →
    ∀ route ∈ config.routes program, config.IsArtifact route →
      extractHandlers program.checker config.framework route = []

instance (config : Configuration) (path : Path) : Decidable (config.IsArtifact path) :=
  inferInstanceAs (Decidable (_ = _))

end Configuration

variable {tree tree' : FileTree} {config : Configuration} {text s : String} {dir : Path}
  {outcome : WriteOutcome}

theorem build_eq_ok : build tree config = .ok text ↔
    ∃ program, config.program tree = .ok program ∧ text = config.render program := by
  simp only [build, bind_eq_ok, program_eq_ok]
  constructor
  · rintro ⟨tsconfig, hload, roots, hroots, htext⟩
    cases htext
    exact ⟨_, ⟨tsconfig, roots, hload, hroots, rfl⟩, rfl⟩
  · rintro ⟨_, ⟨tsconfig, roots, hload, hroots, rfl⟩, rfl⟩
    exact ⟨tsconfig, hload, roots, hroots, rfl⟩

/-! ## Building after the artifact was written -/

/-- Of routes in two programs those that may differ have no handlers. -/
theorem render_eq {program program' : Program} {place : Location}
    (hroots : program'.roots.filter (·.location != place) = program.roots.filter (·.location != place))
    (hsilent : ∀ route ∈ config.routes program, route.location = place →
      extractHandlers program.checker config.framework route = [])
    (hsilent' : ∀ route ∈ config.routes program', route.location = place →
      extractHandlers program'.checker config.framework route = [])
    (hsame : ∀ route ∈ config.routes program', route.location ≠ place →
      extractHandlers program'.checker config.framework route =
        extractHandlers program.checker config.framework route) :
    config.render program' = config.render program := by
  have hrecords : ∀ {program : Program},
      (∀ route ∈ config.routes program, route.location = place →
        extractHandlers program.checker config.framework route = []) →
      (config.routes program).flatMap (fileRecords program.checker config.framework config.input) =
        ((program.roots.filter (·.location != place)).filter config.isRouteFile).flatMap
          (fileRecords program.checker config.framework config.input) := by
    intro program hsilent
    rw [List.filter_comm]
    refine (flatMap_filter_of_nil fun route hroute hplace => ?_).symm
    rw [fileRecords, hsilent route hroute (by simpa using hplace), List.flatMap_nil]
  have hrecords' : ((program.roots.filter (·.location != place)).filter config.isRouteFile).flatMap
        (fileRecords program'.checker config.framework config.input) =
      ((program.roots.filter (·.location != place)).filter config.isRouteFile).flatMap
        (fileRecords program.checker config.framework config.input) := by
    refine List.flatMap_congr fun route hroute => ?_
    rw [← hroots, List.filter_comm] at hroute
    obtain ⟨hroute, hplace⟩ := List.mem_filter.1 hroute
    rw [fileRecords, fileRecords, hsame route hroute (by simpa using hplace)]
  rw [Configuration.render, Configuration.render, renderArtifact, renderArtifact, hrecords hsilent,
    hrecords hsilent', hroots, hrecords']

namespace FileTree.Writes

theorem build_eq_ok (h : Writes s config.artifact.location tree tree') (hwf : tree.WellFormed)
    (hapart : config.Apart tree tree') (hbuild : build tree config = .ok text) :
    build tree' config = .ok text := by
  obtain ⟨program, hprogram, rfl⟩ := ApiShapes.build_eq_ok.1 hbuild
  obtain ⟨program', hprogram', hroots, hsame⟩ := h.program_eq_ok hwf hprogram hapart.options
  refine ApiShapes.build_eq_ok.2 ⟨program', hprogram', (render_eq hroots
    (hapart.silent tree (by simp) program hprogram)
    (hapart.silent tree' (by simp) program' hprogram') fun route hroute hplace => ?_).symm⟩
  exact hsame route (List.mem_of_mem_filter hroute) hplace
    (hapart.reach program' hprogram' route hroute hplace) config.framework

end FileTree.Writes

/-! ## Keeping the artifact apart -/

/-- The route files among the root files that the configuration gives. -/
def Configuration.routeFiles (config : Configuration) (tree : FileTree) (tsconfig : TsConfig) :
    List Path :=
  (((tsconfig.rootFiles tree).toOption.getD []).map Path.normal).filter config.isRouteFile

theorem routes_eq {program : Program} (h : config.program tree = .ok program) :
    ∃ tsconfig ∈ (TsConfig.load tree config.tsconfigPath).toOption,
      program.resolver = tsconfig.resolver ∧ config.routes program = config.routeFiles tree tsconfig := by
  obtain ⟨tsconfig, roots, hload, hroots, rfl⟩ := program_eq_ok.1 h
  have hloads := loads_load roots tsconfig.resolver tree.filePaths tree.textOf?
  refine ⟨tsconfig, by rw [hload]; rfl, hloads.inv.resolver_eq, ?_⟩
  rw [Configuration.routes, Configuration.routeFiles, hroots]
  exact congrArg (List.filter config.isRouteFile) hloads.roots_eq

/-- Files of compiler options that lead only to each other, and modules that do so too, keep the artifact
apart if it is none of them: the first hold the configuration's own file, the second all routes. -/
theorem Configuration.apart_of_closed {options modules : List Path}
    (hoptions : config.tsconfigPath.normal ∈ options ∧ ∀ path ∈ options, ¬config.IsArtifact path)
    (hextends : ∀ path ∈ options, ∀ source ∈ tree'.textOf? path,
      ∀ written ∈ WrittenConfig.ofText? source, ∀ base ∈ written.bases,
        ∀ file ∈ TsConfigLayer.baseFile? tree' (path.parent.getD .empty) base,
          ∀ target ∈ [file, ((path.parent.getD .empty).join (.ofString base)).normal],
            target ∈ options)
    (hmodules : ∀ path ∈ modules, ¬config.IsArtifact path)
    (hroutes : ∀ tsconfig ∈ (TsConfig.load tree' config.tsconfigPath).toOption,
      ∀ route ∈ config.routeFiles tree' tsconfig, route ∈ modules)
    (hleads : ∀ tsconfig ∈ (TsConfig.load tree' config.tsconfigPath).toOption, ∀ path ∈ modules,
      ∀ specifier ∈ Source.specifiers path (tree'.textOf? path),
        ∀ target ∈ tsconfig.resolver.resolve path specifier tree'.filePaths.contains,
          target ∈ modules)
    (hbefore : ∀ tsconfig ∈ (TsConfig.load tree config.tsconfigPath).toOption,
      ∀ route ∈ config.routeFiles tree tsconfig, ¬config.IsArtifact route) :
    config.Apart tree tree' where
  options path hpath := by
    apply hoptions.2
    induction hpath with
    | refl => exact hoptions.1
    | tail _ hextend ih =>
      obtain ⟨source, hsource, written, hwritten, base, hbase, file, hfile, htarget⟩ := hextend
      exact hextends _ ih source hsource written hwritten base hbase file hfile _ htarget
  reach program hprogram route hroute _ path hpath := by
    obtain ⟨tsconfig, hload, hresolver, hfound⟩ := routes_eq hprogram
    rw [hresolver] at hpath
    rw [hfound] at hroute
    apply hmodules
    induction hpath with
    | refl => exact hroutes tsconfig hload route hroute
    | tail _ hlead ih =>
      obtain ⟨specifier, hspecifier, hresolve⟩ := hlead
      exact hleads tsconfig hload _ ih specifier hspecifier _ hresolve
  silent trees htrees program hprogram route hroute hartifact := by
    obtain ⟨tsconfig, hload, -, hfound⟩ := routes_eq hprogram
    rw [hfound] at hroute
    exfalso
    rcases List.mem_pair.1 htrees with rfl | rfl
    · exact hbefore tsconfig hload route hroute hartifact
    · exact hmodules route (hroutes tsconfig hload route hroute) hartifact

/-! ## What a success leaves behind -/

theorem run_adapt {ε ε' α : Type} (f : ε → ε') (edit : ExceptT ε (StateM FileTree) α)
    (tree : FileTree) :
    (edit.adapt f).run.run tree = ((edit.run.run tree).1.mapError f, (edit.run.run tree).2) := rfl

theorem isName_artifactName : IsName artifactName := isName_of_two_lt_length (by decide)

/-- The artifact says the same already, but for blanks at its ends. -/
def SaysSame (tree : FileTree) (path : Path) (text : String) : Prop :=
  (tree.textOf? path).map Text.trim = some (Text.trim text)

theorem writeArtifact_of_saysSame (h : SaysSame tree (dir.child artifactName) text) :
    (writeArtifact dir text).run.run tree = (.ok (.unchanged (dir.child artifactName)), tree) := by
  have hsame : (((tree.readText (dir.child artifactName)).toOption.map Text.trim) ==
      some (Text.trim text)) = true := beq_iff_eq.2 h
  simp only [writeArtifact, run_bind, run_get, hsame, if_true]
  rfl

/-- An artifact is unchanged or written, and then it is the only file that is not as before. -/
theorem writeArtifact_eq_ok (h : (writeArtifact dir text).run.run tree = (.ok outcome, tree'))
    (hdir : dir.IsNormal) :
    (outcome = .unchanged (dir.child artifactName) ∧ tree' = tree ∧
        SaysSame tree (dir.child artifactName) text) ∨
      (outcome = .written (dir.child artifactName) ∧
        tree.Writes (Text.trim text) (dir.child artifactName).location tree') := by
  by_cases hsame : SaysSame tree (dir.child artifactName) text
  · rw [writeArtifact_of_saysSame hsame] at h
    cases h
    exact .inl ⟨rfl, rfl, hsame⟩
  · refine .inr ?_
    have hother : (((tree.readText (dir.child artifactName)).toOption.map Text.trim) ==
        some (Text.trim text)) = false := beq_eq_false_iff_ne.2 hsame
    simp only [writeArtifact, run_bind, run_get, hother, Bool.false_eq_true, if_false, run_adapt] at h
    have hadds := addsDirectories_createDirectories dir tree
    rcases hcreate : (createDirectories dir).run.run tree with ⟨_ | _, made⟩
    · simp only [hcreate, Except.mapError] at h
      cases h
    · rw [hcreate] at hadds
      rcases hwrite : (writeText (dir.child artifactName) (Text.trim text)).run.run made with
        ⟨_ | _, written⟩
      · simp only [hcreate, hwrite, Except.mapError] at h
        cases h
      · simp only [hcreate, hwrite, Except.mapError] at h
        cases h
        exact ⟨rfl, hadds.writes (writes_writeText hwrite (hdir.child isName_artifactName))⟩

theorem generate_run (config : Configuration) (tree : FileTree) :
    (generate config).run.run tree =
      match build tree config with
      | .ok text => (writeArtifact config.output text).run.run tree
      | .error e => (.error (.config e), tree) := by
  simp only [generate, run_bind, run_get]
  cases build tree config <;> rfl

theorem generate_eq_ok : (generate config).run.run tree = (.ok outcome, tree') ↔
    ∃ text, build tree config = .ok text ∧
      (writeArtifact config.output text).run.run tree = (.ok outcome, tree') := by
  rw [generate_run]
  cases build tree config with
  | error e =>
    constructor
    · intro h
      cases h
    · rintro ⟨_, h, -⟩
      cases h
  | ok text =>
    constructor
    · exact fun h => ⟨text, rfl, h⟩
    · rintro ⟨_, htext, h⟩
      cases htext
      exact h

/-- The directory of the artifact is given by a path in normal form. -/
theorem isNormal_output {cwd : Path} {options : ProjectOptions}
    (h : Configuration.load tree cwd options = .ok config) : config.output.IsNormal := by
  obtain ⟨rootDir, -, h⟩ := bind_eq_ok.1 h
  obtain ⟨settings, -, h⟩ := bind_eq_ok.1 h
  obtain ⟨tsconfigPath, -, h⟩ := bind_eq_ok.1 h
  cases h
  exact Path.normal_isNormal _

/-! ## Generating again -/

/-- **Generating is idempotent as long as the artifact is no part of what a build looks at.** Right after
a success the same text is built again, the artifact is found unchanged, and all files stay as they
are. -/
theorem generate_again {cwd : Path} {options : ProjectOptions} (hwf : tree.WellFormed)
    (hconfig : Configuration.load tree cwd options = .ok config)
    (hgenerate : (generate config).run.run tree = (.ok outcome, tree'))
    (hapart : outcome = .written config.artifact → config.Apart tree tree') :
    ∃ text, build tree config = .ok text ∧ build tree' config = .ok text ∧
      (generate config).run.run tree' = (.ok (.unchanged config.artifact), tree') := by
  obtain ⟨text, hbuild, hwrite⟩ := generate_eq_ok.1 hgenerate
  have houtput : config.output.IsNormal := isNormal_output hconfig
  rcases writeArtifact_eq_ok hwrite houtput with ⟨-, rfl, hsame⟩ | ⟨hwritten, hwrites⟩
  · refine ⟨text, hbuild, hbuild, generate_eq_ok.2 ⟨text, hbuild, ?_⟩⟩
    exact writeArtifact_of_saysSame hsame
  · have hartifact : config.artifact.IsNormal := houtput.child isName_artifactName
    have hbuild' : build tree' config = .ok text :=
      hwrites.build_eq_ok hwf (hapart hwritten) hbuild
    have hread : tree'.readText config.artifact = .ok (Text.trim text) :=
      ((hwrites.wellFormed hwf).readText_iff hartifact).2 hwrites.here
    have hsame : SaysSame tree' config.artifact text := by
      rw [SaysSame, FileTree.textOf?, hread]
      exact congrArg some (Text.trim_trim text)
    exact ⟨text, hbuild, hbuild', generate_eq_ok.2 ⟨text, hbuild', writeArtifact_of_saysSame hsame⟩⟩

/-- A project whose only route answers with a type from another module. -/
def itemProject : FileTree where
  entries := [
    (["config"], .directory),
    (["config", "tsconfig.json"], .file (.text "\x7b\"files\":[\"../pages/api/item.ts\"]\x7d")),
    (["lib"], .directory),
    (["lib", "item.ts"], .file (.text "export type Item = \x7b id: string \x7d;")),
    (["pages"], .directory),
    (["pages", "api"], .directory),
    (["pages", "api", "item.ts"], .file (.text (
      "import \x7b NextApiResponse \x7d from 'next';\n" ++
      "import \x7b Item \x7d from '../../lib/item';\n" ++
      "export default table(\x7b GET: (q, r: NextApiResponse<Item>) => 0 \x7d);")))]

def itemConfig : Configuration where
  rootDir := .ofString "/"
  input := .ofString "/pages/api"
  output := .ofString "/lib"
  ignorePath := none
  tsconfigPath := .ofString "/config/tsconfig.json"
  framework := {}

/-- The artifact goes beside the module that the route imports, and nothing leads to it. -/
theorem generate_again_item : ∃ text tree',
    (generate itemConfig).run.run itemProject = (.ok (.written itemConfig.artifact), tree') ∧
      build itemProject itemConfig = .ok text ∧ build tree' itemConfig = .ok text ∧
      (generate itemConfig).run.run tree' = (.ok (.unchanged itemConfig.artifact), tree') := by
  have hwf : itemProject.WellFormed := by
    constructor
    · simp [itemProject, isName_iff]
    · decide +kernel
  have hconfig : Configuration.load itemProject (.ofString "/")
      { tsconfig := some (.ofString "config/tsconfig.json") } = .ok itemConfig := by
    decide +kernel
  have hgenerate : (generate itemConfig).run.run itemProject =
      (.ok (.written itemConfig.artifact), ((generate itemConfig).run.run itemProject).2) :=
    Prod.ext (by decide +kernel) rfl
  have hapart : itemConfig.Apart itemProject ((generate itemConfig).run.run itemProject).2 := by
    refine @Configuration.apart_of_closed _ _ _ [.ofString "/config/tsconfig.json"]
      [.ofString "/pages/api/item.ts", .ofString "/lib/item.ts"] ?_ ?_ ?_ ?_ ?_ ?_ <;> decide +kernel
  obtain ⟨text, hbuild, hbuild', hagain⟩ := generate_again hwf hconfig hgenerate fun _ => hapart
  exact ⟨text, _, hgenerate, hbuild, hbuild', hagain⟩

end ApiShapes
