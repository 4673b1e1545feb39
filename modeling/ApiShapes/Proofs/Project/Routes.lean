import ApiShapes.Proofs.Project.Regenerate
import ApiShapes.Proofs.TsConfig.Enumeration

/-!
# Routes are rendered once each

* `Configuration.input_eq` : the directory of all routes stands below an absolute path without `..`;
* `Configuration.lead_of_isRouteFile` : so the paths of routes are told by where they lead;
* `rootFiles_enumerated` : the root files are those that are listed and those that are found, each once,
  and so are the routes among them that a build renders.
-/

namespace ApiShapes

variable {tree loaded : FileTree} {cwd path route : Path} {options : ProjectOptions}
  {project : Configuration} {config : TsConfig} {included excluded : List GlobPattern}

namespace Configuration

/-- The root of a project is where its path leads to. -/
theorem exists_location_of_findRoot {requested root : Path} (hwf : tree.WellFormed)
    (h : findRoot tree cwd requested = .ok root) :
    ∃ loc : Location, (∀ s ∈ loc, IsName s) ∧ root = .ofLocation loc := by
  simp only [findRoot] at h
  generalize (if requested == .empty then requested else cwd.join requested) = place at h
  cases hcanonical : tree.canonical place with
  | error cause =>
    rw [hcanonical] at h
    cases h
  | ok found =>
    rw [hcanonical] at h
    cases h
    obtain ⟨⟨loc, entry⟩, hlocate, hroot⟩ := bind_eq_ok.1 hcanonical
    cases hroot
    exact ⟨loc, hwf.isName (FileTree.locate_eq_ok.1 hlocate).2.2, rfl⟩

/-- The directory of all routes stands below the project's root, which has an absolute path without
`..`. -/
theorem input_eq (hwf : tree.WellFormed) (h : load tree cwd options = .ok project) :
    ∃ loc : Location, (∀ s ∈ loc, IsName s) ∧ loc ≠ [] ∧
      project.input = .ofParts ([.root] ++ loc.map .name) := by
  obtain ⟨rootDir, hroot, h⟩ := bind_eq_ok.1 h
  obtain ⟨settings, -, h⟩ := bind_eq_ok.1 h
  obtain ⟨tsconfigPath, -, h⟩ := bind_eq_ok.1 h
  cases h
  obtain ⟨loc, hloc, rfl⟩ := exists_location_of_findRoot hwf hroot
  have hlead : [Part.root] ∈ Path.leads := by simp [Path.leads]
  have hpages : IsName "pages" := isName_of_two_lt_length (by decide)
  have hapi : IsName "api" := isName_of_two_lt_length (by decide)
  have hbelow := Path.isName_of_mem_concat hloc hpages
  refine ⟨loc ++ ["pages"] ++ ["api"], Path.isName_of_mem_concat hbelow hapi, by simp, ?_⟩
  rw [← Path.child_ofNames hlead hbelow, ← Path.child_ofNames hlead hloc]
  rfl

/-- A route has an absolute path without `..`. -/
theorem lead_of_isRouteFile (hwf : tree.WellFormed) (h : load tree cwd options = .ok project)
    (hnormal : route.IsNormal) (hroute : project.isRouteFile route = true) : route.lead = [.root] := by
  obtain ⟨loc, hloc, hne, hinput⟩ := input_eq hwf h
  obtain ⟨s, names, rfl⟩ := List.exists_cons_of_ne_nil hne
  have hstarts : route.startsWith project.input = true := by
    simp only [isRouteFile, Bool.and_eq_true] at hroute
    exact hroute.1.1
  have hprefix : (Part.root :: Part.name s :: names.map .name) <+: route.lead ++ route.location.map .name := by
    rw [Path.startsWith, hinput, Path.parts_ofNames (by simp [Path.leads]) hloc, hnormal.parts_eq]
      at hstarts
    exact List.isPrefixOf_iff_prefix.1 hstarts
  have hlead := hnormal.eq_ofParts.1
  simp only [Path.leads, List.mem_cons, List.not_mem_nil, or_false] at hlead
  rcases hlead with hlead | hlead | hlead | hlead
  · rw [hlead, List.nil_append] at hprefix
    have hmem := hprefix.subset List.mem_cons_self
    simp at hmem
  · exact hlead
  · rw [hlead, List.singleton_append, List.cons_prefix_cons] at hprefix
    cases hprefix.1
  · rw [hlead, List.cons_append, List.singleton_append, List.cons_prefix_cons, List.cons_prefix_cons]
      at hprefix
    cases hprefix.2.1

/-- Routes have paths of their own, and these lead to places of their own. -/
theorem nodup_locations {roots : List Path} (hwf : tree.WellFormed)
    (h : load tree cwd options = .ok project) (hnormal : ∀ root ∈ roots, root.IsNormal)
    (hroots : roots.Nodup) : ((roots.filter project.isRouteFile).map Path.location).Nodup := by
  refine List.pairwise_map.2 ((hroots.filter _).imp_of_mem fun {route other} hroute hother hne heq => ?_)
  obtain ⟨hroute, hisRoute⟩ := List.mem_filter.1 hroute
  obtain ⟨hother, hisOther⟩ := List.mem_filter.1 hother
  have hlead := lead_of_isRouteFile hwf h (hnormal route hroute) hisRoute
  have hlead' := lead_of_isRouteFile hwf h (hnormal other hother) hisOther
  have hsame := (hnormal route hroute).eq_of_location (hnormal other hother) (hlead'.trans hlead.symm)
    heq.symm
  exact hne hsame.symm

end Configuration

/-- **Root files are enumerated exactly, and none of them twice.** First come the existing files that the
configuration lists, then the source files that a walk finds below its directory, as far as they are included,
not excluded and not listed. Their paths are in normal form and differ, so a build renders each route once.
Here the configuration may have been read before, from other files. -/
theorem rootFiles_enumerated (hloaded : loaded.WellFormed)
    (hload : TsConfig.load loaded path = .ok config) (hwf : tree.WellFormed) (hdistinct : tree.Distinct)
    (hincluded : TsConfig.compilePatterns config.included = .ok included)
    (hexcluded : TsConfig.compilePatterns config.excluded = .ok excluded) :
    ∃ listed found, config.rootFiles tree = .ok (listed ++ found) ∧
      config.Lists tree listed ∧ config.Finds tree included excluded listed found ∧
      (listed ++ found).Nodup ∧ ((listed ++ found).map Path.normal).Nodup ∧
      ∀ project : Configuration, TsConfig.load tree project.tsconfigPath = .ok config →
        ∃ program, build tree project = .ok (renderArtifact program.checker project.framework
            project.input (project.routes program)) ∧
          project.routes program = (listed ++ found).filter project.isRouteFile ∧
          (project.routes program).Nodup ∧
          ∀ cwd options, Configuration.load tree cwd options = .ok project →
            ((project.routes program).map Path.location).Nodup := by
  obtain ⟨hdir, -⟩ := TsConfig.load_directory hloaded hload
  have hfiles := TsConfig.load_files hload
  have hroots : config.rootFiles tree =
      .ok (config.listedFiles tree ++ config.foundFiles tree included excluded) :=
    TsConfig.rootFiles_eq_ok.2 ⟨included, excluded, hincluded, hexcluded, rfl⟩
  obtain ⟨hnormal, hnodup⟩ := TsConfig.nodup_roots hwf hdistinct hdir hfiles included excluded
  have hsame : (config.listedFiles tree ++ config.foundFiles tree included excluded).map Path.normal =
      config.listedFiles tree ++ config.foundFiles tree included excluded := by
    rw [List.map_congr_left fun root hroot => (hnormal root hroot).normal_eq, List.map_id']
  refine ⟨_, _, hroots, TsConfig.lists_listedFiles hwf hfiles,
    TsConfig.finds_foundFiles hwf hdistinct hdir included excluded, hnodup, by rwa [hsame],
    fun project hproject => ?_⟩
  have hprogram : project.program tree = .ok (tree.program
      (config.listedFiles tree ++ config.foundFiles tree included excluded) config.resolver) :=
    program_eq_ok.2 ⟨config, _, hproject, hroots, rfl⟩
  have hroutes : project.routes (tree.program
      (config.listedFiles tree ++ config.foundFiles tree included excluded) config.resolver) =
        (config.listedFiles tree ++ config.foundFiles tree included excluded).filter
          project.isRouteFile := by
    rw [Configuration.routes, (FileTree.loads_program tree config.resolver hnormal).roots_eq]
  refine ⟨_, build_eq_ok.2 ⟨_, hprogram, rfl⟩, hroutes, by rw [hroutes]; exact hnodup.filter _,
    fun cwd options hconfiguration => ?_⟩
  rw [hroutes]
  exact Configuration.nodup_locations hwf hconfiguration hnormal hnodup

/-- A file is listed twice, another does not exist, and files lie in an excluded directory and in one of a
package. -/
def enumeratedTree : FileTree where
  entries := [
    (["tsconfig.json"], .file (.text ("\x7b\"files\":[\"z.ts\",\"missing.ts\",\"a/b.ts\",\"z.ts\"]," ++
      "\"exclude\":[\"c\"]\x7d"))),
    (["z.ts"], .file (.text "")),
    (["pages"], .directory),
    (["pages", "api"], .directory),
    (["pages", "api", "r.ts"], .file (.text "")),
    (["c"], .directory),
    (["c", "x.ts"], .file (.text "")),
    (["a.ts"], .file (.text "")),
    (["a"], .directory),
    (["a", "node_modules"], .directory),
    (["a", "node_modules", "p.ts"], .file (.text "")),
    (["a", "b.ts"], .file (.text ""))]

theorem enumeratedTree_wellFormed : enumeratedTree.WellFormed where
  names := by
    unfold IsName
    decide
  parent := by decide

theorem filesBelow_enumeratedTree : enumeratedTree.filesBelow "node_modules" (.ofString "/") =
    ["/a/b.ts", "/a.ts", "/c/x.ts", "/pages/api/r.ts", "/tsconfig.json", "/z.ts"].map .ofString := by
  have hlocate : enumeratedTree.locate (.ofString "/") = .ok ([], .directory) := by decide
  have hnames : enumeratedTree.namesBelow "node_modules" [] = [["a", "b.ts"], ["a.ts"], ["c", "x.ts"],
      ["pages", "api", "r.ts"], ["tsconfig.json"], ["z.ts"]] := by
    refine List.Perm.eq_of_pairwise (fun _ _ _ _ => Location.le_antisymm)
      (Location.pairwise_mergeSort _) (by decide) ((List.mergeSort_perm _ _).trans ?_)
    decide
  rw [FileTree.filesBelow_eq hlocate, if_neg (by decide), hnames]
  decide

/-- The listed files come first, and what lies below a directory comes before the file whose name is that
of the directory and an extension. -/
theorem rootFiles_enumerated_order : ∃ config included excluded listed found,
    TsConfig.load enumeratedTree (.ofString "/tsconfig.json") = .ok config ∧
      TsConfig.compilePatterns config.included = .ok included ∧
      TsConfig.compilePatterns config.excluded = .ok excluded ∧
      config.Lists enumeratedTree listed ∧ config.Finds enumeratedTree included excluded listed found ∧
      (listed ++ found).Nodup ∧
      listed ++ found = ["/z.ts", "/a/b.ts", "/a.ts", "/pages/api/r.ts"].map .ofString := by
  have hdistinct : enumeratedTree.Distinct := by decide
  have hfields : ((TsConfig.load enumeratedTree (.ofString "/tsconfig.json")).toOption.map fun config =>
      (config.directory, config.files, config.included, config.excluded)) =
        some (.ofString "/", ["/z.ts", "/missing.ts", "/a/b.ts", "/z.ts"].map .ofString, ["/**/*"],
          ["/c"]) := by
    decide +kernel
  cases hload : TsConfig.load enumeratedTree (.ofString "/tsconfig.json") with
  | error e =>
    rw [hload] at hfields
    cases hfields
  | ok config =>
    rw [hload] at hfields
    obtain ⟨hdirectory, hfields⟩ := Prod.mk.inj (Option.some.inj hfields)
    obtain ⟨hfiles, hfields⟩ := Prod.mk.inj hfields
    obtain ⟨htexts, htexts'⟩ := Prod.mk.inj hfields
    have hincluded : TsConfig.compilePatterns config.included =
        .ok ((TsConfig.compilePatterns ["/**/*"]).toOption.getD []) := by
      rw [htexts]
      rfl
    have hexcluded : TsConfig.compilePatterns config.excluded =
        .ok ((TsConfig.compilePatterns ["/c"]).toOption.getD []) := by
      rw [htexts']
      rfl
    have hroots : config.rootFiles enumeratedTree =
        .ok (["/z.ts", "/a/b.ts", "/a.ts", "/pages/api/r.ts"].map .ofString) := by
      refine TsConfig.rootFiles_eq_ok.2 ⟨_, _, hincluded, hexcluded, ?_⟩
      rw [TsConfig.foundFiles, TsConfig.listedFiles, hdirectory, hfiles, filesBelow_enumeratedTree]
      decide +kernel
    obtain ⟨listed, found, hparts, hlists, hfinds, hnodup, -⟩ := rootFiles_enumerated
      enumeratedTree_wellFormed hload enumeratedTree_wellFormed hdistinct hincluded hexcluded
    exact ⟨config, _, _, listed, found, rfl, hincluded, hexcluded, hlists, hfinds, hnodup,
      Except.ok.inj (hparts.symm.trans hroots)⟩

end ApiShapes
