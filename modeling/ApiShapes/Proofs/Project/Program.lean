import ApiShapes.Project.Build
import ApiShapes.Proofs.Program.Isolation
import ApiShapes.Proofs.TsConfig.RootFiles

/-!
# A project's program after a file was written

* `FileTree.Reaches` : specifiers lead from one file to the other, among the files of a tree;
* `FileTree.Writes.extractHandlers_eq` : a root file that reaches nothing that was written has the same
  handlers as before, though its program may have other files;
* `Configuration.program` : the program that a build looks at;
* `FileTree.Writes.program_eq_ok` : what becomes of it after a file was written.
-/

namespace ApiShapes
open Loading

theorem Loading.roots_iterate (exist : Path → Bool) (read : Path → Option String) (l : Loading)
    (steps : Nat) : ((step exist read)^[steps] l).program.roots = l.program.roots := by
  induction steps with
  | zero => rfl
  | succ steps ih =>
    rw [Function.iterate_succ_apply', ← ih]
    generalize (step exist read)^[steps] l = l
    obtain ⟨p, pending⟩ := l
    cases pending with
    | nil => rfl
    | cons path rest =>
      cases hpath : p.isLoaded path with
      | true => rw [step_loaded hpath]
      | false =>
        rw [step_new hpath]
        rfl

theorem Loads.roots_eq {exist : Path → Bool} {read : Path → Option String} {roots : List Path}
    {resolver : ModuleResolver} {p : Program} (h : Loads exist read roots resolver p) :
    p.roots = roots := by
  obtain ⟨steps, hsteps⟩ := h
  have hroots := roots_iterate exist read (start roots resolver) steps
  rwa [hsteps] at hroots

namespace FileTree

variable {tree tree' : FileTree} {place loc : Location} {path : Path} {roots roots' : List Path}
  {resolver : ModuleResolver} {s : String}

/-- Specifiers of import bindings, re-exports and whole exports lead from `file` to `path`, among the
files of the tree. -/
def Reaches (tree : FileTree) (resolver : ModuleResolver) (file path : Path) : Prop :=
  Relation.ReflTransGen (Leads resolver tree.filePaths.contains tree.textOf?) file path

theorem loads_program (tree : FileTree) (resolver : ModuleResolver)
    (hroots : ∀ root ∈ roots, root.IsNormal) :
    Loads tree.filePaths.contains tree.textOf? roots resolver (tree.program roots resolver) := by
  have hnormal : roots.map Path.normal = roots := by
    rw [List.map_congr_left fun root hroot => (hroots root hroot).normal_eq, List.map_id']
  have hload := loads_load roots resolver tree.filePaths tree.textOf?
  rwa [hnormal] at hload

theorem Reaches.isNormal {file : Path} (h : Reaches tree resolver file path) (hfile : file.IsNormal) :
    path.IsNormal := by
  induction h with
  | refl => exact hfile
  | tail _ hlead _ =>
    obtain ⟨_, -, hresolve⟩ := hlead
    exact ModuleResolver.isNormal_of_resolve hresolve

theorem WellFormed.mem_filePaths (hwf : tree.WellFormed) (hpath : path.IsNormal) :
    path ∈ tree.filePaths ↔ path.location ∈ tree.fileLocations := by
  rw [filePaths, List.mem_flatMap]
  constructor
  · rintro ⟨loc, hloc, hmem⟩
    rwa [Path.location_of_mem_spellings (hwf.isName_of_fileLocations hloc) hmem]
  · exact fun h => ⟨_, h, hpath.mem_spellings⟩

/-! ## After a file was written -/

namespace Writes

theorem mem_fileLocations_iff (h : Writes s place tree tree') (hloc : loc ≠ place) :
    loc ∈ tree'.fileLocations ↔ loc ∈ tree.fileLocations := by
  have hmem : loc ∈ tree'.fileLocations.filter (· != place) ↔
      loc ∈ tree.fileLocations.filter (· != place) := by rw [h.locations]
  simpa [hloc] using hmem

theorem mem_filePaths_iff (h : Writes s place tree tree') (hwf : tree.WellFormed)
    (hpath : path.IsNormal) (hplace : path.location ≠ place) :
    path ∈ tree'.filePaths ↔ path ∈ tree.filePaths := by
  rw [hwf.mem_filePaths hpath, (h.wellFormed hwf).mem_filePaths hpath,
    h.mem_fileLocations_iff hplace]

variable {route : Path}

/-- Specifiers in a file that reaches nothing that was written mean the same as before: a file that is
gone or new among the candidates is the written one. -/
theorem resolve_eq (h : Writes s place tree tree') (hwf : tree.WellFormed)
    (hapart : ∀ path, Reaches tree' resolver route path → path.location ≠ place)
    (hpath : Reaches tree' resolver route path) {specifier : String}
    (hspecifier : specifier ∈ Source.specifiers path (tree'.textOf? path)) :
    resolver.resolve path specifier tree.filePaths.contains =
      resolver.resolve path specifier tree'.filePaths.contains := by
  refine ModuleResolver.resolve_eq_of_imp (fun q hq => ?_) fun target htarget => ?_
  · simpa using h.filePaths_subset (by simpa using hq)
  · have hreach : Reaches tree' resolver route target := hpath.tail ⟨specifier, hspecifier, htarget⟩
    have hmem : target ∈ tree'.filePaths := by simpa using (ModuleResolver.resolve_eq_some htarget).2
    have hnormal := ModuleResolver.isNormal_of_resolve htarget
    simpa using (h.mem_filePaths_iff hwf hnormal (hapart target hreach)).1 hmem

/-- A root file that reaches nothing that was written has the same handlers as before, whatever other
files the two programs have. -/
theorem extractHandlers_eq (h : Writes s place tree tree') (hwf : tree.WellFormed)
    (hroots : ∀ root ∈ roots, root.IsNormal ∧ root.location ∈ tree.fileLocations)
    (hroots' : ∀ root ∈ roots', root.IsNormal ∧ root.location ∈ tree'.fileLocations)
    (hroute : route ∈ roots) (hroute' : route ∈ roots')
    (hapart : ∀ path, Reaches tree' resolver route path → path.location ≠ place)
    (framework : Framework) :
    extractHandlers (tree'.program roots' resolver).checker framework route =
      extractHandlers (tree.program roots resolver).checker framework route := by
  have hwf' := h.wellFormed hwf
  have hloads := loads_program tree resolver fun root hroot => (hroots root hroot).1
  have hloads' := loads_program tree' resolver fun root hroot => (hroots' root hroot).1
  have hnormal : route.IsNormal := (hroots route hroute).1
  have hloaded : ∀ path ∈ {path | Reaches tree' resolver route path},
      (tree'.program roots' resolver).isLoaded path = true ∧
        (tree.program roots resolver).isLoaded path = true := by
    intro path (hpath : Reaches tree' resolver route path)
    induction hpath with
    | refl => exact ⟨hloads'.isLeast.1.roots_mem _ hroute', hloads.isLeast.1.roots_mem _ hroute⟩
    | @tail path target hpath hlead ih =>
      obtain ⟨specifier, hspecifier, hresolve⟩ := hlead
      refine ⟨hloads'.isLeast.1.leads_mem path ih.1 target ⟨specifier, hspecifier, hresolve⟩,
        hloads.isLeast.1.leads_mem path ih.2 target ⟨specifier, ?_, ?_⟩⟩
      · rwa [← h.textOf?_eq hwf (Reaches.isNormal hpath hnormal) (hapart path hpath)]
      · rwa [h.resolve_eq hwf hapart hpath hspecifier]
  refine hloads'.extractHandlers_eq hloads ?_ ?_ hloaded ?_ ?_ ?_ ?_ framework
  · intro root hroot
    obtain ⟨hnormal, hmem⟩ := hroots' root hroot
    simpa using (hwf'.mem_filePaths hnormal).2 hmem
  · intro root hroot
    obtain ⟨hnormal, hmem⟩ := hroots root hroot
    simpa using (hwf.mem_filePaths hnormal).2 hmem
  · exact fun path hpath target hlead => hpath.tail hlead
  · exact fun path hpath => (h.textOf?_eq hwf (Reaches.isNormal hpath hnormal) (hapart path hpath)).symm
  · exact fun path hpath specifier hspecifier => h.resolve_eq hwf hapart hpath hspecifier
  · rw [hnormal.normal_eq]
    exact .refl

end Writes

end FileTree

/-! ## Programs of projects -/

def Configuration.program (config : Configuration) (tree : FileTree) : Except ConfigError Program := do
  let tsconfig ← TsConfig.load tree config.tsconfigPath
  return tree.program (← tsconfig.rootFiles tree) tsconfig.resolver

variable {tree tree' : FileTree} {config : Configuration} {program : Program} {place : Location}
  {s : String}

theorem program_eq_ok : config.program tree = .ok program ↔
    ∃ tsconfig roots, TsConfig.load tree config.tsconfigPath = .ok tsconfig ∧
      tsconfig.rootFiles tree = .ok roots ∧ program = tree.program roots tsconfig.resolver := by
  simp only [Configuration.program, bind_eq_ok]
  constructor
  · rintro ⟨tsconfig, hload, roots, hroots, hprogram⟩
    cases hprogram
    exact ⟨tsconfig, roots, hload, hroots, rfl⟩
  · rintro ⟨tsconfig, roots, hload, hroots, rfl⟩
    exact ⟨tsconfig, hload, roots, hroots, rfl⟩

/-- After a file was written to which the compiler options do not lead there still is a program. It has
the same roots apart from what was written, and those that reach nothing that was written have the same
handlers. -/
theorem FileTree.Writes.program_eq_ok (h : Writes s place tree tree') (hwf : tree.WellFormed)
    (hprogram : config.program tree = .ok program)
    (hoptions : ∀ path, Relation.ReflTransGen (TsConfigLayer.Extends tree')
      config.tsconfigPath.normal path → path.location ≠ place) :
    ∃ program', config.program tree' = .ok program' ∧
      program'.roots.filter (·.location != place) = program.roots.filter (·.location != place) ∧
      ∀ route ∈ program'.roots, route.location ≠ place →
        (∀ path, tree'.Reaches program'.resolver route path → path.location ≠ place) →
          ∀ framework, extractHandlers program'.checker framework route =
            extractHandlers program.checker framework route := by
  obtain ⟨tsconfig, roots, hload, hroots, rfl⟩ := ApiShapes.program_eq_ok.1 hprogram
  have hload' := h.load_eq_ok hwf hload hoptions
  obtain ⟨roots', hroots', hsame⟩ := h.rootFiles_eq hwf hload hroots
  have hfiles := fun root (hroot : root ∈ roots) => TsConfig.mem_rootFiles hwf hload hroots hroot
  have hfiles' := fun root (hroot : root ∈ roots') =>
    TsConfig.mem_rootFiles (h.wellFormed hwf) hload' hroots' hroot
  have hloads := loads_program tree tsconfig.resolver fun root hroot => (hfiles root hroot).1
  have hloads' := loads_program tree' tsconfig.resolver fun root hroot => (hfiles' root hroot).1
  refine ⟨_, ApiShapes.program_eq_ok.2 ⟨tsconfig, roots', hload', hroots', rfl⟩, ?_, ?_⟩
  · rwa [hloads.roots_eq, hloads'.roots_eq]
  · intro route hroute' hplace hreach framework
    rw [hloads'.roots_eq] at hroute'
    rw [hloads'.inv.resolver_eq] at hreach
    have hroute : route ∈ roots := by
      refine List.mem_of_mem_filter (p := (·.location != place)) ?_
      rw [← hsame]
      exact List.mem_filter.2 ⟨hroute', by simpa using hplace⟩
    exact h.extractHandlers_eq hwf hfiles hfiles' hroute hroute' hreach framework

end ApiShapes
