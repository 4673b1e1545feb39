import ApiShapes.Artifact.Render
import ApiShapes.Proofs.Alike.Blocks
import ApiShapes.Proofs.Alike.Handlers
import ApiShapes.Proofs.Alike.Program
import ApiShapes.Proofs.Program.Modules
import Mathlib.Logic.Relation

/-!
# A route depends only on the files it reaches

* `Reaches sources file path` : imports and re-exports lead from the one file to the other;
* `SameReach sources sources' file` : what the file reaches is the same in both lists of texts;
* `Loads.extractHandlers_eq` : files that two programs share have the same handlers in both, though the
  nodes are numbered differently;
* `sameOutput_of_sameReach` : so a file that reaches the same has the same handlers and the same artifact;
* `SameReach.of_perm` : neither the order of the texts nor texts that no specifier may mean matter.
-/

namespace ApiShapes

/-! ## Programs that are loaded from other files -/

namespace Loads

variable {exist exist' : Path → Bool} {read read' : Path → Option String} {roots roots' : List Path}
  {resolver resolver' : ModuleResolver} {p p' : Program} {files : Set Path}

/-- A specifier of a shared file resolves to one shared path, or to none. -/
theorem sameModules (h : Loads exist read roots resolver p)
    (h' : Loads exist' read' roots' resolver' p') (hroots : ∀ root ∈ roots, exist root = true)
    (hroots' : ∀ root ∈ roots', exist' root = true)
    (hloaded : ∀ path ∈ files, p.isLoaded path = true ∧ p'.isLoaded path = true)
    (hleads : ∀ path ∈ files, ∀ target, Leads resolver exist read path target → target ∈ files)
    (hread : ∀ path ∈ files, read' path = read path)
    (hresolve : ∀ path ∈ files, ∀ specifier ∈ Source.specifiers path (read path),
      resolver'.resolve path specifier exist' = resolver.resolve path specifier exist) :
    SameModules p p' read files := by
  intro path hpath file file' hfile hfile' specifier hspecifier
  have hp := h.inv.assembled
  have hp' := h'.inv.assembled
  rw [h.moduleNamed?_eq hroots (hp.mem_files_iff.1 hfile) hspecifier,
    h'.moduleNamed?_eq hroots' (hp'.mem_files_iff.1 hfile') (by rwa [hread path hpath]),
    hresolve path hpath specifier hspecifier]
  cases htarget : resolver.resolve path specifier exist with
  | none => exact .none
  | some target =>
    have hmem : target ∈ files := hleads path hpath target ⟨specifier, hspecifier, htarget⟩
    obtain ⟨hone, htwo⟩ := hloaded target hmem
    obtain ⟨node, hnode⟩ := Option.isSome_iff_exists.1 hone
    obtain ⟨node', hnode'⟩ := Option.isSome_iff_exists.1 htwo
    rw [Option.bind_some, Option.bind_some, hnode, hnode']
    exact .some ⟨target, hmem, hp.lookup_iff_mem.1 hnode, hp'.lookup_iff_mem.1 hnode'⟩

/-- A shared file has the same handlers in both programs, though their nodes are numbered
differently. -/
theorem extractHandlers_eq (h : Loads exist read roots resolver p)
    (h' : Loads exist' read' roots' resolver' p') (hroots : ∀ root ∈ roots, exist root = true)
    (hroots' : ∀ root ∈ roots', exist' root = true)
    (hloaded : ∀ path ∈ files, p.isLoaded path = true ∧ p'.isLoaded path = true)
    (hleads : ∀ path ∈ files, ∀ target, Leads resolver exist read path target → target ∈ files)
    (hread : ∀ path ∈ files, read' path = read path)
    (hresolve : ∀ path ∈ files, ∀ specifier ∈ Source.specifiers path (read path),
      resolver'.resolve path specifier exist' = resolver.resolve path specifier exist)
    {file : Path} (hfile : file.normal ∈ files) (framework : Framework) :
    extractHandlers p.checker framework file = extractHandlers p'.checker framework file := by
  have hp := h.inv.assembled
  have hp' := h'.inv.assembled
  have halike : Program.Alike (Twin p p' read files) p p' :=
    twin_alike hp hp' hread (h.sameModules h' hroots hroots' hloaded hleads hread hresolve)
  obtain ⟨hone, htwo⟩ := hloaded _ hfile
  obtain ⟨node, hnode⟩ := Option.isSome_iff_exists.1 hone
  obtain ⟨node', hnode'⟩ := Option.isSome_iff_exists.1 htwo
  have htwin : Twin p p' read files node node' :=
    twin_of_mem_files hp hp' hread hfile (hp.lookup_iff_mem.1 hnode) (hp'.lookup_iff_mem.1 hnode')
  refine ApiShapes.extractHandlers_eq halike.checker (halike.defaultExport ?_)
  rw [Program.fileNode?, Program.fileNode?, hnode, hnode']
  exact .some htwin

end Loads

/-! ## Lists of texts -/

def normalTexts (sources : List (Path × String)) : List (Path × String) :=
  sources.map fun (path, source) => (path.normal, source)

def normalPaths (sources : List (Path × String)) : List Path :=
  (normalTexts sources).map (·.1)

/-- The text of a file. Of two texts with one path the later one counts. -/
def textOf (sources : List (Path × String)) (path : Path) : Option String :=
  (normalTexts sources).reverse.lookup path

/-- Specifiers of import bindings, re-exports and whole exports lead from `file` to `path`. -/
def Reaches (sources : List (Path × String)) (file path : Path) : Prop :=
  Relation.ReflTransGen (Leads {} (normalPaths sources).contains (textOf sources)) file.normal path

/-- What the file reaches has the same text in both lists, and leads to the same files. -/
structure SameReach (sources sources' : List (Path × String)) (file : Path) : Prop where
  text : ∀ path, Reaches sources file path → textOf sources' path = textOf sources path
  resolve : ∀ path, Reaches sources file path →
    ∀ specifier ∈ Source.specifiers path (textOf sources path),
      ModuleResolver.resolve {} path specifier (normalPaths sources').contains =
        ModuleResolver.resolve {} path specifier (normalPaths sources).contains

/-- The file has the same handlers in both programs, and the same artifact. -/
def SameOutput (p p' : Program) (file : Path) : Prop :=
  ∀ framework, extractHandlers p.checker framework file = extractHandlers p'.checker framework file ∧
    ∀ input, renderArtifact p.checker framework input [file] =
      renderArtifact p'.checker framework input [file]

variable {sources sources' : List (Path × String)} {file path : Path}

theorem loads_ofSources (sources : List (Path × String)) :
    Loads (normalPaths sources).contains (textOf sources) (normalPaths sources) {}
      (Program.ofSources sources) := by
  have hroots : (normalPaths sources).map Path.normal = normalPaths sources := by
    simp [normalPaths, normalTexts, Path.normal_normal]
  have hload := loads_load (normalPaths sources) {} (normalPaths sources) (textOf sources)
  rwa [hroots] at hload

theorem textOf_isSome : (textOf sources path).isSome = true ↔ path ∈ normalPaths sources := by
  rw [textOf, List.lookup_isSome_iff, normalPaths, List.mem_map]
  apply exists_congr
  intro entry
  rw [List.mem_reverse, beq_iff_eq, eq_comm]

theorem isLoaded_ofSources :
    (Program.ofSources sources).isLoaded path = true ↔ path ∈ normalPaths sources := by
  have h := loads_ofSources sources
  constructor
  · intro hpath
    simpa using h.exist_of_isLoaded (by simp) hpath
  · exact h.isLeast.1.roots_mem path

/-- Only texts of the list are reached. -/
theorem Reaches.mem_normalPaths (h : Reaches sources file path)
    (hfile : file.normal ∈ normalPaths sources) : path ∈ normalPaths sources := by
  induction h with
  | refl => exact hfile
  | tail _ hlead _ =>
    obtain ⟨specifier, -, hresolve⟩ := hlead
    simpa using (ModuleResolver.resolve_eq_some hresolve).2

/-- Files that lead only to each other hold all that one of them reaches. -/
theorem Reaches.mem_of_closed {files : List Path} (h : Reaches sources file path)
    (hfile : file.normal ∈ files)
    (hclosed : ∀ path ∈ files, ∀ specifier ∈ Source.specifiers path (textOf sources path),
      ∀ target ∈ ModuleResolver.resolve {} path specifier (normalPaths sources).contains,
        target ∈ files) : path ∈ files := by
  induction h with
  | refl => exact hfile
  | tail _ hlead ih =>
    obtain ⟨specifier, hspecifier, hresolve⟩ := hlead
    exact hclosed _ ih specifier hspecifier _ hresolve

/-! ## Sharing what a file reaches -/

theorem SameReach.mem_normalPaths (h : SameReach sources sources' file)
    (hpath : Reaches sources file path) (hmem : path ∈ normalPaths sources) :
    path ∈ normalPaths sources' := by
  rw [← textOf_isSome] at hmem ⊢
  rw [h.text path hpath]
  exact hmem

theorem sameOutput_of_sameReach (h : SameReach sources sources' file)
    (hfile : file.normal ∈ normalPaths sources) :
    SameOutput (.ofSources sources) (.ofSources sources') file := by
  have hloaded : ∀ path, Reaches sources file path →
      (Program.ofSources sources).isLoaded path = true ∧
        (Program.ofSources sources').isLoaded path = true := by
    intro path hpath
    have hmem : path ∈ normalPaths sources := hpath.mem_normalPaths hfile
    rw [isLoaded_ofSources, isLoaded_ofSources]
    exact ⟨hmem, h.mem_normalPaths hpath hmem⟩
  intro framework
  have hhandlers : extractHandlers (Program.ofSources sources).checker framework file =
      extractHandlers (Program.ofSources sources').checker framework file :=
    (loads_ofSources sources).extractHandlers_eq (loads_ofSources sources') (by simp) (by simp)
      hloaded (fun path hpath target hlead => hpath.tail hlead) h.text h.resolve .refl framework
  refine ⟨hhandlers, fun input => ?_⟩
  simp [renderArtifact, fileRecords, hhandlers]

/-! ## Other orders and other texts -/

/-- Of texts with different paths the order does not matter. -/
theorem textOf_eq_some_iff (h : (normalPaths sources).Nodup) {source : String} :
    textOf sources path = some source ↔ (path, source) ∈ normalTexts sources := by
  rw [textOf, Program.lookup_eq_some_iff_mem, List.mem_reverse]
  rw [List.map_reverse, List.nodup_reverse]
  exact h

theorem normalTexts_perm {others : List (Path × String)} (h : sources'.Perm (sources ++ others)) :
    (normalTexts sources').Perm (normalTexts sources ++ normalTexts others) := by
  have hmap := h.map fun (path, source) => (Path.normal path, source)
  rwa [List.map_append] at hmap

theorem normalPaths_perm {others : List (Path × String)} (h : sources'.Perm (sources ++ others)) :
    (normalPaths sources').Perm (normalPaths sources ++ normalPaths others) := by
  have hmap := (normalTexts_perm h).map (·.1)
  rwa [List.map_append] at hmap

/-- Texts are unrelated to what the file reaches if no specifier there may mean one of them. -/
def Unrelated (sources : List (Path × String)) (file : Path) (others : List (Path × String)) : Prop :=
  ∀ path, Reaches sources file path → ∀ specifier ∈ Source.specifiers path (textOf sources path),
    ∀ target ∈ ModuleResolver.candidates {} path specifier, target ∉ normalPaths others

theorem SameReach.of_perm {others : List (Path × String)} (hperm : sources'.Perm (sources ++ others))
    (hnodup : (normalPaths sources').Nodup) (hothers : Unrelated sources file others)
    (hfile : file.normal ∈ normalPaths sources) : SameReach sources sources' file where
  text path hpath := by
    have hmem : path ∈ normalPaths sources := hpath.mem_normalPaths hfile
    have hboth := (normalPaths_perm hperm).nodup_iff.1 hnodup
    obtain ⟨hsources, -, hdisjoint⟩ := List.nodup_append.1 hboth
    have hnot : ∀ source, (path, source) ∉ normalTexts others := by
      intro source hsource
      exact hdisjoint path hmem path (List.mem_map.2 ⟨_, hsource, rfl⟩) rfl
    ext source
    rw [textOf_eq_some_iff hnodup, textOf_eq_some_iff hsources, (normalTexts_perm hperm).mem_iff,
      List.mem_append]
    exact or_iff_left (hnot source)
  resolve path hpath specifier hspecifier := by
    apply ModuleResolver.resolve_congr
    intro target htarget
    have hnot : target ∉ normalPaths others := hothers path hpath specifier hspecifier target htarget
    rw [Bool.eq_iff_iff]
    simp [(normalPaths_perm hperm).mem_iff, hnot]

/-- **A route depends only on the files that it reaches.** If two lists of texts agree on the files
that `file` reaches, on their texts and on what their specifiers resolve to, then it has the same
handlers and the same artifact in the programs of both. So it does if the texts stand in another order,
among others that no specifier in these files may mean. -/
theorem ofSources_isolated (sources : List (Path × String)) (file : Path)
    (hfile : file.normal ∈ normalPaths sources) :
    (∀ sources', SameReach sources sources' file →
      SameOutput (.ofSources sources) (.ofSources sources') file) ∧
      ∀ others sources', sources'.Perm (sources ++ others) → (normalPaths sources').Nodup →
        Unrelated sources file others →
          SameOutput (.ofSources sources) (.ofSources sources') file := by
  refine ⟨fun sources' h => sameOutput_of_sameReach h hfile, ?_⟩
  intro others sources' hperm hnodup hothers
  exact sameOutput_of_sameReach (.of_perm hperm hnodup hothers hfile) hfile

/-- A route and the module of its type, once alone and once behind another route, which the first does
not reach; and once with another text for the other route as well. -/
theorem ofSources_isolated_reordered :
    let route := (Path.ofString "pages/api/a.ts", "import { B } from '../../b'; export default {};")
    let shape := (Path.ofString "b.ts", "export type B = { id: string };")
    let other := (Path.ofString "pages/api/c.ts", "import { B } from '../../b'; export default {};")
    SameOutput (.ofSources [route, shape]) (.ofSources [other, shape, route]) route.1 ∧
      SameOutput (.ofSources [route, shape, other]) (.ofSources [shape, (other.1, ""), route])
        route.1 := by
  intro route shape other
  have hclosed : ∀ sources ∈ [[route, shape], [route, shape, other]], ∀ path ∈ [route.1, shape.1],
      ∀ specifier ∈ Source.specifiers path (textOf sources path),
        ∀ target ∈ ModuleResolver.resolve {} path specifier (normalPaths sources).contains,
          target ∈ [route.1, shape.1] := by
    decide +kernel
  have hreach : ∀ sources ∈ [[route, shape], [route, shape, other]], ∀ path,
      Reaches sources route.1 path → path ∈ [route.1, shape.1] := by
    intro sources hsources path hpath
    exact hpath.mem_of_closed (by decide +kernel) (hclosed sources hsources)
  constructor
  · refine (ofSources_isolated [route, shape] route.1 (by decide +kernel)).2 [other] _
      (by decide +kernel) (by decide +kernel) fun path hpath => ?_
    have hmem := hreach _ (by simp) path hpath
    clear hpath
    revert path
    decide +kernel
  · refine (ofSources_isolated [route, shape, other] route.1 (by decide +kernel)).1 _
      ⟨fun path hpath => ?_, fun path hpath => ?_⟩
    all_goals
      have hmem := hreach _ (by simp) path hpath
      clear hpath
      revert path
      decide +kernel

end ApiShapes
