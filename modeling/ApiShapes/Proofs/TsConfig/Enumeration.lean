import ApiShapes.Proofs.FileTree.Walked
import ApiShapes.Proofs.TsConfig.RootFiles

/-!
# Which files are root files, and in which order

* `idxOf_lt_of_eraseDups` : without repetitions, items stand in the order in which they came first;
* `TsConfig.Lists` : the files that a configuration lists, as far as they exist;
* `TsConfig.SourceBelow`, `TsConfig.Finds` : the source files that are found below its directory;
* `TsConfig.nodup_roots` : none of the ones and the others is there twice.
-/

namespace ApiShapes

/-- Without repetitions, items stand in the order in which they came first. -/
theorem idxOf_lt_of_eraseDups {α : Type} [DecidableEq α] (as : List α) :
    as.eraseDups.Pairwise fun a b => as.idxOf a < as.idxOf b := by
  induction as with
  | nil => exact .nil
  | cons a as ih =>
    rw [List.eraseDups_cons, eraseDups_filter]
    refine List.pairwise_cons.2 ⟨fun b hb => ?_, ?_⟩
    · have hne : b ≠ a := by simpa using (List.mem_filter.1 hb).2
      rw [List.idxOf_cons_self, List.idxOf_cons_ne _ hne.symm]
      exact Nat.succ_pos _
    · refine List.Pairwise.imp_of_mem (fun {b c} hb hc hlt => ?_) (ih.filter _)
      have hb : b ≠ a := by simpa using (List.mem_filter.1 hb).2
      have hc : c ≠ a := by simpa using (List.mem_filter.1 hc).2
      rw [List.idxOf_cons_ne _ hb.symm, List.idxOf_cons_ne _ hc.symm]
      exact Nat.succ_lt_succ hlt

namespace FileTree

variable {tree : FileTree} {dir file : Path} {skipped : String}

namespace Distinct

/-- The files below a directory are those that names lead to, through no directory that is skipped. -/
theorem mem_filesBelow_iff (h : tree.Distinct) : file ∈ tree.filesBelow skipped dir ↔
    ∃ base names content, tree.locate dir = .ok (base, .directory) ∧ file = names.foldl Path.child dir ∧
      tree.entryAt (base ++ names) = some (.file content) ∧
      skipped ∉ dir.fileName.toList ++ names.dropLast := by
  constructor
  · intro hfile
    unfold filesBelow at hfile
    split at hfile
    · rename_i base hlocate
      split at hfile
      · cases hfile
      · rename_i hname
        obtain ⟨names, hnames, rfl⟩ := List.mem_map.1 hfile
        obtain ⟨hmem, hskipped⟩ := mem_namesBelow_iff.1 hnames
        obtain ⟨content, hentry⟩ := h.mem_fileLocations_iff.1 hmem
        refine ⟨base, names, content, hlocate, rfl, hentry, ?_⟩
        rw [List.mem_append, Option.mem_toList, not_or]
        exact ⟨by simpa using hname, hskipped⟩
    · cases hfile
  · rintro ⟨base, names, content, hlocate, rfl, hentry, hskipped⟩
    rw [List.mem_append, Option.mem_toList, not_or] at hskipped
    rw [filesBelow_eq hlocate, if_neg (by simpa using hskipped.1)]
    exact List.mem_map_of_mem (mem_namesBelow_iff.2 ⟨mem_fileLocations_of_entryAt hentry, hskipped.2⟩)

/-- Below a directory no file is listed twice. -/
theorem nodup_filesBelow (h : tree.Distinct) (hwf : tree.WellFormed) (hdir : dir.IsNormal)
    (skipped : String) : (tree.filesBelow skipped dir).Nodup := by
  unfold filesBelow
  split
  · rename_i base hlocate
    obtain ⟨-, rfl, -⟩ := (hwf.locate_iff hdir).1 hlocate
    split
    · exact .nil
    · refine List.pairwise_map.2 ((h.sorted_namesBelow skipped _).imp_of_mem ?_)
      intro as bs has hbs hlt heq
      have hlocation := congrArg Path.location heq
      rw [(hwf.foldl_child hdir (mem_namesBelow has)).2, (hwf.foldl_child hdir (mem_namesBelow hbs)).2]
        at hlocation
      exact hlt.2 (List.append_cancel_left hlocation)
  · exact .nil

end Distinct

end FileTree

namespace TsConfig

variable {tree loaded : FileTree} {config : TsConfig} {path file : Path} {listed found : List Path}
  {included excluded : List GlobPattern}

/-- The files of the list are the existing ones that the configuration lists, in the order in which it
lists them first. -/
structure Lists (config : TsConfig) (tree : FileTree) (listed : List Path) : Prop where
  mem_iff : ∀ file, file ∈ listed ↔
    file ∈ config.files ∧ ∃ content, tree.entryAt file.location = some (.file content)
  inOrder : listed.Pairwise fun file other => config.files.idxOf file < config.files.idxOf other

/-- Names lead from the directory to the source file. No directory on the way is called `node_modules`, be
it the one where the way starts. -/
def SourceBelow (tree : FileTree) (dir file : Path) : Prop :=
  ∃ base names content, tree.locate dir = .ok (base, .directory) ∧ file = names.foldl Path.child dir ∧
    tree.entryAt (base ++ names) = some (.file content) ∧
    "node_modules" ∉ dir.fileName.toList ++ names.dropLast ∧
    (file.extension = some "ts" ∨ file.extension = some "tsx")

/-- The files of the list are the source files below the configuration's directory that are included, not
excluded and not listed, in the order of a walk. -/
structure Finds (config : TsConfig) (tree : FileTree) (included excluded : List GlobPattern)
    (listed found : List Path) : Prop where
  mem_iff : ∀ file, file ∈ found ↔ SourceBelow tree config.directory file ∧
    (∃ pattern ∈ included, pattern.accepts file.text = true) ∧
    (∀ pattern ∈ excluded, pattern.accepts file.text = false) ∧ file ∉ listed
  inOrder : ∀ base, tree.locate config.directory = .ok (base, .directory) →
    ∃ visited, (∀ files, tree.Walk "node_modules" config.directory base files ↔ files = visited) ∧
      found.Sublist visited

theorem lists_listedFiles (hwf : tree.WellFormed) (hfiles : ∀ file ∈ config.files, file.IsNormal) :
    config.Lists tree (config.listedFiles tree) where
  mem_iff file := by
    rw [mem_listedFiles]
    exact and_congr_right fun hfile => hwf.isFile_iff (hfiles file hfile)
  inOrder := by
    rw [listedFiles, eraseDups_filter]
    exact (idxOf_lt_of_eraseDups config.files).filter _

theorem finds_foundFiles (hwf : tree.WellFormed) (hdistinct : tree.Distinct)
    (hdir : config.directory.IsNormal) (included excluded : List GlobPattern) :
    config.Finds tree included excluded (config.listedFiles tree)
      (config.foundFiles tree included excluded) where
  mem_iff file := by
    have hkept : (file.isTypeScript && accepted included file && !accepted excluded file &&
        !(config.listedFiles tree).contains file) = true ↔
          (file.extension = some "ts" ∨ file.extension = some "tsx") ∧
          (∃ pattern ∈ included, pattern.accepts file.text = true) ∧
          (∀ pattern ∈ excluded, pattern.accepts file.text = false) ∧
          file ∉ config.listedFiles tree := by
      simp [Path.isTypeScript, accepted, and_assoc]
    rw [foundFiles, List.mem_filter, hdistinct.mem_filesBelow_iff, hkept, ← and_assoc]
    refine and_congr_left fun _ => ?_
    constructor
    · rintro ⟨⟨base, names, content, hlocate, hfile, hentry, hskipped⟩, hextension⟩
      exact ⟨base, names, content, hlocate, hfile, hentry, hskipped, hextension⟩
    · rintro ⟨base, names, content, hlocate, hfile, hentry, hskipped, hextension⟩
      exact ⟨⟨base, names, content, hlocate, hfile, hentry, hskipped⟩, hextension⟩
  inOrder base hlocate := by
    have hwalk := hdistinct.walk_filesBelow hwf hdir hlocate "node_modules"
    refine ⟨_, fun files => ⟨fun h => h.unique hwalk, ?_⟩, List.filter_sublist⟩
    rintro rfl
    exact hwalk

/-- Root files have paths in normal form, and none of them is there twice. -/
theorem nodup_roots (hwf : tree.WellFormed) (hdistinct : tree.Distinct)
    (hdir : config.directory.IsNormal) (hfiles : ∀ file ∈ config.files, file.IsNormal)
    (included excluded : List GlobPattern) :
    (∀ root ∈ config.listedFiles tree ++ config.foundFiles tree included excluded, root.IsNormal) ∧
      (config.listedFiles tree ++ config.foundFiles tree included excluded).Nodup := by
  have hlisted : (config.listedFiles tree).Nodup :=
    (lists_listedFiles hwf hfiles).inOrder.imp fun hlt heq => by
      rw [heq] at hlt
      exact lt_irrefl _ hlt
  have hfound : (config.foundFiles tree included excluded).Nodup :=
    (hdistinct.nodup_filesBelow hwf hdir "node_modules").filter _
  constructor
  · intro root hroot
    rcases List.mem_append.1 hroot with hroot | hroot
    · exact hfiles root (mem_listedFiles.1 hroot).1
    · exact (hwf.mem_filesBelow hdir (List.mem_of_mem_filter hroot)).1
  · refine List.nodup_append.2 ⟨hlisted, hfound, ?_⟩
    rintro root hroot _ hfound rfl
    exact (((finds_foundFiles hwf hdistinct hdir included excluded).mem_iff root).1 hfound).2.2.2 hroot

end TsConfig

end ApiShapes
