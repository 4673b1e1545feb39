import ApiShapes.Proofs.TsConfig.Reading

/-!
# Root files after a file was written

* `TsConfig.load_directory` : a configuration stands in a directory;
* `TsConfig.mem_rootFiles` : a root file has a path in normal form and leads to a file;
* `FileTree.Writes.load_eq_ok`, `FileTree.Writes.rootFiles_eq` : the configuration is the same as before if
  it leads to nothing that was written, and so are the root files apart from the written one.
-/

namespace ApiShapes

theorem eraseDups_filter {α : Type} [DecidableEq α] (p : α → Bool) (as : List α) :
    (as.filter p).eraseDups = as.eraseDups.filter p := by
  match as with
  | [] => rfl
  | a :: as =>
    have hshorter : (as.filter fun b => !b == a).length ≤ as.length := List.length_filter_le _ as
    have ih := eraseDups_filter p (as.filter fun b => !b == a)
    rw [List.eraseDups_cons]
    by_cases ha : p a = true
    · rw [List.filter_cons_of_pos ha, List.filter_cons_of_pos ha, List.eraseDups_cons, ← ih,
        List.filter_comm]
    · rw [List.filter_cons_of_neg ha, List.filter_cons_of_neg ha, ← ih, List.filter_filter]
      congr 1
      refine List.filter_congr fun b _ => ?_
      by_cases hb : b = a
      · simp [hb, ha]
      · simp [hb]
termination_by as.length

namespace TsConfig

variable {tree tree' : FileTree} {place : Location} {path : Path} {config : TsConfig}
  {roots : List Path} {s : String}

theorem load_eq_ok : load tree path = .ok config ↔
    ∃ layer, TsConfigLayer.load tree path.normal = .ok layer ∧
      config = ofLayer path.normal (path.normal.parent.getD .empty) layer := by
  rw [load, bind_eq_ok]
  exact exists_congr fun layer => and_congr_right fun _ => by
    rw [pure, Applicative.toPure, Monad.toApplicative]
    constructor
    · rintro ⟨⟩
      rfl
    · rintro rfl
      rfl

def directory (config : TsConfig) : Path :=
  config.path.parent.getD .empty

/-- A configuration stands in a directory. -/
theorem load_directory (hwf : tree.WellFormed) (h : load tree path = .ok config) :
    config.directory.IsNormal ∧ tree.entryAt config.directory.location = some .directory := by
  obtain ⟨layer, hlayer, rfl⟩ := load_eq_ok.1 h
  obtain ⟨loc, source, -, -, htext, -⟩ := TsConfigLayer.loadFrom_eq_ok.1 hlayer
  obtain ⟨rfl, hentry⟩ := (hwf.textAt_iff path.normal_isNormal).1 htext
  have hroot : path.normal.location ≠ [] := by
    intro hnil
    rw [hnil] at hentry
    cases hentry
  obtain ⟨dir, hparent, hnormal, hlocation⟩ := path.normal_isNormal.exists_parent hroot
  have hdir : (ofLayer path.normal (path.normal.parent.getD .empty) layer).directory = dir := by
    rw [directory, ofLayer, hparent]
    rfl
  rw [hdir, hlocation]
  exact ⟨hnormal, hwf.entryAt_dropLast hentry⟩

theorem load_files (h : load tree path = .ok config) : ∀ file ∈ config.files, file.IsNormal := by
  obtain ⟨layer, hlayer, rfl⟩ := load_eq_ok.1 h
  have hnormal := TsConfigLayer.listsNormal_of_loadFrom hlayer
  intro file hfile
  cases hfiles : layer.files with
  | none => simp [ofLayer, hfiles] at hfile
  | some files => exact hnormal files hfiles file (by simpa [ofLayer, hfiles] using hfile)

/-! ## Root files -/

/-- The files that a configuration lists, as far as they exist. -/
def listedFiles (config : TsConfig) (tree : FileTree) : List Path :=
  (config.files.filter tree.isFile).eraseDups

/-- The source files below the configuration's directory that are included, not excluded and not listed. -/
def foundFiles (config : TsConfig) (tree : FileTree) (included excluded : List GlobPattern) :
    List Path :=
  (tree.filesBelow "node_modules" config.directory).filter fun path =>
    path.isTypeScript && accepted included path && !accepted excluded path &&
      !(config.listedFiles tree).contains path

theorem rootFiles_eq_ok : config.rootFiles tree = .ok roots ↔
    ∃ included excluded, compilePatterns config.included = .ok included ∧
      compilePatterns config.excluded = .ok excluded ∧
      roots = config.listedFiles tree ++ config.foundFiles tree included excluded := by
  simp only [rootFiles, bind_eq_ok]
  constructor
  · rintro ⟨included, hincluded, excluded, hexcluded, hroots⟩
    cases hroots
    exact ⟨included, excluded, hincluded, hexcluded, rfl⟩
  · rintro ⟨included, excluded, hincluded, hexcluded, rfl⟩
    exact ⟨included, hincluded, excluded, hexcluded, rfl⟩

theorem mem_listedFiles : path ∈ config.listedFiles tree ↔
    path ∈ config.files ∧ tree.isFile path = true := by
  rw [listedFiles, List.mem_eraseDups, List.mem_filter]

/-- A root file has a path in normal form and leads to a file. -/
theorem mem_rootFiles (hwf : tree.WellFormed) (h : load tree path = .ok config)
    (hroots : config.rootFiles tree = .ok roots) {root : Path} (hroot : root ∈ roots) :
    root.IsNormal ∧ root.location ∈ tree.fileLocations := by
  obtain ⟨included, excluded, -, -, rfl⟩ := rootFiles_eq_ok.1 hroots
  rcases List.mem_append.1 hroot with hroot | hroot
  · obtain ⟨hfile, hisFile⟩ := mem_listedFiles.1 hroot
    have hnormal := load_files h root hfile
    obtain ⟨content, hentry⟩ := (hwf.isFile_iff hnormal).1 hisFile
    exact ⟨hnormal, FileTree.mem_fileLocations_of_entryAt hentry⟩
  · exact hwf.mem_filesBelow (load_directory hwf h).1 (List.mem_of_mem_filter hroot)

end TsConfig

namespace FileTree.Writes
open TsConfig TsConfigLayer

variable {tree tree' : FileTree} {place : Location} {path : Path} {config : TsConfig}
  {roots : List Path} {s : String}

/-- A configuration that leads to nothing that was written is the same as before. -/
theorem load_eq_ok (h : Writes s place tree tree') (hwf : tree.WellFormed)
    (hload : TsConfig.load tree path = .ok config)
    (hplace : ∀ q, Relation.ReflTransGen (Extends tree') path.normal q → q.location ≠ place) :
    TsConfig.load tree' path = .ok config := by
  obtain ⟨layer, hlayer, rfl⟩ := TsConfig.load_eq_ok.1 hload
  refine TsConfig.load_eq_ok.2 ⟨layer, ?_, rfl⟩
  exact h.loadFrom_eq_ok hwf hlayer path.normal_isNormal hplace
    (List.map_subset _ (List.cons_subset_cons _ h.filePaths_subset))

theorem listedFiles_eq (h : Writes s place tree tree') (hwf : tree.WellFormed)
    (hload : TsConfig.load tree path = .ok config) :
    (config.listedFiles tree').filter (·.location != place) =
      (config.listedFiles tree).filter (·.location != place) := by
  rw [listedFiles, listedFiles, ← eraseDups_filter, ← eraseDups_filter, List.filter_filter,
    List.filter_filter]
  congr 1
  refine List.filter_congr fun file hfile => ?_
  by_cases hplace : file.location = place
  · simp [hplace]
  · rw [h.isFile_eq hwf (load_files hload file hfile) hplace]

theorem foundFiles_eq (h : Writes s place tree tree') (hwf : tree.WellFormed)
    (hload : TsConfig.load tree path = .ok config) (included excluded : List GlobPattern) :
    (config.foundFiles tree' included excluded).filter (·.location != place) =
      (config.foundFiles tree included excluded).filter (·.location != place) := by
  obtain ⟨hdir, hentry⟩ := load_directory hwf hload
  rw [foundFiles, foundFiles, List.filter_comm, h.filesBelow_eq hwf hdir hentry,
    List.filter_comm (p := fun file : Path => file.location != place)]
  refine List.filter_congr fun file hfile => ?_
  have hplace := (List.mem_filter.1 hfile).2
  have hlisted : (config.listedFiles tree').contains file = (config.listedFiles tree).contains file := by
    have hmem : ∀ files : List Path,
        files.contains file = (files.filter (·.location != place)).contains file := by
      intro files
      rw [Bool.eq_iff_iff]
      simp_all
    rw [hmem, h.listedFiles_eq hwf hload, ← hmem]
  rw [hlisted]

/-- Apart from what was written, the root files are the same as before. -/
theorem rootFiles_eq (h : Writes s place tree tree') (hwf : tree.WellFormed)
    (hload : TsConfig.load tree path = .ok config) (hroots : config.rootFiles tree = .ok roots) :
    ∃ roots', config.rootFiles tree' = .ok roots' ∧
      roots'.filter (·.location != place) = roots.filter (·.location != place) := by
  obtain ⟨included, excluded, hincluded, hexcluded, rfl⟩ := rootFiles_eq_ok.1 hroots
  refine ⟨_, rootFiles_eq_ok.2 ⟨included, excluded, hincluded, hexcluded, rfl⟩, ?_⟩
  rw [List.filter_append, List.filter_append, h.listedFiles_eq hwf hload,
    h.foundFiles_eq hwf hload]

end FileTree.Writes

end ApiShapes
